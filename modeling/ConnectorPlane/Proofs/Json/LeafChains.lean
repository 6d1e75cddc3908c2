import ConnectorPlane.Proofs.Json.KeptSecrets

/-! # Masking and stripping, leaf by leaf

`Json.mask` and `Json.strip` walk a document with an accumulated path prefix: the members of an
object reached by the keys `k₁ … kₙ` are visited under the prefix `k₁.….kₙ.`. Said without the
prefix, a leaf is a member value that is not an object, named by the chain of keys that reaches
it through objects, and its path is that chain joined by dots.

* `Json.mapLeaves f`: every leaf `v` at the chain `ks` replaced by `f ks v`; objects are kept and
  walked below, whatever their own chain; a document that is not an object is left alone.
* `Json.filterLeaves keep`: every leaf at a chain `keep` refuses removed from its object;
  objects stay, even when left empty.
* `Json.chainPrefix_append_key`: the prefix of a chain followed by a key is the path of the
  chain extended by that key, which is how the two walks name the same leaf.
* `Json.mask_and_strip_by_key_chains`: masking replaces exactly the leaves whose path the
  predicate calls a credential by the sentinel, and stripping the masked document removes
  exactly those leaves.
-/

namespace ConnectorPlane

namespace Json

/-- Every leaf under an object's members rewritten by `f`, given the chain of keys that reaches
it; `ks` is the chain of the object itself. -/
def mapLeavesIn (f : List String → Json → Json) (ks : List String) :
    List (String × Json) → List (String × Json)
  | [] => []
  | (k, .obj child) :: rest => (k, .obj (mapLeavesIn f (ks ++ [k]) child)) :: mapLeavesIn f ks rest
  | (k, v) :: rest => (k, f (ks ++ [k]) v) :: mapLeavesIn f ks rest
termination_by fs => sizeOf fs
decreasing_by
  all_goals simp only [List.cons.sizeOf_spec, Prod.mk.sizeOf_spec, Json.obj.sizeOf_spec]
  all_goals omega

/-- A document with every leaf `v` at the chain `ks` replaced by `f ks v`. -/
def mapLeaves (f : List String → Json → Json) : Json → Json
  | .obj fs => .obj (mapLeavesIn f [] fs)
  | v => v

/-- Drops, among an object's members, every leaf at a chain `keep` refuses; `ks` is the chain of
the object itself. -/
def filterLeavesIn (keep : List String → Json → Bool) (ks : List String) :
    List (String × Json) → List (String × Json)
  | [] => []
  | (k, .obj child) :: rest =>
    (k, .obj (filterLeavesIn keep (ks ++ [k]) child)) :: filterLeavesIn keep ks rest
  | (k, v) :: rest =>
    if keep (ks ++ [k]) v then (k, v) :: filterLeavesIn keep ks rest
    else filterLeavesIn keep ks rest
termination_by fs => sizeOf fs
decreasing_by
  all_goals simp only [List.cons.sizeOf_spec, Prod.mk.sizeOf_spec, Json.obj.sizeOf_spec]
  all_goals omega

/-- A document without the leaves `keep` refuses. -/
def filterLeaves (keep : List String → Json → Bool) : Json → Json
  | .obj fs => .obj (filterLeavesIn keep [] fs)
  | v => v

/-- The prefix under which the members of the object at a chain of keys are walked: each key
followed by a dot. -/
def chainPrefix (ks : List String) : String := String.join (ks.map (· ++ "."))

/-! ## Prefixes and paths -/

@[simp] theorem chainPrefix_nil : chainPrefix [] = "" := rfl

theorem chainPrefix_append (ks : List String) (k : String) :
    chainPrefix (ks ++ [k]) = chainPrefix ks ++ k ++ "." := by
  simp [chainPrefix, String.append_assoc]

/-- **A member's path is its object's prefix followed by its key.** -/
theorem chainPrefix_append_key : ∀ (ks : List String) (k : String),
    chainPrefix ks ++ k = ".".intercalate (ks ++ [k])
  | [], k => by simp
  | j :: ks, k => by
    have hne : ks ++ [k] ≠ [] := by simp
    rw [List.cons_append, String.intercalate_cons_of_ne_nil hne, ← chainPrefix_append_key ks k]
    simp [chainPrefix, String.append_assoc]

/-! ## The two walks, member by member -/

section Walk

variable {p : String → Bool}

/-- What masking makes of a leaf at a chain: the sentinel when its path is a credential. -/
def maskLeaf (p : String → Bool) (ks : List String) (v : Json) : Json :=
  if p (".".intercalate ks) then .str maskSentinel else v

/-- The leaves that stripping a masked document keeps: those at paths that are no credentials. -/
def plainLeaf (p : String → Bool) (ks : List String) (_ : Json) : Bool :=
  !p (".".intercalate ks)

theorem isObject_eq_false {v : Json} (h : ∀ c, v = .obj c → False) : v.isObject = false := by
  cases v with
  | obj c => exact absurd rfl (h c)
  | _ => rfl

theorem maskIn_eq_mapLeavesIn (ks : List String) (fs : List (String × Json)) :
    maskIn p (chainPrefix ks) fs = mapLeavesIn (maskLeaf p) ks fs := by
  -- induction along the walk of `maskIn`, whose prefix stays the prefix of the chain
  generalize hpre : chainPrefix ks = pre
  induction pre, fs using maskIn.induct generalizing ks with
  | case1 pre => rw [maskIn.eq_1, mapLeavesIn.eq_1]
  | case2 pre k c rest ihc ih =>
    rw [maskIn.eq_2, mapLeavesIn.eq_2, ihc (ks ++ [k]) (by rw [chainPrefix_append, hpre]),
      ih ks hpre]
  | case3 pre k v rest hno ih =>
    rw [maskIn.eq_3 _ _ _ _ _ hno, mapLeavesIn.eq_3 _ _ _ _ _ hno, ih ks hpre, maskLeaf,
      ← chainPrefix_append_key, hpre]

/-- Stripping the masked members of the object at the chain `ks` drops exactly its leaves at
credential paths. -/
theorem stripIn_maskIn_eq_filterLeavesIn (ks : List String) (fs : List (String × Json)) :
    stripIn p (chainPrefix ks) (maskIn p (chainPrefix ks) fs) = filterLeavesIn (plainLeaf p) ks fs := by
  generalize hpre : chainPrefix ks = pre
  induction pre, fs using maskIn.induct generalizing ks with
  | case1 pre => rw [maskIn.eq_1, stripIn.eq_1, filterLeavesIn.eq_1]
  | case2 pre k c rest ihc ih =>
    rw [stripIn_maskIn_obj, filterLeavesIn.eq_2,
      ihc (ks ++ [k]) (by rw [chainPrefix_append, hpre]), ih ks hpre]
  | case3 pre k v rest hno ih =>
    -- a leaf goes exactly when its path is a credential, which masking made a sentinel
    rw [stripIn_maskIn_leaf (isObject_eq_false hno), filterLeavesIn.eq_3 _ _ _ _ _ hno, plainLeaf,
      ← chainPrefix_append_key, hpre]
    by_cases hc : p (pre ++ k) = true
    · rw [if_pos hc, if_neg (by simp [hc]), ih ks hpre]
    · rw [if_neg hc, if_pos (by simpa using hc), ih ks hpre]

end Walk

/-- **Masking and stripping follow the key chains of the leaves.** For every document and
every predicate on dotted paths, masking replaces by the sentinel exactly the leaves (member
values that are not objects, arrays included) reached through objects by a chain of keys whose
dotted path the predicate accepts, at any depth and also below an object whose own path it
accepts, and leaves a document that is not an object as it is; and stripping the masked
document removes exactly those leaves, keeping every object. -/
theorem mask_and_strip_by_key_chains (d : Json) (p : String → Bool) :
    d.mask p = d.mapLeaves (fun ks v => if p (".".intercalate ks) then .str maskSentinel else v) ∧
      (d.mask p).strip p = d.filterLeaves (fun ks _ => !p (".".intercalate ks)) := by
  cases d with
  | obj fs =>
    exact ⟨congrArg Json.obj (maskIn_eq_mapLeavesIn [] fs),
      congrArg Json.obj (stripIn_maskIn_eq_filterLeavesIn [] fs)⟩
  | _ => exact ⟨rfl, rfl⟩

end Json

end ConnectorPlane
