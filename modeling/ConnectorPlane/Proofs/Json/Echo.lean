import ConnectorPlane.Json.MergePatch
import ConnectorPlane.Proofs.Json.Canonical
import ConnectorPlane.Proofs.Json.Mask

/-! # Sending the masked view back

A configuration shown with its credentials masked may be sent back as a merge patch: the update
strips the credential leaves that still hold the sentinel and merges what is left into the
stored configuration. For a stored configuration whose objects list their members in key order
(`Json.Canonical`), the patch puts back every member it holds (objects merged member by member,
leaves replaced by themselves) and leaves the stripped credentials alone. But a `null` in a
patch deletes its member, so every leaf that holds `null` at a path the predicate does not call
a credential is dropped (`Json.dropNulls`).

* `Json.applyMembers_echo`: member by member, the merge keeps what it has passed and the members
  it has not reached yet, each key at its place.
* `Json.mergePatch_echo`: merging the stripped masked view of a canonical object into it gives
  the object without those nulls.
* `Json.dropNulls_eq_self_iff`: that is the object itself exactly when every `null` leaf lies at
  a credential path.
-/

namespace ConnectorPlane

namespace Json

/-- Drops, among an object's members under `pre`, every leaf holding `null` at a path `p` does
not call a credential, at every depth. -/
def dropNullsIn (p : String → Bool) (pre : String) : List (String × Json) → List (String × Json)
  | [] => []
  | (k, .obj child) :: rest =>
    (k, .obj (dropNullsIn p (pre ++ k ++ ".") child)) :: dropNullsIn p pre rest
  | (k, .null) :: rest =>
    if p (pre ++ k) then (k, .null) :: dropNullsIn p pre rest else dropNullsIn p pre rest
  | (k, v) :: rest => (k, v) :: dropNullsIn p pre rest
termination_by fs => sizeOf fs
decreasing_by
  all_goals simp only [List.cons.sizeOf_spec, Prod.mk.sizeOf_spec, Json.obj.sizeOf_spec]
  all_goals omega

/-- A document without its `null` leaves at the paths `p` does not call a credential. -/
def dropNulls (p : String → Bool) : Json → Json
  | .obj fs => .obj (dropNullsIn p "" fs)
  | v => v

/-! ## Members at their sorted place -/

section Place

variable {R S : List (String × Json)} {k : String} {v w : Json}

theorem Fields.insert_append (hR : ∀ a ∈ R, a.1 < k) :
    Fields.insert k w (R ++ (k, v) :: S) = R ++ (k, w) :: S := by
  induction R with
  | nil => simp [Fields.insert]
  | cons a R ih =>
    obtain ⟨k', v'⟩ := a
    have hk : k' < k := hR _ List.mem_cons_self
    simp [Fields.insert, not_lt.2 hk.le, (ne_of_lt hk).symm,
      ih fun a ha => hR a (List.mem_cons_of_mem _ ha)]

theorem Fields.get?_append (hR : ∀ a ∈ R, a.1 < k) : Fields.get? (R ++ (k, v) :: S) k = some v := by
  have hnone : R.find? (fun a => a.1 == k) = none :=
    List.find?_eq_none.2 fun a ha => by simp [ne_of_lt (hR a ha)]
  simp [Fields.get?, List.find?_append, hnone]

theorem Fields.erase_append (hR : ∀ a ∈ R, a.1 < k) (hS : ∀ b ∈ S, k < b.1) :
    Fields.erase k (R ++ (k, v) :: S) = R ++ S := by
  simp only [Fields.erase, List.filter_append, List.filter_cons, bne_self_eq_false,
    Bool.false_eq_true, ↓reduceIte]
  rw [List.filter_eq_self.2 fun a ha => by simp [ne_of_lt (hR a ha)],
    List.filter_eq_self.2 fun b hb => by simp [(ne_of_lt (hS b hb)).symm]]

end Place

theorem mergePatch_of_not_isObject {t v : Json} (hv : v.isObject = false) : t.mergePatch v = v := by
  cases v <;> simp_all [mergePatch, isObject]

/-! ## The masked view, stripped -/

variable {p : String → Bool} {pre k : String} {rest : List (String × Json)}

theorem stripIn_maskIn_obj (c : List (String × Json)) :
    stripIn p pre (maskIn p pre ((k, .obj c) :: rest)) =
      (k, .obj (stripIn p (pre ++ k ++ ".") (maskIn p (pre ++ k ++ ".") c))) ::
        stripIn p pre (maskIn p pre rest) := by
  rw [maskIn.eq_2, stripIn.eq_2]

/-- A leaf of the view sent back is dropped when it is a credential, and otherwise is the
stored leaf. -/
theorem stripIn_maskIn_leaf {v : Json} (hv : v.isObject = false) :
    stripIn p pre (maskIn p pre ((k, v) :: rest)) =
      if p (pre ++ k) then stripIn p pre (maskIn p pre rest)
      else (k, v) :: stripIn p pre (maskIn p pre rest) := by
  have hno : ∀ c, v = .obj c → False := by
    rintro c rfl
    simp [isObject] at hv
  rw [maskIn.eq_3 _ _ _ _ _ hno]
  by_cases hp : p (pre ++ k)
  · rw [if_pos hp, if_pos hp, stripIn.eq_3 _ _ _ _ _ (by simp), if_pos (by simp [hp, isSentinel])]
  · rw [if_neg hp, if_neg hp, stripIn.eq_3 _ _ _ _ _ hno, if_neg (by simp [hp])]

/-! ## The merge, one member at a time -/

section Step

variable {R : List (String × Json)} (hRk : ∀ a ∈ R, a.1 < k) (hkr : ∀ b ∈ rest, k < b.1)
  (ih : ∀ R', (∀ a ∈ R', ∀ b ∈ rest, a.1 < b.1) →
    mergePatch.applyMembers (R' ++ rest) (stripIn p pre (maskIn p pre rest)) =
      R' ++ dropNullsIn p pre rest)
include hRk hkr ih

theorem echo_pass (w : Json) :
    mergePatch.applyMembers (R ++ (k, w) :: rest) (stripIn p pre (maskIn p pre rest)) =
      R ++ (k, w) :: dropNullsIn p pre rest := by
  have hpast : ∀ a ∈ R ++ [(k, w)], ∀ b ∈ rest, a.1 < b.1 := by
    intro a ha b hb
    rcases List.mem_append.1 ha with ha | ha
    · exact (hRk a ha).trans (hkr b hb)
    · rw [List.mem_singleton.1 ha]
      exact hkr b hb
  simpa using ih _ hpast

theorem echo_obj {c : List (String × Json)}
    (hchild : mergePatch.applyMembers c (stripIn p (pre ++ k ++ ".") (maskIn p (pre ++ k ++ ".") c)) =
      dropNullsIn p (pre ++ k ++ ".") c) :
    mergePatch.applyMembers (R ++ (k, .obj c) :: rest) (stripIn p pre (maskIn p pre ((k, .obj c) :: rest))) =
      R ++ dropNullsIn p pre ((k, .obj c) :: rest) := by
  rw [stripIn_maskIn_obj, mergePatch.applyMembers.eq_3 _ _ _ _ (by simp), Fields.get?_append hRk,
    Option.getD_some, mergePatch.eq_1, hchild, Fields.insert_append hRk,
    echo_pass hRk hkr ih, dropNullsIn.eq_2]

/-- A `null` stays at a credential path, which the view leaves out; anywhere else the `null`
sent back deletes its member. -/
theorem echo_null :
    mergePatch.applyMembers (R ++ (k, .null) :: rest) (stripIn p pre (maskIn p pre ((k, .null) :: rest))) =
      R ++ dropNullsIn p pre ((k, .null) :: rest) := by
  rw [stripIn_maskIn_leaf rfl, dropNullsIn.eq_3]
  by_cases hp : p (pre ++ k)
  · rw [if_pos hp, if_pos hp, echo_pass hRk hkr ih]
  · have hRr : ∀ a ∈ R, ∀ b ∈ rest, a.1 < b.1 := fun a ha b hb => (hRk a ha).trans (hkr b hb)
    rw [if_neg hp, if_neg hp, mergePatch.applyMembers.eq_2, Fields.erase_append hRk hkr, ih R hRr]

/-- Any other leaf stays: at a credential path the view leaves it out, anywhere else it is
replaced by itself. -/
theorem echo_leaf {v : Json} (hv : v.isObject = false) (hn : v ≠ .null) :
    mergePatch.applyMembers (R ++ (k, v) :: rest) (stripIn p pre (maskIn p pre ((k, v) :: rest))) =
      R ++ dropNullsIn p pre ((k, v) :: rest) := by
  have hno : ∀ c, v = .obj c → False := by
    rintro c rfl
    simp [isObject] at hv
  rw [stripIn_maskIn_leaf hv, dropNullsIn.eq_4 _ _ _ _ _ hno hn]
  by_cases hp : p (pre ++ k)
  · rw [if_pos hp, echo_pass hRk hkr ih]
  · rw [if_neg hp, mergePatch.applyMembers.eq_3 _ _ _ _ hn, mergePatch_of_not_isObject hv,
      Fields.insert_append hRk, echo_pass hRk hkr ih]

/-- One member of the merge, with the result for the member's own object (if it is one)
given. -/
theorem echo_member {v : Json}
    (hchild : ∀ c, v = .obj c → mergePatch.applyMembers c
      (stripIn p (pre ++ k ++ ".") (maskIn p (pre ++ k ++ ".") c)) =
        dropNullsIn p (pre ++ k ++ ".") c) :
    mergePatch.applyMembers (R ++ (k, v) :: rest) (stripIn p pre (maskIn p pre ((k, v) :: rest))) =
      R ++ dropNullsIn p pre ((k, v) :: rest) := by
  cases v with
  | obj c => exact echo_obj hRk hkr ih (hchild c rfl)
  | null => exact echo_null hRk hkr ih
  | bool _ | num _ | str _ | arr _ => exact echo_leaf hRk hkr ih rfl (by simp)

end Step

/-- **Merging the view back.** Before the merge reaches the members `fs` of a canonical
object, the members `R` it has passed, all with smaller keys, are kept as they are; at the end
every member is back but the `null` leaves at paths that are not credentials. -/
theorem applyMembers_echo : ∀ {pre : String} {fs R : List (String × Json)},
    Fields.Sorted fs → (∀ m ∈ fs, Canonical m.2) → (∀ a ∈ R, ∀ b ∈ fs, a.1 < b.1) →
    mergePatch.applyMembers (R ++ fs) (stripIn p pre (maskIn p pre fs)) =
      R ++ dropNullsIn p pre fs
  | pre, [], R, _, _, _ => by
    rw [maskIn.eq_1, stripIn.eq_1, mergePatch.applyMembers.eq_1, dropNullsIn.eq_1]
  | pre, (k, v) :: rest, R, hs, hc, hR => by
    have hRk : ∀ a ∈ R, a.1 < k := fun a ha => hR a ha _ List.mem_cons_self
    have hkr : ∀ b ∈ rest, k < b.1 := fun b hb => List.rel_of_pairwise_cons hs hb
    have ih : ∀ R', (∀ a ∈ R', ∀ b ∈ rest, a.1 < b.1) →
        mergePatch.applyMembers (R' ++ rest) (stripIn p pre (maskIn p pre rest)) =
          R' ++ dropNullsIn p pre rest := fun R' hR' =>
      applyMembers_echo hs.of_cons (fun m hm => hc m (List.mem_cons_of_mem _ hm)) hR'
    -- the member's own object is canonical too, and the merge recurses into it
    refine echo_member hRk hkr ih fun c hvc => ?_
    obtain ⟨hcs, hcm⟩ := canonical_obj_iff.1 (hvc ▸ hc (k, v) List.mem_cons_self)
    have hchild : mergePatch.applyMembers ([] ++ c)
        (stripIn p (pre ++ k ++ ".") (maskIn p (pre ++ k ++ ".") c)) =
        [] ++ dropNullsIn p (pre ++ k ++ ".") c := applyMembers_echo hcs hcm (by simp)
    rwa [List.nil_append, List.nil_append] at hchild
termination_by _ fs => sizeOf fs
decreasing_by
  all_goals subst_vars
  all_goals simp only [List.cons.sizeOf_spec, Prod.mk.sizeOf_spec, Json.obj.sizeOf_spec]
  all_goals omega

/-- **Echoing the masked view**: merging the stripped masked view of a canonical object into
the object gives back the object without its `null` leaves at paths that are not credentials. -/
theorem mergePatch_echo {fs : List (String × Json)} (h : Canonical (.obj fs)) :
    (Json.obj fs).mergePatch (((Json.obj fs).mask p).strip p) = (Json.obj fs).dropNulls p := by
  obtain ⟨hs, hm⟩ := canonical_obj_iff.1 h
  have h : mergePatch.applyMembers ([] ++ fs) (stripIn p "" (maskIn p "" fs)) =
      [] ++ dropNullsIn p "" fs := applyMembers_echo hs hm (by simp)
  simpa [mask, strip, mergePatch.eq_1, dropNulls] using h

/-! ## When nothing is dropped -/

theorem reaches_obj_cons_iff {fs : List (String × Json)} {k : String} {ks : List String}
    {w : Json} : Reaches (.obj fs) (k :: ks) w ↔ ∃ child, (k, child) ∈ fs ∧ Reaches child ks w :=
  ⟨fun h => by cases h with | member hm hr => exact ⟨_, hm, hr⟩,
    fun ⟨_, hm, hr⟩ => .member hm hr⟩

theorem reaches_leaf_iff {v w : Json} {ks : List String} (hv : v.isObject = false) :
    Reaches v ks w ↔ ks = [] ∧ w = v :=
  ⟨reaches_of_not_isObject hv, by rintro ⟨rfl, rfl⟩; exact .here _⟩

theorem path_cons_cons (pre k k' : String) (ks : List String) :
    pre ++ ".".intercalate (k :: k' :: ks) = pre ++ k ++ "." ++ ".".intercalate (k' :: ks) := by
  rw [String.intercalate_cons_cons, ← String.append_assoc, ← String.append_assoc]

theorem length_dropNullsIn_le : ∀ (pre : String) (fs : List (String × Json)),
    (dropNullsIn p pre fs).length ≤ fs.length
  | _, [] => by simp [dropNullsIn.eq_1]
  | pre, (k, v) :: rest => by
    have ih := length_dropNullsIn_le pre rest
    match v with
    | .obj c => simp [dropNullsIn.eq_2, ih]
    | .null =>
      rw [dropNullsIn.eq_3]
      split <;> simp <;> omega
    | .bool _ | .num _ | .str _ | .arr _ =>
      rw [dropNullsIn.eq_4 _ _ _ _ _ (by simp) (by simp)]
      simp [ih]

theorem nulls_cons_iff {pre k : String} {v : Json} {rest : List (String × Json)} :
    (∀ k' child ks, (k', child) ∈ (k, v) :: rest → Reaches child ks .null →
      p (pre ++ ".".intercalate (k' :: ks)) = true) ↔
    (∀ ks, Reaches v ks .null → p (pre ++ ".".intercalate (k :: ks)) = true) ∧
      ∀ k' child ks, (k', child) ∈ rest → Reaches child ks .null →
        p (pre ++ ".".intercalate (k' :: ks)) = true := by
  simp only [List.mem_cons, Prod.mk.injEq]
  constructor
  · intro h
    exact ⟨fun ks hr => h k v ks (.inl ⟨rfl, rfl⟩) hr, fun k' c ks hm hr => h k' c ks (.inr hm) hr⟩
  · rintro ⟨hv, hrest⟩ k' c ks (⟨rfl, rfl⟩ | hm) hr
    · exact hv ks hr
    · exact hrest k' c ks hm hr

/-- **Nothing is dropped exactly when every `null` leaf lies at a credential path.** -/
theorem dropNullsIn_eq_self_iff : ∀ (pre : String) (fs : List (String × Json)),
    dropNullsIn p pre fs = fs ↔
      ∀ k child ks, (k, child) ∈ fs → Reaches child ks .null →
        p (pre ++ ".".intercalate (k :: ks)) = true
  | _, [] => by simp [dropNullsIn.eq_1]
  | pre, (k, v) :: rest => by
    rw [nulls_cons_iff, ← dropNullsIn_eq_self_iff pre rest]
    match v with
    | .obj c =>
      have ihc := dropNullsIn_eq_self_iff (pre ++ k ++ ".") c
      rw [dropNullsIn.eq_2, List.cons.injEq, Prod.mk.injEq, obj.injEq, ihc]
      simp only [true_and]
      refine and_congr_left' ⟨fun h ks hr => ?_, fun h k' child ks hm hr => ?_⟩
      · cases ks with
        | nil => cases hr
        | cons k' ks =>
          obtain ⟨child, hm, hr⟩ := reaches_obj_cons_iff.1 hr
          rw [path_cons_cons]
          exact h k' child ks hm hr
      · rw [← path_cons_cons]
        exact h (k' :: ks) (reaches_obj_cons_iff.2 ⟨child, hm, hr⟩)
    | .null =>
      have hhead : (∀ ks, Reaches .null ks .null → p (pre ++ ".".intercalate (k :: ks)) = true) ↔
          p (pre ++ k) = true := by
        simp [reaches_leaf_iff (rfl : Json.null.isObject = false)]
      rw [hhead, dropNullsIn.eq_3]
      by_cases hp : p (pre ++ k)
      · simp [hp]
      · -- the member is dropped, so the members are fewer
        have hlen := length_dropNullsIn_le (p := p) pre rest
        simp only [hp, Bool.false_eq_true, ↓reduceIte, false_and, iff_false]
        intro h
        simp [h] at hlen
    | .bool _ | .num _ | .str _ | .arr _ =>
      rw [dropNullsIn.eq_4 _ _ _ _ _ (by simp) (by simp)]
      simp [reaches_leaf_iff (v := .bool _) rfl, reaches_leaf_iff (v := .num _) rfl,
        reaches_leaf_iff (v := .str _) rfl, reaches_leaf_iff (v := .arr _) rfl]
termination_by _ fs => sizeOf fs
decreasing_by
  all_goals simp only [List.cons.sizeOf_spec, Prod.mk.sizeOf_spec, Json.obj.sizeOf_spec]
  all_goals omega

/-- A document keeps all its members exactly when every `null` leaf lies at a credential
path. -/
theorem dropNulls_eq_self_iff {fs : List (String × Json)} :
    (Json.obj fs).dropNulls p = .obj fs ↔
      ∀ ks, Reaches (.obj fs) ks .null → p (".".intercalate ks) = true := by
  rw [dropNulls, obj.injEq, dropNullsIn_eq_self_iff]
  constructor
  · intro h ks hr
    cases ks with
    | nil => cases hr
    | cons k ks =>
      obtain ⟨child, hm, hr⟩ := reaches_obj_cons_iff.1 hr
      simpa using h k child ks hm hr
  · intro h k child ks hm hr
    simpa using h (k :: ks) (reaches_obj_cons_iff.2 ⟨child, hm, hr⟩)

end Json

end ConnectorPlane
