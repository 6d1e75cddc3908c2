import ConnectorPlane.Proofs.Json.Echo

/-! # Secrets kept through an edit

An update sends a patch `E`. The credential leaves of `E` that still hold the sentinel are
stripped, and what is left is merged into the stored configuration `C`. For canonical `C` and
`E` this is the plain merge of `E` into `C`, with the value at each stripped key chain put back
from `C`, or removed where `C` has no value there; the chains may be taken in any order.

* `Json.at?`, `Json.setAt`: the value at a chain of keys, and the document with the value at a
  chain of keys replaced or removed.
* `Json.maskedPathsIn`, `Json.maskedPaths`: the key chains of a patch's masked credential
  leaves, in walking order; `Json.mem_maskedPathsIn_iff` says which chains they are without the
  walk, so that every document has a list of them.
* `Json.SortedObject.ext`: two objects with members in key order are equal when every key
  has the same member.
* `Json.get?_applyMembers_filter`, `Json.get?_foldl_setAt_filter`: under a key, a merge and a
  run of replacements depend only on the patch members and the chains of that key.
* `Json.stripped_patch_restores_stored_secrets`: the main statement.
-/

namespace ConnectorPlane

namespace Json

/-- The value reached from a document through objects by a chain of keys. -/
def at? : Json → List String → Option Json
  | v, [] => some v
  | .obj fs, k :: ks => (Fields.get? fs k).bind fun c => c.at? ks
  | _, _ :: _ => none

/-- The document with the value at a chain of keys replaced by `o`, or removed when `o` is
`none`. A chain that does not lead through objects to an object holding the last key's member
changes nothing, except that the last key is added to that object. -/
def setAt : Json → List String → Option Json → Json
  | .obj fs, [k], some w => .obj (Fields.insert k w fs)
  | .obj fs, [k], none => .obj (Fields.erase k fs)
  | .obj fs, k :: k' :: ks, o =>
    match Fields.get? fs k with
    | some c => .obj (Fields.insert k (c.setAt (k' :: ks) o) fs)
    | none => .obj fs
  | v, _, _ => v

/-- The members of an object; nothing for any other value. -/
def members : Json → List (String × Json)
  | .obj fs => fs
  | _ => []

/-- The key chains, below an object's members under the path prefix `pre`, of the leaves that
hold the sentinel at a path `p` calls a credential, in walking order. -/
def maskedPathsIn (p : String → Bool) (pre : String) :
    List (String × Json) → List (List String)
  | [] => []
  | (k, .obj child) :: rest =>
    (maskedPathsIn p (pre ++ k ++ ".") child).map (k :: ·) ++ maskedPathsIn p pre rest
  | (k, v) :: rest =>
    if p (pre ++ k) && isSentinel v then [k] :: maskedPathsIn p pre rest
    else maskedPathsIn p pre rest
termination_by fs => sizeOf fs
decreasing_by
  all_goals simp only [List.cons.sizeOf_spec, Prod.mk.sizeOf_spec, Json.obj.sizeOf_spec]
  all_goals omega

/-- The key chains of a document's leaves that hold the sentinel at a credential path. -/
def maskedPaths (p : String → Bool) : Json → List (List String)
  | .obj fs => maskedPathsIn p "" fs
  | _ => []

/-- An object whose members are listed in increasing key order. -/
def SortedObject (v : Json) : Prop := ∃ fs, v = .obj fs ∧ Fields.Sorted fs

/-! ## Members by key -/

namespace Fields

variable {k j : String} {v w : Json} {fs gs : List (String × Json)}

@[simp] theorem get?_nil : get? [] k = none := rfl

theorem get?_cons (k' : String) (v : Json) (fs : List (String × Json)) :
    get? ((k', v) :: fs) k = if k' = k then some v else get? fs k := by
  by_cases h : k' = k <;> simp [get?, h]

theorem get?_insert_self : ∀ fs : List (String × Json), get? (insert k w fs) k = some w
  | [] => by simp [insert, get?_cons]
  | (k', v) :: rest => by
    rw [insert]
    split_ifs with hlt heq
    · simp [get?_cons]
    · simp [get?_cons]
    · rw [get?_cons, if_neg (Ne.symm heq)]
      exact get?_insert_self rest

theorem get?_insert_of_ne (h : k ≠ j) : ∀ fs : List (String × Json),
    get? (insert k w fs) j = get? fs j
  | [] => by simp [insert, get?_cons, h]
  | (k', v) :: rest => by
    rw [insert]
    split_ifs with hlt heq
    · simp [get?_cons, h]
    · subst heq
      simp [get?_cons, h]
    · rw [get?_cons, get?_cons, get?_insert_of_ne h rest]

theorem get?_erase_self : get? (erase k fs) k = none := by
  simp [get?, erase, List.find?_filter]

theorem get?_erase_of_ne (h : k ≠ j) : get? (erase k fs) j = get? fs j := by
  induction fs with
  | nil => rfl
  | cons a fs ih =>
    obtain ⟨k', v⟩ := a
    by_cases hk : k' = k
    · subst hk
      simp only [erase, List.filter_cons, bne_self_eq_false, Bool.false_eq_true, if_false]
      rw [get?_cons, if_neg h]
      exact ih
    · simp only [erase, List.filter_cons, bne_iff_ne, ne_eq, hk, not_false_eq_true, if_true]
      rw [get?_cons, get?_cons]
      exact if_congr Iff.rfl rfl ih

theorem sorted_erase (h : Sorted fs) : Sorted (erase k fs) := h.filter _

theorem get?_eq_none_of_sorted_cons (h : Sorted ((k, v) :: fs)) (hj : j ≤ k) :
    get? fs j = none := by
  rw [get?, Option.map_eq_none_iff, List.find?_eq_none]
  intro a ha
  have := List.rel_of_pairwise_cons h ha
  simp [ne_of_gt (lt_of_le_of_lt hj this)]

/-- **Sorted members are decided by their keys**: two sorted lists that hold the same member
under every key are equal. -/
theorem eq_of_get?_eq : ∀ {fs gs : List (String × Json)}, Sorted fs → Sorted gs →
    (∀ k, get? fs k = get? gs k) → fs = gs
  | [], [], _, _, _ => rfl
  | [], (b, y) :: gs, _, _, h => by simpa [get?_cons] using h b
  | (a, x) :: fs, [], _, _, h => by simpa [get?_cons] using h a
  | (a, x) :: fs, (b, y) :: gs, hf, hg, h => by
    -- the first keys are the least of each list, so they are the same key
    have hab : a = b := by
      rcases lt_trichotomy a b with hlt | heq | hgt
      · have hb := h a
        rw [get?_cons, if_pos rfl, get?_cons, if_neg (ne_of_gt hlt),
          get?_eq_none_of_sorted_cons hg hlt.le] at hb
        cases hb
      · exact heq
      · have ha := h b
        rw [get?_cons, if_neg (ne_of_gt hgt), get?_cons, if_pos rfl,
          get?_eq_none_of_sorted_cons hf hgt.le] at ha
        cases ha
    subst hab
    have hxy : x = y := by simpa [get?_cons] using h a
    subst hxy
    have htail : ∀ k, get? fs k = get? gs k := by
      intro k
      by_cases hk : a = k
      · subst hk
        rw [get?_eq_none_of_sorted_cons hf le_rfl, get?_eq_none_of_sorted_cons hg le_rfl]
      · simpa [get?_cons, hk] using h k
    rw [eq_of_get?_eq hf.of_cons hg.of_cons htail]

end Fields

theorem SortedObject.ext {u v : Json} (hu : u.SortedObject) (hv : v.SortedObject)
    (h : ∀ k, u.get? k = v.get? k) : u = v := by
  obtain ⟨fs, rfl, hfs⟩ := hu
  obtain ⟨gs, rfl, hgs⟩ := hv
  rw [Fields.eq_of_get?_eq hfs hgs h]

namespace Fields

variable {k : String} {v : Json} {fs : List (String × Json)}

theorem mem_of_get?_eq_some (h : get? fs k = some v) : (k, v) ∈ fs := by
  obtain ⟨m, hm, rfl⟩ := Option.map_eq_some_iff.1 h
  have hk : m.1 = k := by simpa using List.find?_some hm
  rw [← hk]
  exact List.mem_of_find?_eq_some hm

theorem filter_key_of_sorted (hs : Sorted fs) (k : String) :
    (get? fs k = none ∧ fs.filter (·.1 == k) = []) ∨
      ∃ v, get? fs k = some v ∧ fs.filter (·.1 == k) = [(k, v)] := by
  induction fs with
  | nil => exact .inl ⟨rfl, rfl⟩
  | cons a fs ih =>
    obtain ⟨k', v'⟩ := a
    by_cases hk : k' = k
    · subst hk
      have hrest : fs.filter (·.1 == k') = [] := List.filter_eq_nil_iff.2 fun b hb => by
        simp [ne_of_gt (List.rel_of_pairwise_cons hs hb)]
      exact .inr ⟨v', by simp [get?_cons], by simp [hrest]⟩
    · have hf : ((k', v') :: fs).filter (·.1 == k) = fs.filter (·.1 == k) := by
        simp [hk]
      rw [hf, get?_cons, if_neg hk]
      exact ih hs.of_cons

end Fields

theorem canonical_members {t : Json} (h : Canonical t) : Canonical (.obj t.members) := by
  cases t with
  | obj fs => exact h
  | _ => exact .obj List.Pairwise.nil (by simp [members])

theorem obj_or_leaf (v : Json) : (∃ c, v = .obj c) ∨ v.isObject = false := by
  cases v with
  | obj c => exact .inl ⟨c, rfl⟩
  | _ => exact .inr rfl

/-! ## A merge, key by key -/

section Merge

/-- What one patch member makes of an object's members: `null` removes the key, anything else
is merged into the key's member. -/
def patchMember (acc : List (String × Json)) : String × Json → List (String × Json)
  | (k, .null) => Fields.erase k acc
  | (k, v) => Fields.insert k (((Fields.get? acc k).getD .null).mergePatch v) acc

variable {k : String} {acc acc' : List (String × Json)}

theorem applyMembers_cons (m : String × Json) (rest : List (String × Json)) :
    mergePatch.applyMembers acc (m :: rest) = mergePatch.applyMembers (patchMember acc m) rest := by
  obtain ⟨k, v⟩ := m
  cases v with
  | null => rw [mergePatch.applyMembers.eq_2, patchMember]
  | _ => rw [mergePatch.applyMembers.eq_3 _ _ _ _ (by simp), patchMember.eq_2 _ _ _ (by simp)]

theorem mergePatch_obj (t : Json) (patch : List (String × Json)) :
    t.mergePatch (.obj patch) = .obj (mergePatch.applyMembers t.members patch) := by
  cases t with
  | obj fs => rw [mergePatch.eq_1, members]
  | _ => exact mergePatch.eq_2 _ _ fun _ h => by cases h

theorem get?_patchMember_of_ne {m : String × Json} (h : m.1 ≠ k) :
    Fields.get? (patchMember acc m) k = Fields.get? acc k := by
  obtain ⟨k', v⟩ := m
  cases v with
  | null => exact Fields.get?_erase_of_ne h
  | _ => exact Fields.get?_insert_of_ne h _

theorem get?_patchMember_congr (m : String × Json)
    (h : Fields.get? acc m.1 = Fields.get? acc' m.1) :
    Fields.get? (patchMember acc m) m.1 = Fields.get? (patchMember acc' m) m.1 := by
  obtain ⟨k', v⟩ := m
  cases v with
  | null => simp only [patchMember, Fields.get?_erase_self]
  | _ => simp only [patchMember, Fields.get?_insert_self, h]

theorem sorted_patchMember (m : String × Json) (h : Fields.Sorted acc) :
    Fields.Sorted (patchMember acc m) := by
  obtain ⟨k', v⟩ := m
  cases v with
  | null => exact Fields.sorted_erase h
  | _ => exact Fields.sorted_insert _ _ h

theorem sorted_applyMembers : ∀ {acc : List (String × Json)} (es : List (String × Json)),
    Fields.Sorted acc → Fields.Sorted (mergePatch.applyMembers acc es)
  | _, [], h => by rwa [mergePatch.applyMembers.eq_1]
  | _, m :: rest, h => by
    rw [applyMembers_cons]
    exact sorted_applyMembers rest (sorted_patchMember m h)

theorem get?_applyMembers_congr : ∀ {acc acc' : List (String × Json)} (es : List (String × Json)),
    (∀ m ∈ es, m.1 = k) → Fields.get? acc k = Fields.get? acc' k →
      Fields.get? (mergePatch.applyMembers acc es) k =
        Fields.get? (mergePatch.applyMembers acc' es) k
  | _, _, [], _, h => by rw [mergePatch.applyMembers.eq_1, mergePatch.applyMembers.eq_1, h]
  | _, _, m :: rest, hk, h => by
    have hm : m.1 = k := hk m List.mem_cons_self
    rw [applyMembers_cons, applyMembers_cons]
    refine get?_applyMembers_congr rest (fun m' hm' => hk m' (List.mem_cons_of_mem _ hm')) ?_
    subst hm
    exact get?_patchMember_congr m h

/-- **A merge, key by key**: what a merge leaves under a key is what the patch members of that
key alone make of it. -/
theorem get?_applyMembers_filter (k : String) : ∀ (acc es : List (String × Json)),
    Fields.get? (mergePatch.applyMembers acc es) k =
      Fields.get? (mergePatch.applyMembers acc (es.filter (·.1 == k))) k
  | _, [] => rfl
  | acc, m :: rest => by
    by_cases hm : m.1 = k
    · rw [List.filter_cons_of_pos (by simpa using hm), applyMembers_cons, applyMembers_cons]
      exact get?_applyMembers_filter k _ rest
    · -- a member of another key: the rest acts on the same member of `k`
      rw [List.filter_cons_of_neg (by simpa using hm), applyMembers_cons,
        get?_applyMembers_filter k _ rest]
      exact get?_applyMembers_congr _ (fun m' hm' => by simpa using (List.mem_filter.1 hm').2)
        (get?_patchMember_of_ne hm)

theorem get?_applyMembers_single {v : Json} (hn : v ≠ .null) (acc : List (String × Json)) :
    Fields.get? (mergePatch.applyMembers acc [(k, v)]) k =
      some (((Fields.get? acc k).getD .null).mergePatch v) := by
  rw [applyMembers_cons, mergePatch.applyMembers.eq_1]
  cases v with
  | null => exact absurd rfl hn
  | _ => exact Fields.get?_insert_self _

end Merge

/-! ## Stripping, key by key -/

section Strip

variable {p : String → Bool} {k : String}

theorem stripIn_filter (k : String) : ∀ (pre : String) (es : List (String × Json)),
    (stripIn p pre es).filter (·.1 == k) = stripIn p pre (es.filter (·.1 == k))
  | _, [] => by simp [stripIn.eq_1]
  | pre, (k', v) :: rest => by
    have ih := stripIn_filter k pre rest
    rcases obj_or_leaf v with ⟨c, rfl⟩ | hv
    · rw [stripIn.eq_2]
      by_cases hk : k' = k
      · simp [hk, stripIn.eq_2, ih]
      · simp [hk, ih]
    · have hno : ∀ c, v = .obj c → False := by
        rintro c rfl
        simp [isObject] at hv
      rw [stripIn.eq_3 _ _ _ _ _ hno]
      by_cases hk : k' = k
      · subst hk
        rw [List.filter_cons_of_pos (by simp), stripIn.eq_3 _ _ _ _ _ hno]
        by_cases hs : (p (pre ++ k') && v.isSentinel) = true
        · rw [if_pos hs, if_pos hs, ih]
        · rw [if_neg hs, if_neg hs, List.filter_cons_of_pos (by simp), ih]
      · rw [List.filter_cons_of_neg (by simpa using hk)]
        split
        · exact ih
        · rw [List.filter_cons_of_neg (by simpa using hk), ih]
termination_by _ es => sizeOf es
decreasing_by
  all_goals simp only [List.cons.sizeOf_spec, Prod.mk.sizeOf_spec]
  all_goals omega

theorem keys_stripIn_sublist : ∀ (pre : String) (es : List (String × Json)),
    ((stripIn p pre es).map (·.1)).Sublist (es.map (·.1))
  | _, [] => by simp [stripIn.eq_1]
  | pre, (k', v) :: rest => by
    have ih := keys_stripIn_sublist pre rest
    rcases obj_or_leaf v with ⟨c, rfl⟩ | hv
    · rw [stripIn.eq_2]
      exact ih.cons_cons _
    · have hno : ∀ c, v = .obj c → False := by
        rintro c rfl
        simp [isObject] at hv
      rw [stripIn.eq_3 _ _ _ _ _ hno]
      split
      · exact ih.cons _
      · exact ih.cons_cons _
termination_by _ es => sizeOf es
decreasing_by
  all_goals simp only [List.cons.sizeOf_spec, Prod.mk.sizeOf_spec]
  all_goals omega

theorem sorted_stripIn {es : List (String × Json)} (pre : String) (h : Fields.Sorted es) :
    Fields.Sorted (stripIn p pre es) := by
  unfold Fields.Sorted at h ⊢
  rw [← List.pairwise_map] at h ⊢
  exact h.sublist (keys_stripIn_sublist pre es)

theorem stripIn_single_obj (pre : String) (c : List (String × Json)) :
    stripIn p pre [(k, .obj c)] = [(k, .obj (stripIn p (pre ++ k ++ ".") c))] := by
  rw [stripIn.eq_2, stripIn.eq_1]

theorem stripIn_single_leaf (pre : String) {v : Json} (hv : v.isObject = false) :
    stripIn p pre [(k, v)] = if (p (pre ++ k) && v.isSentinel) = true then [] else [(k, v)] := by
  have hno : ∀ c, v = .obj c → False := by
    rintro c rfl
    simp [isObject] at hv
  rw [stripIn.eq_3 _ _ _ _ _ hno, stripIn.eq_1]

end Strip

/-! ## The chains of the masked leaves -/

section Paths

variable {p : String → Bool} {k : String}

theorem maskedPathsIn_single_obj (pre : String) (c : List (String × Json)) :
    maskedPathsIn p pre [(k, .obj c)] = (maskedPathsIn p (pre ++ k ++ ".") c).map (k :: ·) := by
  rw [maskedPathsIn.eq_2, maskedPathsIn.eq_1, List.append_nil]

theorem maskedPathsIn_single_leaf (pre : String) {v : Json} (hv : v.isObject = false) :
    maskedPathsIn p pre [(k, v)] =
      if (p (pre ++ k) && v.isSentinel) = true then [[k]] else [] := by
  have hno : ∀ c, v = .obj c → False := by
    rintro c rfl
    simp [isObject] at hv
  rw [maskedPathsIn.eq_3 _ _ _ _ _ hno, maskedPathsIn.eq_1]

theorem head?_of_mem_maskedPathsIn : ∀ {pre : String} {es : List (String × Json)}
    {q : List String}, q ∈ maskedPathsIn p pre es → ∃ k v, q.head? = some k ∧ (k, v) ∈ es
  | _, [], _, h => by simp [maskedPathsIn.eq_1] at h
  | pre, (k', v) :: rest, q, h => by
    rcases obj_or_leaf v with ⟨c, rfl⟩ | hv
    · rw [maskedPathsIn.eq_2] at h
      rcases List.mem_append.1 h with h | h
      · obtain ⟨q', -, rfl⟩ := List.mem_map.1 h
        exact ⟨k', _, rfl, List.mem_cons_self⟩
      · obtain ⟨k, v', hq, hm⟩ := head?_of_mem_maskedPathsIn h
        exact ⟨k, v', hq, List.mem_cons_of_mem _ hm⟩
    · have hno : ∀ c, v = .obj c → False := by
        rintro c rfl
        simp [isObject] at hv
      rw [maskedPathsIn.eq_3 _ _ _ _ _ hno] at h
      split at h
      · rcases List.mem_cons.1 h with rfl | h
        · exact ⟨k', v, rfl, List.mem_cons_self⟩
        · obtain ⟨k, v', hq, hm⟩ := head?_of_mem_maskedPathsIn h
          exact ⟨k, v', hq, List.mem_cons_of_mem _ hm⟩
      · obtain ⟨k, v', hq, hm⟩ := head?_of_mem_maskedPathsIn h
        exact ⟨k, v', hq, List.mem_cons_of_mem _ hm⟩
termination_by _ es => sizeOf es
decreasing_by
  all_goals simp only [List.cons.sizeOf_spec, Prod.mk.sizeOf_spec]
  all_goals omega

theorem ne_nil_of_mem_maskedPathsIn {pre : String} {es : List (String × Json)}
    {q : List String} (h : q ∈ maskedPathsIn p pre es) : q ≠ [] := by
  obtain ⟨k, -, hq, -⟩ := head?_of_mem_maskedPathsIn h
  rintro rfl
  cases hq

/-- **The chains, key by key**: the chains that start with a key are those of the members of
that key. -/
theorem maskedPathsIn_filter (k : String) : ∀ (pre : String) (es : List (String × Json)),
    (maskedPathsIn p pre es).filter (·.head? == some k) =
      maskedPathsIn p pre (es.filter (·.1 == k))
  | _, [] => by simp [maskedPathsIn.eq_1]
  | pre, (k', v) :: rest => by
    have ih := maskedPathsIn_filter k pre rest
    rcases obj_or_leaf v with ⟨c, rfl⟩ | hv
    · -- the chains below an object member all start with its key
      rw [maskedPathsIn.eq_2, List.filter_append]
      by_cases hk : k' = k
      · subst hk
        rw [List.filter_cons_of_pos (by simp), maskedPathsIn.eq_2, ih,
          List.filter_eq_self.2 (by simp)]
      · rw [List.filter_cons_of_neg (by simpa using hk), ih,
          List.filter_eq_nil_iff.2 (by simp [hk]), List.nil_append]
    · have hno : ∀ c, v = .obj c → False := by
        rintro c rfl
        simp [isObject] at hv
      rw [maskedPathsIn.eq_3 _ _ _ _ _ hno]
      by_cases hk : k' = k
      · subst hk
        rw [List.filter_cons_of_pos (by simp), maskedPathsIn.eq_3 _ _ _ _ _ hno]
        split <;> simp [ih]
      · rw [List.filter_cons_of_neg (by simpa using hk)]
        split <;> simp [hk, ih]
termination_by _ es => sizeOf es
decreasing_by
  all_goals simp only [List.cons.sizeOf_spec, Prod.mk.sizeOf_spec]
  all_goals omega

end Paths

/-! ## Replacing values along chains -/

section Replace

variable {k k' : String} {ks : List String} {o : Option Json}

theorem get?_setAt_of_ne (h : k' ≠ k) (v : Json) : (v.setAt (k' :: ks) o).get? k = v.get? k := by
  cases v with
  | obj fs =>
    cases ks with
    | nil =>
      cases o with
      | some w => exact Fields.get?_insert_of_ne h fs
      | none => exact Fields.get?_erase_of_ne h
    | cons k'' ks =>
      rw [setAt]
      split
      · exact Fields.get?_insert_of_ne h fs
      · rfl
  | _ => rfl

theorem get?_setAt_single (fs : List (String × Json)) : ((Json.obj fs).setAt [k] o).get? k = o := by
  cases o with
  | some w => exact Fields.get?_insert_self fs
  | none => exact Fields.get?_erase_self

theorem get?_setAt_cons_cons (v : Json) :
    (v.setAt (k :: k' :: ks) o).get? k = (v.get? k).map (·.setAt (k' :: ks) o) := by
  cases v with
  | obj fs =>
    rw [setAt]
    split
    · rename_i c hc
      rw [get?, Fields.get?_insert_self, get?, hc, Option.map_some]
    · rename_i hc
      rw [get?, hc, Option.map_none]
  | _ => rfl

theorem SortedObject.setAt {v : Json} (h : v.SortedObject) (q : List String) (o : Option Json) :
    (v.setAt q o).SortedObject := by
  obtain ⟨fs, rfl, hs⟩ := h
  match q, o with
  | [], _ => exact ⟨fs, rfl, hs⟩
  | [k], some w => exact ⟨_, rfl, Fields.sorted_insert _ _ hs⟩
  | [k], none => exact ⟨_, rfl, Fields.sorted_erase hs⟩
  | k :: k' :: ks, o =>
    rw [Json.setAt]
    split
    · exact ⟨_, rfl, Fields.sorted_insert _ _ hs⟩
    · exact ⟨fs, rfl, hs⟩

variable (val : List String → Option Json)

theorem SortedObject.foldl_setAt : ∀ (qs : List (List String)) {v : Json}, v.SortedObject →
    (qs.foldl (fun D q => D.setAt q (val q)) v).SortedObject
  | [], _, h => h
  | q :: qs, _, h => SortedObject.foldl_setAt qs (h.setAt q (val q))

theorem get?_foldl_setAt_congr : ∀ (qs : List (List String)) {u v : Json},
    (∀ q ∈ qs, q.head? = some k) → u.SortedObject → v.SortedObject → u.get? k = v.get? k →
      (qs.foldl (fun D q => D.setAt q (val q)) u).get? k =
        (qs.foldl (fun D q => D.setAt q (val q)) v).get? k
  | [], _, _, _, _, _, h => h
  | q :: qs, u, v, hk, hu, hv, h => by
    refine get?_foldl_setAt_congr qs (fun q' hq' => hk q' (List.mem_cons_of_mem _ hq'))
      (hu.setAt q _) (hv.setAt q _) ?_
    obtain ⟨fs, rfl, -⟩ := hu
    obtain ⟨gs, rfl, -⟩ := hv
    match q, hk q List.mem_cons_self with
    | [_], rfl => rw [get?_setAt_single, get?_setAt_single]
    | _ :: _ :: _, rfl => rw [get?_setAt_cons_cons, get?_setAt_cons_cons, h]

/-- **Replacements, key by key**: what replacements along chains leave under a key is what the
chains that start with that key alone make of it. -/
theorem get?_foldl_setAt_filter : ∀ (qs : List (List String)) {v : Json},
    (∀ q ∈ qs, q ≠ []) → v.SortedObject →
      (qs.foldl (fun D q => D.setAt q (val q)) v).get? k =
        ((qs.filter (·.head? == some k)).foldl (fun D q => D.setAt q (val q)) v).get? k
  | [], _, _, _ => rfl
  | q :: qs, v, hne, hv => by
    have hne' : ∀ q' ∈ qs, q' ≠ [] := fun q' hq' => hne q' (List.mem_cons_of_mem _ hq')
    by_cases hq : q.head? = some k
    · rw [List.filter_cons_of_pos (by simpa using hq), List.foldl_cons, List.foldl_cons]
      exact get?_foldl_setAt_filter qs hne' (hv.setAt q _)
    · -- a chain of another key: the rest acts on the same member of `k`
      rw [List.filter_cons_of_neg (by simpa using hq), List.foldl_cons,
        get?_foldl_setAt_filter qs hne' (hv.setAt q _)]
      refine get?_foldl_setAt_congr val _ (fun q' hq' => by simpa using (List.mem_filter.1 hq').2)
        (hv.setAt q _) hv ?_
      obtain ⟨k', ks, rfl⟩ := List.exists_cons_of_ne_nil (hne q List.mem_cons_self)
      exact get?_setAt_of_ne (fun e => hq (by simp [e])) v

theorem get?_foldl_setAt_cons : ∀ (qs : List (List String)) (v : Json), (∀ q ∈ qs, q ≠ []) →
    ((qs.map (k :: ·)).foldl (fun D q => D.setAt q (val q)) v).get? k =
      (v.get? k).map fun c => qs.foldl (fun D q => D.setAt q (val (k :: q))) c
  | [], _, _ => by simp
  | q :: qs, v, hne => by
    obtain ⟨k', ks, rfl⟩ := List.exists_cons_of_ne_nil (hne _ List.mem_cons_self)
    rw [List.map_cons, List.foldl_cons,
      get?_foldl_setAt_cons qs _ fun q' hq' => hne q' (List.mem_cons_of_mem _ hq'),
      get?_setAt_cons_cons, Option.map_map]
    rfl

theorem get?_foldl_setAt_single : ∀ (qs : List (List String)) {v : Json}, qs ≠ [] →
    (∀ q ∈ qs, q = [k]) → v.SortedObject →
      (qs.foldl (fun D q => D.setAt q (val q)) v).get? k = val [k]
  | [], _, hne, _, _ => absurd rfl hne
  | [q], v, _, hq, hv => by
    obtain ⟨fs, rfl, -⟩ := hv
    rw [hq q List.mem_cons_self, List.foldl_cons, List.foldl_nil, get?_setAt_single]
  | q :: q' :: qs, v, _, hq, hv => by
    rw [List.foldl_cons]
    exact get?_foldl_setAt_single (q' :: qs) (List.cons_ne_nil _ _)
      (fun q'' h => hq q'' (List.mem_cons_of_mem _ h)) (hv.setAt q _)

theorem eq_map_cons_tail {qs : List (List String)} (hk : ∀ q ∈ qs, q.head? = some k) :
    qs = (qs.map List.tail).map (k :: ·) := by
  rw [List.map_map]
  refine ((List.map_congr_left fun q hq => ?_).trans (List.map_id qs)).symm
  cases q with
  | nil => simpa using hk [] hq
  | cons k' q' => simpa using (hk _ hq).symm

end Replace

/-! ## Values along chains -/

theorem at?_cons (fs : List (String × Json)) (k : String) (ks : List String) :
    (Json.obj fs).at? (k :: ks) = (Fields.get? fs k).bind fun c => c.at? ks := rfl

theorem at?_members (t : Json) {q : List String} (hq : q ≠ []) :
    (Json.obj t.members).at? q = t.at? q := by
  obtain ⟨k, ks, rfl⟩ := List.exists_cons_of_ne_nil hq
  cases t with
  | obj fs => rfl
  | _ => rfl

theorem at?_of_not_isObject {v : Json} (hv : v.isObject = false) {q : List String} (hq : q ≠ []) :
    v.at? q = none := by
  obtain ⟨k, ks, rfl⟩ := List.exists_cons_of_ne_nil hq
  cases v with
  | obj fs => simp [isObject] at hv
  | _ => rfl

theorem at?_get?_members (cs : List (String × Json)) (k : String) {q : List String}
    (hq : q ≠ []) :
    (Json.obj ((Fields.get? cs k).getD .null).members).at? q = (Json.obj cs).at? (k :: q) := by
  rw [at?_members _ hq, at?_cons]
  cases Fields.get? cs k with
  | none => exact at?_of_not_isObject (v := .null) rfl hq
  | some t => rfl

theorem isSentinel_iff {v : Json} : v.isSentinel = true ↔ v = .str maskSentinel := by
  cases v <;> simp [isSentinel]

/-! ## The stripped patch -/

section Restore

variable (p : String → Bool)

/-- **Stripping, then merging, puts the stored values back**: merging members stripped of
their masked credential leaves into `cs` is merging them whole, then putting back, along every
stripped chain and in any order, the value `cs` holds there, or removing it where `cs` holds
none. -/
theorem applyMembers_stripIn : ∀ (pre : String) (es cs : List (String × Json)),
    Canonical (.obj es) → Canonical (.obj cs) →
    ∀ qs : List (List String), (∀ q, q ∈ qs ↔ q ∈ maskedPathsIn p pre es) →
      Json.obj (mergePatch.applyMembers cs (stripIn p pre es)) =
        qs.foldl (fun D q => D.setAt q ((Json.obj cs).at? q)) (.obj (mergePatch.applyMembers cs es))
  | pre, es, cs, hE, hC, qs, hqs => by
    obtain ⟨hes, hem⟩ := canonical_obj_iff.1 hE
    obtain ⟨hcs, hcm⟩ := canonical_obj_iff.1 hC
    have hD : (Json.obj (mergePatch.applyMembers cs es)).SortedObject :=
      ⟨_, rfl, sorted_applyMembers es hcs⟩
    have hne : ∀ q ∈ qs, q ≠ [] := fun q hq => ne_nil_of_mem_maskedPathsIn ((hqs q).1 hq)
    refine SortedObject.ext ⟨_, rfl, sorted_applyMembers _ hcs⟩
      (SortedObject.foldl_setAt _ _ hD) fun k => ?_
    -- both sides are decided by the patch members of `k` and the chains that start with `k`
    have hqk : ∀ q, q ∈ qs.filter (·.head? == some k) ↔
        q ∈ maskedPathsIn p pre (es.filter (·.1 == k)) := by
      intro q
      rw [← maskedPathsIn_filter, List.mem_filter, List.mem_filter, hqs]
    have hk : ∀ q ∈ qs.filter (·.head? == some k), q.head? = some k := fun q hq => by
      simpa using (List.mem_filter.1 hq).2
    rw [get?_foldl_setAt_filter _ _ hne hD, get?_foldl_setAt_congr _ _ hk hD
      ⟨_, rfl, sorted_applyMembers _ hcs⟩ (get?_applyMembers_filter k cs es)]
    change Fields.get? (mergePatch.applyMembers cs (stripIn p pre es)) k = _
    rw [get?_applyMembers_filter, stripIn_filter]
    generalize qs.filter (·.head? == some k) = qk at hqk hk
    rcases Fields.filter_key_of_sorted hes k with ⟨-, h⟩ | ⟨v, hv, h⟩
    · -- the patch has no member of `k`, and no chain starts with `k`
      rw [h] at hqk ⊢
      obtain rfl : qk = [] := List.eq_nil_iff_forall_not_mem.2 fun q hq => by
        simpa [maskedPathsIn.eq_1] using (hqk q).1 hq
      rw [stripIn.eq_1]
      rfl
    rw [h] at hqk ⊢
    have hmem : (k, v) ∈ es := Fields.mem_of_get?_eq_some hv
    have ht : Canonical (.obj ((Fields.get? cs k).getD .null).members) := by
      apply canonical_members
      cases hck : Fields.get? cs k with
      | none => exact .null
      | some t => exact hcm _ (Fields.mem_of_get?_eq_some hck)
    rcases obj_or_leaf v with ⟨c, rfl⟩ | hleaf
    · -- an object member: merged below `k`, and restored there by the chains below it
      rw [maskedPathsIn_single_obj] at hqk
      have htail : ∀ q, q ∈ qk.map List.tail ↔ q ∈ maskedPathsIn p (pre ++ k ++ ".") c := by
        intro q
        have hcons : k :: q ∈ (maskedPathsIn p (pre ++ k ++ ".") c).map (k :: ·) ↔
            q ∈ maskedPathsIn p (pre ++ k ++ ".") c := by simp
        rw [← hcons, ← hqk, eq_map_cons_tail hk, List.map_map]
        simp
      have ih := applyMembers_stripIn (pre ++ k ++ ".") c _ (hem _ hmem) ht _ htail
      have hsingle : ∀ c', Fields.get? (mergePatch.applyMembers cs [(k, .obj c')]) k =
          some (.obj (mergePatch.applyMembers ((Fields.get? cs k).getD .null).members c')) :=
        fun c' => by rw [get?_applyMembers_single (by simp), mergePatch_obj]
      have htne : ∀ q ∈ qk.map List.tail, q ≠ [] := fun q hq =>
        ne_nil_of_mem_maskedPathsIn ((htail q).1 hq)
      rw [eq_map_cons_tail hk, stripIn_single_obj, get?_foldl_setAt_cons _ _ _ htne, get?,
        hsingle, hsingle, ih, Option.map_some]
      congr 1
      exact List.foldl_ext _ _ _ fun D q hq => by rw [at?_get?_members cs k (htne q hq)]
    · -- a leaf: a masked credential is left to `cs`, anything else is merged as it is
      rw [stripIn_single_leaf _ hleaf]
      rw [maskedPathsIn_single_leaf _ hleaf] at hqk
      by_cases hm : (p (pre ++ k) && v.isSentinel) = true
      · -- every chain left is `[k]` itself, and there is one
        rw [if_pos hm] at hqk ⊢
        have hall : ∀ q ∈ qk, q = [k] := fun q hq => by simpa using (hqk q).1 hq
        have hne' : qk ≠ [] := fun h0 => by simpa [h0] using (hqk [k]).2 List.mem_cons_self
        rw [mergePatch.applyMembers.eq_1, get?_foldl_setAt_single _ _ hne' hall
          ⟨_, rfl, sorted_applyMembers _ hcs⟩, at?_cons]
        cases Fields.get? cs k <;> rfl
      · rw [if_neg hm] at hqk ⊢
        obtain rfl : qk = [] := List.eq_nil_iff_forall_not_mem.2 fun q hq => by
          simpa using (hqk q).1 hq
        rfl
termination_by _ es => sizeOf es
decreasing_by
  have := List.sizeOf_lt_of_mem hmem
  simp only [Prod.mk.sizeOf_spec, Json.obj.sizeOf_spec] at this
  omega

/-- **Which chains are stripped**: exactly the chains through objects of the patch to a leaf
that holds the sentinel at a path the predicate calls a credential. -/
theorem mem_maskedPathsIn_iff : ∀ (pre : String) (es : List (String × Json)),
    Canonical (.obj es) → ∀ q, q ∈ maskedPathsIn p pre es ↔
      q ≠ [] ∧ (Json.obj es).at? q = some (.str maskSentinel) ∧
        p (pre ++ ".".intercalate q) = true
  | pre, es, hE, q => by
    obtain ⟨hes, hem⟩ := canonical_obj_iff.1 hE
    cases q with
    | nil =>
      simp only [ne_eq, not_true_eq_false, false_and, iff_false]
      exact fun h => ne_nil_of_mem_maskedPathsIn h rfl
    | cons k q =>
    -- only the members of `k` give chains that start with `k`
    have hfilter : k :: q ∈ maskedPathsIn p pre es ↔
        k :: q ∈ maskedPathsIn p pre (es.filter (·.1 == k)) := by
      rw [← maskedPathsIn_filter, List.mem_filter]
      simp
    rw [hfilter, at?_cons]
    rcases Fields.filter_key_of_sorted hes k with ⟨hnone, h⟩ | ⟨v, hv, h⟩
    · rw [h, hnone, maskedPathsIn.eq_1]
      simp
    rw [h, hv, Option.bind_some]
    rcases obj_or_leaf v with ⟨c, rfl⟩ | hleaf
    · -- below an object member: its own chains, under the path extended by `k`
      have ih := mem_maskedPathsIn_iff (pre ++ k ++ ".") c
        (hem _ (Fields.mem_of_get?_eq_some hv)) q
      rw [maskedPathsIn_single_obj, List.mem_map]
      simp only [List.cons.injEq, true_and, exists_eq_right, ne_eq, reduceCtorEq,
        not_false_eq_true]
      rw [ih]
      cases q with
      | nil => simp [at?]
      | cons k' q => rw [path_cons_cons]; simp
    · -- a leaf: the chain of the member itself, when it is a masked credential
      rw [maskedPathsIn_single_leaf _ hleaf]
      cases q with
      | nil =>
        have hr : ([k] ≠ [] ∧ v.at? [] = some (.str maskSentinel) ∧
            p (pre ++ ".".intercalate [k]) = true) ↔ (p (pre ++ k) && v.isSentinel) = true := by
          simp [at?, isSentinel_iff, and_comm]
        rw [hr]
        split <;> simp_all
      | cons k' q =>
        rw [at?_of_not_isObject hleaf (List.cons_ne_nil _ _)]
        split <;> simp
termination_by _ es => sizeOf es
decreasing_by
  have := List.sizeOf_lt_of_mem (Fields.mem_of_get?_eq_some hv)
  simp only [Prod.mk.sizeOf_spec, Json.obj.sizeOf_spec] at this
  omega

theorem mem_maskedPaths_iff {es : List (String × Json)} (hE : Canonical (.obj es))
    (q : List String) : q ∈ (Json.obj es).maskedPaths p ↔
      q ≠ [] ∧ (Json.obj es).at? q = some (.str maskSentinel) ∧
        p (".".intercalate q) = true := by
  rw [maskedPaths, mem_maskedPathsIn_iff p "" es hE q, String.empty_append]

/-- **Secrets kept through an edit.** Take a stored configuration `C` and a patch `E`, both
objects with members in key order at every depth, a predicate `p` on dotted paths, and any list
`qs` of exactly the chains through objects of `E` to a leaf holding the sentinel whose dotted
path `p` calls a credential. The configuration an update writes, `C` merged with `E` stripped of
its masked credential leaves, is `C` merged with `E` whole, with the value along each chain of
`qs` replaced by the value `C` holds along it, or removed where `C` holds none. -/
theorem stripped_patch_restores_stored_secrets {cs es : List (String × Json)}
    (hC : Canonical (.obj cs)) (hE : Canonical (.obj es)) (qs : List (List String))
    (hqs : ∀ q, q ∈ qs ↔ q ≠ [] ∧ (Json.obj es).at? q = some (.str maskSentinel) ∧
      p (".".intercalate q) = true) :
    (Json.obj cs).mergePatch ((Json.obj es).strip p) =
      qs.foldl (fun D q => D.setAt q ((Json.obj cs).at? q))
        ((Json.obj cs).mergePatch (.obj es)) := by
  rw [strip, mergePatch.eq_1, mergePatch.eq_1]
  refine applyMembers_stripIn p "" es cs hE hC qs fun q => ?_
  rw [hqs q, mem_maskedPathsIn_iff p "" es hE q, String.empty_append]

end Restore

/-! ## An edit that keeps one secret -/

/-- The paths of credentials in a configuration with a tunnel. -/
def tunnelCredential (path : String) : Bool :=
  path == "password" || path == "tunnel.private_key"

/-- A stored configuration with a password and a tunnel. -/
def storedTunnelConfig : List (String × Json) :=
  [("host", .str "old"), ("password", .str "s3cret"),
    ("tunnel", .obj [("private_key", .str "k"), ("user", .str "a")])]

/-- An edit of it that sends the password back masked, a new tunnel user, and drops the host. -/
def editedTunnelConfig : List (String × Json) :=
  [("host", .null), ("password", .str maskSentinel), ("tunnel", .obj [("user", .str "b")])]

theorem canonical_storedTunnelConfig : Canonical (.obj storedTunnelConfig) := by
  refine .obj (by unfold Fields.Sorted storedTunnelConfig; decide) ?_
  simp only [storedTunnelConfig, List.mem_cons, List.not_mem_nil, or_false, forall_eq_or_imp,
    forall_eq]
  exact ⟨.str _, .str _, .obj (by unfold Fields.Sorted; decide) (by simp [Canonical.str])⟩

theorem canonical_editedTunnelConfig : Canonical (.obj editedTunnelConfig) := by
  refine .obj (by unfold Fields.Sorted editedTunnelConfig; decide) ?_
  simp only [editedTunnelConfig, List.mem_cons, List.not_mem_nil, or_false, forall_eq_or_imp,
    forall_eq]
  exact ⟨.null, .str _, .obj (by unfold Fields.Sorted; decide) (by simp [Canonical.str])⟩

theorem editedTunnelConfig_maskedPaths :
    (Json.obj editedTunnelConfig).maskedPaths tunnelCredential = [["password"]] := by
  simp [maskedPaths, editedTunnelConfig, maskedPathsIn.eq_3, maskedPathsIn.eq_2,
    maskedPathsIn.eq_1, tunnelCredential, isSentinel, maskSentinel]

/-- Editing the tunnel configuration keeps its password: the write is the plain merge with the
stored password put back. -/
theorem tunnel_edit_keeps_password :
    Canonical (.obj storedTunnelConfig) ∧ Canonical (.obj editedTunnelConfig) ∧
      (∀ q, q ∈ [["password"]] ↔ q ≠ [] ∧
        (Json.obj editedTunnelConfig).at? q = some (.str maskSentinel) ∧
          tunnelCredential (".".intercalate q) = true) ∧
      (Json.obj storedTunnelConfig).mergePatch
          ((Json.obj editedTunnelConfig).strip tunnelCredential) =
        [["password"]].foldl (fun D q => D.setAt q ((Json.obj storedTunnelConfig).at? q))
          ((Json.obj storedTunnelConfig).mergePatch (.obj editedTunnelConfig)) := by
  have hqs : ∀ q, q ∈ [["password"]] ↔ q ≠ [] ∧
      (Json.obj editedTunnelConfig).at? q = some (.str maskSentinel) ∧
        tunnelCredential (".".intercalate q) = true := fun q => by
    rw [← editedTunnelConfig_maskedPaths, mem_maskedPaths_iff _ canonical_editedTunnelConfig]
  exact ⟨canonical_storedTunnelConfig, canonical_editedTunnelConfig, hqs,
    stripped_patch_restores_stored_secrets tunnelCredential canonical_storedTunnelConfig
      canonical_editedTunnelConfig _ hqs⟩

end Json

end ConnectorPlane
