import ConnectorPlane.Service.Plane
import Mathlib.Data.List.TakeWhile

/-! # Reading resource names

A resource name is `[prefix/]collection/id`: the id is what follows the last `/`, and the
collection the last segment of what precedes it. Both readings slice at the last `/`, so they
are stated here against the decomposition of a text at its last slash, said without the
slicing functions:

* `SplitsAtLastSlash s pre last` (`s = pre ++ "/" ++ last`, no slash in `last`) is what
  `Resource.beforeLastSlash` finds (`beforeLastSlash_eq_some_iff`, `beforeLastSlash_eq_none_iff`),
  and `EndsWithSegment s seg` is what `Resource.lastSegment` finds (`lastSegment_eq_iff`).
* `Resource.collection_eq_ok_iff`, `Resource.id_eq_ok_iff`: the two readings of a name; each of
  their failures is `malformedName` of the whole name.
* `Names.Answer`: the documented answer for a name in a collection: the id of
  `q ++ collection ++ "/" ++ id`, an invalid argument for a name of another collection, and a
  malformed name otherwise. `Names.idIn_eq_iff`: the answer is exactly that, for a non-empty
  collection without slash; `names_read_by_collection` for connectors and definitions.
-/

namespace ConnectorPlane

namespace Resource

/-! ## The last slash of a text -/

/-- `pre` is the text before the last slash of `s`, and `last` the text after it. -/
def SplitsAtLastSlash (s pre last : String) : Prop :=
  s = pre ++ "/" ++ last ∧ '/' ∉ last.toList

/-- A text a segment can follow: empty, or ending in a slash. -/
def SegmentBoundary (q : String) : Prop :=
  q = "" ∨ ∃ r, q = r ++ "/"

/-- `seg` is the last segment of `s`: what follows its last slash, or all of `s` if it has none. -/
def EndsWithSegment (s seg : String) : Prop :=
  ∃ r, SegmentBoundary r ∧ s = r ++ seg ∧ '/' ∉ seg.toList

theorem reverse_append_slash (a b : List Char) :
    (a ++ '/' :: b).reverse = b.reverse ++ '/' :: a.reverse := by
  simp

theorem ne_slash_of_not_mem {l : List Char} (h : '/' ∉ l) :
    ∀ c ∈ l.reverse, decide (c ≠ '/') = true := by
  intro c hc
  have hne : c ≠ '/' := fun e => h (e ▸ List.mem_reverse.1 hc)
  simpa using hne

theorem lastSegment_of_toList {s : String} {a b : List Char} (h : s.toList = a ++ '/' :: b)
    (hb : '/' ∉ b) : lastSegment s = String.ofList b := by
  rw [lastSegment, h, reverse_append_slash, List.takeWhile_append_of_pos (ne_slash_of_not_mem hb),
    List.takeWhile_cons_of_neg (by simp), List.append_nil, List.reverse_reverse]

theorem lastSegment_of_slash_not_mem {s : String} (h : '/' ∉ s.toList) : lastSegment s = s := by
  rw [lastSegment, List.takeWhile_eq_self_iff.2 (ne_slash_of_not_mem h), List.reverse_reverse,
    String.ofList_toList]

theorem beforeLastSlash_of_toList {s : String} {a b : List Char} (h : s.toList = a ++ '/' :: b)
    (hb : '/' ∉ b) : beforeLastSlash s = some (String.ofList a) := by
  have hslash : s.toList.contains '/' = true := by simp [h]
  -- what is dropped from the end is `b`, and the slash after `a` is the last character left
  rw [beforeLastSlash, if_pos hslash, h, reverse_append_slash,
    List.dropWhile_append_of_pos (ne_slash_of_not_mem hb), List.dropWhile_cons_of_neg (by simp),
    List.reverse_cons, List.reverse_reverse, List.dropLast_concat]

theorem exists_last_slash : ∀ {l : List Char}, '/' ∈ l → ∃ a b, l = a ++ '/' :: b ∧ '/' ∉ b
  | [], h => absurd h List.not_mem_nil
  | c :: t, h => by
    by_cases ht : '/' ∈ t
    · obtain ⟨a, b, rfl, hb⟩ := exists_last_slash ht
      exact ⟨c :: a, b, rfl, hb⟩
    · have hc : c = '/' := by simpa [ht, eq_comm] using h
      exact ⟨[], t, by simp [hc], ht⟩

theorem splitsAtLastSlash_iff {s pre last : String} :
    SplitsAtLastSlash s pre last ↔ s.toList = pre.toList ++ '/' :: last.toList ∧ '/' ∉ last.toList := by
  simp only [SplitsAtLastSlash, ← String.toList_inj, String.toList_append]
  simp

theorem exists_splitsAtLastSlash {s : String} (h : '/' ∈ s.toList) :
    ∃ pre last, SplitsAtLastSlash s pre last := by
  obtain ⟨a, b, hab, hb⟩ := exists_last_slash h
  exact ⟨String.ofList a, String.ofList b, splitsAtLastSlash_iff.2 (by simpa using ⟨hab, hb⟩)⟩

theorem beforeLastSlash_eq_none_iff {s : String} : beforeLastSlash s = none ↔ '/' ∉ s.toList := by
  constructor
  · intro h hs
    obtain ⟨pre, last, hsplit⟩ := exists_splitsAtLastSlash hs
    obtain ⟨htl, hl⟩ := splitsAtLastSlash_iff.1 hsplit
    simp [beforeLastSlash_of_toList htl hl] at h
  · intro h
    simp [beforeLastSlash, h]

theorem beforeLastSlash_eq_some_iff {s pre : String} :
    beforeLastSlash s = some pre ↔ ∃ last, SplitsAtLastSlash s pre last := by
  constructor
  · intro h
    have hs : '/' ∈ s.toList := by
      by_contra hs
      simp [beforeLastSlash_eq_none_iff.2 hs] at h
    obtain ⟨pre', last, hsplit⟩ := exists_splitsAtLastSlash hs
    obtain ⟨htl, hl⟩ := splitsAtLastSlash_iff.1 hsplit
    rw [beforeLastSlash_of_toList htl hl, String.ofList_toList, Option.some.injEq] at h
    exact ⟨last, h ▸ hsplit⟩
  · rintro ⟨last, hsplit⟩
    obtain ⟨htl, hl⟩ := splitsAtLastSlash_iff.1 hsplit
    rw [beforeLastSlash_of_toList htl hl, String.ofList_toList]

theorem lastSegment_of_splits {s pre last : String} (h : SplitsAtLastSlash s pre last) :
    lastSegment s = last := by
  obtain ⟨htl, hl⟩ := splitsAtLastSlash_iff.1 h
  rw [lastSegment_of_toList htl hl, String.ofList_toList]

/-- **The last segment is what follows the last slash**, or the whole text without one. -/
theorem lastSegment_eq_iff {s seg : String} : lastSegment s = seg ↔ EndsWithSegment s seg := by
  constructor
  · rintro rfl
    by_cases hs : '/' ∈ s.toList
    · obtain ⟨pre, last, hsplit⟩ := exists_splitsAtLastSlash hs
      rw [lastSegment_of_splits hsplit]
      exact ⟨pre ++ "/", .inr ⟨pre, rfl⟩, hsplit.1, hsplit.2⟩
    · rw [lastSegment_of_slash_not_mem hs]
      exact ⟨"", .inl rfl, by simp, hs⟩
  · rintro ⟨r, hr | ⟨r', rfl⟩, rfl, hseg⟩
    · subst hr
      simpa using lastSegment_of_slash_not_mem hseg
    · exact lastSegment_of_splits ⟨rfl, hseg⟩

/-! ## The two readings of a name -/

theorem collection_eq_ok_iff {name c : String} :
    collection name = .ok c ↔
      ∃ pre last, SplitsAtLastSlash name pre last ∧ pre ≠ "" ∧ EndsWithSegment pre c ∧ c ≠ "" := by
  rw [collection]
  cases h : beforeLastSlash name with
  | none =>
    simp only [reduceCtorEq, false_iff, not_exists, not_and]
    intro pre last hsplit
    exact absurd (beforeLastSlash_eq_some_iff.2 ⟨last, hsplit⟩) (by simp [h])
  | some pre =>
    have hpre : ∀ pre', (∃ last, SplitsAtLastSlash name pre' last) ↔ pre' = pre := fun pre' => by
      rw [← beforeLastSlash_eq_some_iff, h, Option.some.injEq, eq_comm]
    simp only [String.isEmpty_iff]
    by_cases he : pre = ""
    · simp only [he, if_true, reduceCtorEq, false_iff, not_exists, not_and]
      intro pre' last hsplit hne
      exact absurd ((hpre pre').1 ⟨last, hsplit⟩ ▸ he) hne
    · simp only [he, if_false]
      constructor
      · intro hc
        have hseg : lastSegment pre ≠ "" := fun e => by simp [e] at hc
        rw [if_neg hseg, Except.ok.injEq] at hc
        obtain ⟨last, hsplit⟩ := (hpre pre).2 rfl
        exact ⟨pre, last, hsplit, he, lastSegment_eq_iff.1 hc, hc ▸ hseg⟩
      · rintro ⟨pre', last, hsplit, -, hend, hc⟩
        obtain rfl := (hpre pre').1 ⟨last, hsplit⟩
        rw [lastSegment_eq_iff.2 hend, if_neg hc]

theorem collection_error {name : String} {e : ResourceError} (h : collection name = .error e) :
    e = .malformedName name := by
  unfold collection at h
  dsimp only at h
  split at h
  · exact (Except.error.inj h).symm
  · split_ifs at h
    · exact (Except.error.inj h).symm
    · exact (Except.error.inj h).symm

theorem id_eq_ok_iff {name s : String} : id name = .ok s ↔ EndsWithSegment name s ∧ s ≠ "" := by
  rw [← lastSegment_eq_iff]
  unfold id
  dsimp only
  by_cases he : (lastSegment name).isEmpty
  · rw [if_pos he]
    simp only [reduceCtorEq, false_iff, not_and]
    rintro rfl hne
    exact hne (String.isEmpty_iff.1 he)
  · rw [if_neg he, Except.ok.injEq]
    exact ⟨fun h => ⟨h, h ▸ fun e => he (String.isEmpty_iff.2 e)⟩, fun h => h.1⟩

theorem id_error {name : String} {e : ResourceError} (h : id name = .error e) :
    e = .malformedName name := by
  unfold id at h
  dsimp only at h
  split at h
  · exact (Except.error.inj h).symm
  · simp at h

end Resource

/-! ## The id of a name in a collection -/

namespace Names

open Resource

/-- `name` is `q ++ c ++ "/" ++ id`: a prefix that is empty or ends in a slash, the collection,
and a non-empty id without slash. -/
def InCollection (c name id : String) : Prop :=
  ∃ q, SegmentBoundary q ∧ name = q ++ c ++ "/" ++ id ∧ id ≠ "" ∧ '/' ∉ id.toList

/-- `name` has a slash, the text before its last slash is non-empty, and the last segment of
that text is non-empty and not `c`. -/
def InOtherCollection (c name : String) : Prop :=
  ∃ pre last seg, SplitsAtLastSlash name pre last ∧ pre ≠ "" ∧ EndsWithSegment pre seg ∧
    seg ≠ "" ∧ seg ≠ c

/-- The documented answer for the id of `name` in collection `c`, where `what` names what the
collection holds. -/
inductive Answer (c what name : String) : Except ServiceError String → Prop
  | named {id : String} (h : InCollection c name id) : Answer c what name (.ok id)
  | otherCollection (h : InOtherCollection c name) :
      Answer c what name (.error (.invalidArgument ("'" ++ name ++ "' is not a " ++ what)))
  | malformed (hid : ∀ id, ¬ InCollection c name id) (hother : ¬ InOtherCollection c name) :
      Answer c what name (.error (.malformedName name))

section

variable {c what name : String}

theorem inOtherCollection_iff : InOtherCollection c name ↔ ∃ seg, collection name = .ok seg ∧ seg ≠ c := by
  simp only [InOtherCollection, collection_eq_ok_iff]
  constructor
  · rintro ⟨pre, last, seg, hsplit, hpre, hend, hseg, hne⟩
    exact ⟨seg, ⟨pre, last, hsplit, hpre, hend, hseg⟩, hne⟩
  · rintro ⟨seg, ⟨pre, last, hsplit, hpre, hend, hseg⟩, hne⟩
    exact ⟨pre, last, seg, hsplit, hpre, hend, hseg, hne⟩

/-- A name of the collection is read as the collection and the id, for a collection that is one
segment. -/
theorem inCollection_iff (hc : c ≠ "") (hs : '/' ∉ c.toList) {id : String} :
    InCollection c name id ↔ collection name = .ok c ∧ Resource.id name = .ok id := by
  rw [collection_eq_ok_iff, id_eq_ok_iff]
  constructor
  · rintro ⟨q, hq, rfl, hne, hslash⟩
    have hpre : q ++ c ≠ "" := by
      intro e
      have hnil : q.toList ++ c.toList = [] := by rw [← String.toList_append, e, String.toList_empty]
      exact hc (String.toList_eq_nil_iff.1 (List.append_eq_nil_iff.1 hnil).2)
    refine ⟨⟨q ++ c, id, ⟨rfl, hslash⟩, hpre, ⟨q, hq, rfl, hs⟩, hc⟩, ?_, hne⟩
    exact ⟨q ++ c ++ "/", .inr ⟨q ++ c, rfl⟩, rfl, hslash⟩
  · rintro ⟨⟨pre, last, hsplit, -, ⟨q, hq, rfl, -⟩, -⟩, hend, hne⟩
    have hlast : last = id := (lastSegment_of_splits hsplit).symm.trans (lastSegment_eq_iff.2 hend)
    subst hlast
    exact ⟨q, hq, hsplit.1, hne, hsplit.2⟩

theorem idIn_of_collection_error {e : ResourceError} (h : collection name = .error e) :
    idIn c what name = .error (.malformedName name) := by
  simp [idIn, h, collection_error h, Except.mapError, bind, Except.bind, ServiceError.ofResource]

theorem idIn_of_collection_ne {seg : String} (h : collection name = .ok seg) (hne : seg ≠ c) :
    idIn c what name = .error (.invalidArgument ("'" ++ name ++ "' is not a " ++ what)) := by
  simp only [idIn, h, Except.mapError, bind, Except.bind, if_pos hne]
  rfl

theorem idIn_of_id_ok {id : String} (hcoll : collection name = .ok c) (h : Resource.id name = .ok id) :
    idIn c what name = .ok id := by
  simp only [idIn, hcoll, h, Except.mapError, bind, Except.bind, ne_eq, not_true_eq_false, if_false]

theorem idIn_of_id_error {e : ResourceError} (hcoll : collection name = .ok c)
    (h : Resource.id name = .error e) : idIn c what name = .error (.malformedName name) := by
  simp only [idIn, hcoll, h, id_error h, Except.mapError, bind, Except.bind, ne_eq,
    not_true_eq_false, if_false]
  rfl

/-- **The id of a name in a collection is the documented answer**, for a collection that is one
non-empty segment. -/
theorem idIn_eq_iff (hc : c ≠ "") (hs : '/' ∉ c.toList) (r : Except ServiceError String) :
    idIn c what name = r ↔ Answer c what name r := by
  constructor
  · rintro rfl
    cases hcoll : collection name with
    | error e =>
      rw [idIn_of_collection_error hcoll]
      refine .malformed (fun id hin => ?_) (fun hother => ?_)
      · simp [(inCollection_iff hc hs).1 hin] at hcoll
      · obtain ⟨seg, hseg, -⟩ := inOtherCollection_iff.1 hother
        simp [hseg] at hcoll
    | ok seg =>
      by_cases hne : seg = c
      · subst hne
        cases hid : Resource.id name with
        | ok id =>
          rw [idIn_of_id_ok hcoll hid]
          exact .named ((inCollection_iff hc hs).2 ⟨hcoll, hid⟩)
        | error e =>
          rw [idIn_of_id_error hcoll hid]
          refine .malformed (fun id hin => ?_) (fun hother => ?_)
          · simp [((inCollection_iff hc hs).1 hin).2] at hid
          · obtain ⟨seg', hseg', hne'⟩ := inOtherCollection_iff.1 hother
            simp only [hcoll, Except.ok.injEq] at hseg'
            exact hne' hseg'.symm
      · rw [idIn_of_collection_ne hcoll hne]
        exact .otherCollection (inOtherCollection_iff.2 ⟨seg, hcoll, hne⟩)
  · intro h
    cases h with
    | named hin =>
      obtain ⟨hcoll, hid⟩ := (inCollection_iff hc hs).1 hin
      exact idIn_of_id_ok hcoll hid
    | otherCollection hother =>
      obtain ⟨seg, hseg, hne⟩ := inOtherCollection_iff.1 hother
      exact idIn_of_collection_ne hseg hne
    | malformed hid hother =>
      cases hcoll : collection name with
      | error e => exact idIn_of_collection_error hcoll
      | ok seg =>
        have hseg : seg = c := by
          by_contra hne
          exact hother (inOtherCollection_iff.2 ⟨seg, hcoll, hne⟩)
        subst hseg
        cases hread : Resource.id name with
        | ok id => exact absurd ((inCollection_iff hc hs).2 ⟨hcoll, hread⟩) (hid id)
        | error e => exact idIn_of_id_error hcoll hread

end

end Names

/-- **Connector names and definition names are read exactly as documented**: the id of
`q ++ "connectors/" ++ id` (resp. `connector-definitions`), where `q` is empty or ends in a
slash and the id is non-empty without slash; an invalid argument when the name has a slash and
the text before its last slash is non-empty with a last segment that is non-empty and another
collection; a malformed name in every other case. -/
theorem names_read_by_collection (name : String) (r : Except ServiceError String) :
    (Names.connectorId name = r ↔ Names.Answer "connectors" "connector name" name r) ∧
    (Names.definitionId name = r ↔
      Names.Answer "connector-definitions" "connector definition name" name r) :=
  ⟨Names.idIn_eq_iff (by decide) (by decide) r, Names.idIn_eq_iff (by decide) (by decide) r⟩

example : Names.connectorId "users/alice/connectors/abc" = .ok "abc" := by decide

example : Names.definitionId "connectors/abc" =
    .error (.invalidArgument "'connectors/abc' is not a connector definition name") := by decide

end ConnectorPlane
