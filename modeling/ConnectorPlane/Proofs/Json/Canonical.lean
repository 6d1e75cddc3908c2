import ConnectorPlane.Json.Read
import Mathlib.Data.String.Basic

/-! # Canonical JSON values

Every object a JSON document holds lists its members in increasing key order, each key once
(`Json.Canonical`). Inserting a member keeps an object so (`Json.Fields.sorted_insert`), an
object built from any members is so (`Json.canonical_ofFields`), and every value the reader
returns is canonical (`Json.read_canonical`).
-/

namespace ConnectorPlane

namespace Json

/-- Members listed in increasing key order, so each key once. -/
def Fields.Sorted (fs : List (String × Json)) : Prop := fs.Pairwise fun a b => a.1 < b.1

/-- A value whose objects, at every depth, list their members in increasing key order. -/
inductive Canonical : Json → Prop
  | null : Canonical .null
  | bool (b : Bool) : Canonical (.bool b)
  | num (n : Number) : Canonical (.num n)
  | str (s : String) : Canonical (.str s)
  | arr {items : List Json} : (∀ x ∈ items, Canonical x) → Canonical (.arr items)
  | obj {fs : List (String × Json)} : Fields.Sorted fs → (∀ m ∈ fs, Canonical m.2) →
      Canonical (.obj fs)

theorem canonical_obj_iff {fs : List (String × Json)} :
    Canonical (.obj fs) ↔ Fields.Sorted fs ∧ ∀ m ∈ fs, Canonical m.2 :=
  ⟨fun h => by cases h with | obj hs hm => exact ⟨hs, hm⟩, fun h => .obj h.1 h.2⟩

/-! ## Objects built member by member -/

namespace Fields

theorem mem_insert {k : String} {v : Json} {fs : List (String × Json)} {m : String × Json}
    (h : m ∈ insert k v fs) : m = (k, v) ∨ m ∈ fs := by
  induction fs with
  | nil => simpa [insert] using h
  | cons a fs ih =>
    obtain ⟨k', v'⟩ := a
    simp only [insert] at h
    split_ifs at h with h₁ h₂
    · simpa using h
    · rcases List.mem_cons.1 h with h | h
      · exact .inl h
      · exact .inr (List.mem_cons_of_mem _ h)
    · rcases List.mem_cons.1 h with h | h
      · exact .inr (h ▸ List.mem_cons_self)
      · exact (ih h).imp id (List.mem_cons_of_mem _)

theorem sorted_insert (k : String) (v : Json) {fs : List (String × Json)} (h : Sorted fs) :
    Sorted (insert k v fs) := by
  induction fs with
  | nil => simp [insert, Sorted]
  | cons a fs ih =>
    obtain ⟨k', v'⟩ := a
    simp only [Sorted, insert] at h ⊢
    split_ifs with h₁ h₂
    · exact h.cons fun b hb => (List.mem_cons.1 hb).elim (fun e => e ▸ h₁)
        fun hb => h₁.trans (List.rel_of_pairwise_cons h hb)
    · subst h₂
      exact h.of_cons.cons fun b hb => List.rel_of_pairwise_cons h hb
    · refine (ih h.of_cons).cons fun b hb => ?_
      rcases mem_insert hb with rfl | hb
      · exact lt_of_le_of_ne (not_lt.1 h₁) (Ne.symm h₂)
      · exact List.rel_of_pairwise_cons h hb

end Fields

theorem canonical_ofFields {members : List (String × Json)} (h : ∀ m ∈ members, Canonical m.2) :
    Canonical (ofFields members) := by
  suffices ∀ acc : List (String × Json), Fields.Sorted acc → (∀ m ∈ acc, Canonical m.2) →
      Canonical (.obj (members.foldl (fun acc p => Fields.insert p.1 p.2 acc) acc)) from
    this [] List.Pairwise.nil (by simp)
  induction members with
  | nil => exact fun acc hs hm => .obj hs hm
  | cons a members ih =>
    intro acc hs hm
    refine ih (fun m hm' => h m (List.mem_cons_of_mem _ hm')) _ (Fields.sorted_insert _ _ hs)
      fun m hm' => ?_
    rcases Fields.mem_insert hm' with rfl | hm'
    · exact h a List.mem_cons_self
    · exact hm m hm'

/-! ## What the reader returns -/

section Reader

open JsonReader

theorem Cursor.failPeek_ne_ok {α : Type} {c : Cursor} {f : ReadFault} {a : α} :
    c.failPeek f ≠ .ok a := by
  unfold Cursor.failPeek
  split
  · simp
  · split <;> simp

theorem map_eq_ok {ε α β : Type} {x : Except ε α} {f : α → β} {b : β} :
    x.map f = .ok b ↔ ∃ a, x = .ok a ∧ f a = b := by
  cases x <;> simp [Except.map]

/-- The readers, with some fuel, return canonical values, items and members. -/
structure ReadsCanonical (fuel : Nat) : Prop where
  value : ∀ depth c v c', readValue fuel depth c = .ok (v, c') → Canonical v
  items : ∀ depth c first acc items c', (∀ x ∈ acc, Canonical x) →
    readItems fuel depth c first acc = .ok (items, c') → ∀ x ∈ items, Canonical x
  members : ∀ depth c first acc ms c', (∀ m ∈ acc, Canonical m.2) →
    readMembers fuel depth c first acc = .ok (ms, c') → ∀ m ∈ ms, Canonical m.2

variable {fuel : Nat}

/-- A value is a scalar, an array of the items read one level down, or an object built from the
members read one level down. -/
theorem readValue_succ_canonical (h : ReadsCanonical fuel) {depth : Nat} {c c' : Cursor}
    {v : Json} (hv : readValue (fuel + 1) depth c = .ok (v, c')) : Canonical v := by
  rw [readValue] at hv
  dsimp only at hv
  split at hv
  · exact absurd hv Cursor.failPeek_ne_ok
  · obtain ⟨_, -, he⟩ := map_eq_ok.1 hv
    cases he
    exact .null
  · obtain ⟨_, -, he⟩ := map_eq_ok.1 hv
    cases he
    exact .bool true
  · obtain ⟨_, -, he⟩ := map_eq_ok.1 hv
    cases he
    exact .bool false
  · obtain ⟨⟨n, _⟩, -, he⟩ := map_eq_ok.1 hv
    cases he
    exact .num n
  · obtain ⟨⟨s, _⟩, -, he⟩ := map_eq_ok.1 hv
    cases he
    exact .str s
  · -- an array
    split at hv
    · exact absurd hv Cursor.failPeek_ne_ok
    · split at hv
      · cases hv
      · rename_i items _ hitems
        split at hv
        · cases hv
          exact .arr (h.items _ _ _ _ _ _ (by simp) hitems)
        all_goals first
          | exact absurd hv Cursor.failPeek_ne_ok
          | (split at hv <;> exact absurd hv Cursor.failPeek_ne_ok)
  · -- an object
    split at hv
    · exact absurd hv Cursor.failPeek_ne_ok
    · split at hv
      · cases hv
      · rename_i members _ hmembers
        split at hv
        · cases hv
          exact canonical_ofFields (h.members _ _ _ _ _ _ (by simp) hmembers)
        all_goals exact absurd hv Cursor.failPeek_ne_ok
  · split at hv
    · obtain ⟨⟨n, _⟩, -, he⟩ := map_eq_ok.1 hv
      cases he
      exact .num n
    · exact absurd hv Cursor.failPeek_ne_ok

theorem readItems_succ_canonical (h : ReadsCanonical fuel) {depth : Nat} {c c' : Cursor}
    {first : Bool} {acc items : List Json} (hacc : ∀ x ∈ acc, Canonical x)
    (hr : readItems (fuel + 1) depth c first acc = .ok (items, c')) : ∀ x ∈ items, Canonical x := by
  rw [readItems] at hr
  dsimp only at hr
  split at hr
  · exact absurd hr Cursor.failPeek_ne_ok
  · cases hr
    simpa using hacc
  · split at hr
    · cases hr
    · split at hr
      · exact absurd hr Cursor.failPeek_ne_ok
      · exact absurd hr Cursor.failPeek_ne_ok
      · split at hr
        · cases hr
        · rename_i v _ hvr
          refine h.items _ _ _ _ _ _ (fun x hx => ?_) hr
          rcases List.mem_cons.1 hx with rfl | hx
          · exact h.value _ _ _ _ hvr
          · exact hacc x hx

/-- The members of an object are those gathered so far and the keys with the values read one
level down. -/
theorem readMembers_succ_canonical (h : ReadsCanonical fuel) {depth : Nat} {c c' : Cursor}
    {first : Bool} {acc ms : List (String × Json)} (hacc : ∀ m ∈ acc, Canonical m.2)
    (hr : readMembers (fuel + 1) depth c first acc = .ok (ms, c')) :
    ∀ m ∈ ms, Canonical m.2 := by
  rw [readMembers] at hr
  dsimp only at hr
  split at hr
  · exact absurd hr Cursor.failPeek_ne_ok
  · cases hr
    simpa using hacc
  · split at hr
    · cases hr
    · split at hr
      · split at hr
        · cases hr
        · split at hr
          · split at hr
            · cases hr
            · rename_i key _ _ _ v _ hvr
              refine h.members _ _ _ _ _ _ (fun m hm => ?_) hr
              rcases List.mem_cons.1 hm with rfl | hm
              · exact h.value _ _ _ _ hvr
              · exact hacc m hm
          all_goals exact absurd hr Cursor.failPeek_ne_ok
      all_goals exact absurd hr Cursor.failPeek_ne_ok

theorem readsCanonical : ∀ fuel, ReadsCanonical fuel
  | 0 => ⟨fun _ _ _ _ h => by simp [readValue, Cursor.fail] at h,
      fun _ _ _ _ _ _ _ h => by simp [readItems, Cursor.fail] at h,
      fun _ _ _ _ _ _ _ h => by simp [readMembers, Cursor.fail] at h⟩
  | fuel + 1 =>
    have h := readsCanonical fuel
    ⟨fun _ _ _ _ => readValue_succ_canonical h, fun _ _ _ _ _ _ => readItems_succ_canonical h,
      fun _ _ _ _ _ _ => readMembers_succ_canonical h⟩

/-- **Every value the reader returns is canonical.** -/
theorem read_canonical {s : String} {v : Json} (h : Json.read s = .ok v) : Canonical v := by
  unfold Json.read at h
  dsimp only at h
  split at h
  · cases h
  · rename_i v₀ _ hv₀
    split at h
    · exact absurd h Cursor.failPeek_ne_ok
    · cases h
      exact (readsCanonical _).value _ _ _ _ hv₀

end Reader

end Json

end ConnectorPlane
