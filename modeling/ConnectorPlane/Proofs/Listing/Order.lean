import ConnectorPlane.Store.Listing
import Mathlib.Data.String.Basic
import Mathlib.Data.Prod.Lex
import Mathlib.Data.List.Nodup

/-! # The order of a listing

Rows are listed by their `Position`, newest first. `Position.lt` is the lexicographic order on
(time text, uid text) (`Position.lt_iff_key_lt`), a linear order once a position is read as its
`key`. For rows of distinct keys:

* `newestFirst_strict`: the listing is strictly decreasing;
* `newestFirst_filter`: listing a part of the rows lists it in the order of the whole;
* `filter_lt_getElem`: the rows below the `i`-th row listed are exactly those listed after it,
  which is how a cursor resumes a listing;
* `filter_lt_getLast?_take`: the same, for the last of the first `j` rows;
* `oldest?_eq_getLast?`: the oldest row is the last one listed.
-/

namespace ConnectorPlane

namespace Position

/-- A position as a key of the lexicographic order on (time text, uid text). -/
def key (p : Position) : Lex (String × String) := toLex (p.time, p.uid)

theorem lt_iff_key_lt {p q : Position} : p.lt q = true ↔ p.key < q.key := by
  simp [Position.lt, key, Prod.Lex.toLex_lt_toLex]

theorem lt_eq_false_iff {p q : Position} : p.lt q = false ↔ q.key ≤ p.key := by
  rw [← not_lt, ← lt_iff_key_lt, Bool.not_eq_true]

theorem key_injective : Function.Injective key := by
  intro p q h
  simp only [key, toLex_inj, Prod.mk.injEq] at h
  cases p; cases q
  simp_all

end Position

namespace Listing

section

variable {α : Type} (pos : α → Position)

/-- The key a row is listed by. -/
abbrev keyOf (r : α) : Lex (String × String) := (pos r).key

theorem newestFirst_perm (rows : List α) : (newestFirst pos rows).Perm rows :=
  List.mergeSort_perm _ _

theorem newestFirst_sorted (rows : List α) :
    (newestFirst pos rows).Pairwise (fun a b => keyOf pos b ≤ keyOf pos a) := by
  -- the sort keeps `a` before `b` when `a` is not below `b`, a total preorder on keys
  have h := @List.pairwise_mergeSort _ (fun a b => !(pos a).lt (pos b))
    (fun a b c hab hbc => by
      simp only [Bool.not_eq_true', Position.lt_eq_false_iff] at *
      exact le_trans hbc hab)
    (fun a b => by
      simp only [Bool.or_eq_true, Bool.not_eq_true', Position.lt_eq_false_iff]
      exact le_total _ _)
    rows
  exact h.imp fun hab => by simpa only [Bool.not_eq_true', Position.lt_eq_false_iff] using hab

variable {pos} {rows : List α}

theorem newestFirst_strict (h : (rows.map (keyOf pos)).Nodup) :
    (newestFirst pos rows).Pairwise (fun a b => keyOf pos b < keyOf pos a) := by
  have hne : (newestFirst pos rows).Pairwise (fun a b => keyOf pos a ≠ keyOf pos b) :=
    List.pairwise_map.1 (((newestFirst_perm pos rows).map _).nodup_iff.2 h)
  exact ((newestFirst_sorted pos rows).and hne).imp fun ⟨hle, hne⟩ => lt_of_le_of_ne hle hne.symm

theorem newestFirst_filter (h : (rows.map (keyOf pos)).Nodup) (q : α → Bool) :
    newestFirst pos (rows.filter q) = (newestFirst pos rows).filter q := by
  have hinj := List.inj_on_of_nodup_map h
  refine @List.Perm.eq_of_pairwise _ (fun a b => keyOf pos b ≤ keyOf pos a) _ _ ?_
    (newestFirst_sorted pos _) ((newestFirst_sorted pos rows).filter q) ?_
  · -- two rows of one key are one row
    intro a b ha hb hab hba
    have ha' := List.mem_of_mem_filter ((newestFirst_perm pos _).subset ha)
    have hb' := (newestFirst_perm pos rows).subset (List.mem_of_mem_filter hb)
    exact hinj ha' hb' (le_antisymm hba hab)
  · exact (newestFirst_perm pos _).trans ((newestFirst_perm pos rows).filter q).symm

theorem newestFirst_eq_self (h : rows.Pairwise fun a b => keyOf pos b < keyOf pos a) :
    newestFirst pos rows = rows := by
  have hinj := List.inj_on_of_nodup_map
    (List.pairwise_map.2 (h.imp ne_of_gt) : (rows.map (keyOf pos)).Nodup)
  refine @List.Perm.eq_of_pairwise _ (fun a b => keyOf pos b ≤ keyOf pos a) _ _ ?_
    (newestFirst_sorted pos rows) (h.imp le_of_lt) (newestFirst_perm pos rows)
  intro a b ha hb hab hba
  exact hinj ((newestFirst_perm pos rows).subset ha) hb (le_antisymm hba hab)

theorem filter_lt_getElem :
    ∀ (S : List α), S.Pairwise (fun a b => keyOf pos b < keyOf pos a) → ∀ (i : Nat) (hi : i < S.length),
      S.filter (fun r => (pos r).lt (pos S[i])) = S.drop (i + 1)
  | [], _, i, hi => absurd hi (by simp)
  | a :: S, hS, 0, _ => by
    rw [List.pairwise_cons] at hS
    have hrest : S.filter (fun r => (pos r).lt (pos a)) = S :=
      List.filter_eq_self.2 fun b hb => Position.lt_iff_key_lt.2 (hS.1 b hb)
    simp [Position.lt_iff_key_lt, hrest]
  | a :: S, hS, i + 1, hi => by
    rw [List.pairwise_cons] at hS
    have hi' : i < S.length := by simpa using hi
    have hlt : (pos a).lt (pos S[i]) = false :=
      Position.lt_eq_false_iff.2 (le_of_lt (hS.1 _ (List.getElem_mem _)))
    rw [List.getElem_cons_succ, List.filter_cons, hlt, if_neg Bool.false_ne_true,
      List.drop_succ_cons]
    exact filter_lt_getElem S hS.2 i hi'

theorem foldl_oldest (r : α) (rest : List α) :
    rest.foldl (fun o x => if (pos x).lt (pos o) then x else o) r ∈ r :: rest ∧
      ∀ x ∈ r :: rest,
        keyOf pos (rest.foldl (fun o x => if (pos x).lt (pos o) then x else o) r) ≤ keyOf pos x := by
  induction rest generalizing r with
  | nil => simp
  | cons x rest ih =>
    have hstep : keyOf pos (if (pos x).lt (pos r) then x else r) ≤ keyOf pos r ∧
        keyOf pos (if (pos x).lt (pos r) then x else r) ≤ keyOf pos x := by
      by_cases h : (pos x).lt (pos r)
      · simp only [h, if_true]
        exact ⟨le_of_lt (Position.lt_iff_key_lt.1 h), le_rfl⟩
      · simp only [h, Bool.false_eq_true, if_false]
        exact ⟨le_rfl, Position.lt_eq_false_iff.1 (Bool.eq_false_iff.2 h)⟩
    obtain ⟨hmem, hmin⟩ := ih (if (pos x).lt (pos r) then x else r)
    rw [List.foldl_cons]
    refine ⟨?_, ?_⟩
    · rcases List.mem_cons.1 hmem with h | h
      · rw [h]
        split <;> simp
      · exact List.mem_cons_of_mem _ (List.mem_cons_of_mem _ h)
    · intro y hy
      have hm := hmin _ List.mem_cons_self
      rcases List.mem_cons.1 hy with rfl | hy
      · exact le_trans hm hstep.1
      rcases List.mem_cons.1 hy with rfl | hy
      · exact le_trans hm hstep.2
      · exact hmin y (List.mem_cons_of_mem _ hy)

theorem key_getLast?_le {γ : Type} {f : γ → Lex (String × String)} {l : List γ}
    (hl : l.Pairwise fun a b => f b ≤ f a) {b : γ} (hb : l.getLast? = some b) :
    ∀ a ∈ l, f b ≤ f a := by
  have hne : l ≠ [] := fun h => by simp [h] at hb
  rw [List.getLast?_eq_some_getLast hne, Option.some.injEq] at hb
  subst hb
  intro a ha
  rw [← List.dropLast_append_getLast hne] at hl ha
  rcases List.mem_append.1 ha with ha | ha
  · exact (List.pairwise_append.1 hl).2.2 a ha _ List.mem_cons_self
  · rw [List.mem_singleton.1 ha]

/-- **The oldest row is the last one listed.** -/
theorem oldest?_eq_getLast? (h : (rows.map (keyOf pos)).Nodup) :
    oldest? pos rows = (newestFirst pos rows).getLast? := by
  have hinj := List.inj_on_of_nodup_map h
  have hperm := newestFirst_perm pos rows
  cases hrows : rows with
  | nil =>
    rw [hrows] at hperm
    rw [List.Perm.eq_nil hperm]
    rfl
  | cons r rest =>
    rw [hrows] at hperm hinj
    obtain ⟨hmem, hmin⟩ := @foldl_oldest _ pos r rest
    have hne : newestFirst pos (r :: rest) ≠ [] := fun he => by
      rw [he] at hperm
      exact List.cons_ne_nil r rest (List.Perm.eq_nil hperm.symm)
    have hlast := List.getLast_mem hne
    have hle := key_getLast?_le (newestFirst_sorted pos (r :: rest))
      (List.getLast?_eq_some_getLast hne)
    rw [oldest?, List.getLast?_eq_some_getLast hne, Option.some.injEq]
    exact hinj hmem (hperm.subset hlast)
      (le_antisymm (hmin _ (hperm.subset hlast)) (hle _ (hperm.symm.subset hmem)))

end

section Cursor

variable {α : Type} {pos : α → Position}

/-- The rows below the last of the first `j` rows of a strictly decreasing list are those after
the first `j`. -/
theorem filter_lt_getLast?_take {S : List α}
    (hS : S.Pairwise (fun a b => keyOf pos b < keyOf pos a)) {j : Nat} {r : α}
    (hr : (S.take j).getLast? = some r) :
    S.filter (fun x => (pos x).lt (pos r)) = S.drop j := by
  rw [List.getLast?_take] at hr
  split at hr
  · cases hr
  · by_cases hj : j - 1 < S.length
    · rw [List.getElem?_eq_getElem hj, Option.some_or, Option.some.injEq] at hr
      subst hr
      rw [filter_lt_getElem S hS (j - 1) hj]
      congr 1
      omega
    · -- past the end: the cursor is the last row, and nothing is below it
      rw [List.getElem?_eq_none (by omega), Option.none_or] at hr
      have hne : S ≠ [] := fun h => by simp [h] at hr
      rw [List.getLast?_eq_some_getLast hne, Option.some.injEq] at hr
      subst hr
      rw [List.getLast_eq_getElem, filter_lt_getElem S hS _ (by
        have := List.length_pos_iff.2 hne; omega)]
      rw [List.drop_of_length_le (by omega), List.drop_of_length_le (by omega)]

end Cursor

end Listing

end ConnectorPlane
