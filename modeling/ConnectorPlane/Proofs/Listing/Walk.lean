import ConnectorPlane.Proofs.Listing.Order
import ConnectorPlane.Proofs.TokenCodec
import Mathlib.Data.List.Forall2

/-! # Walking a listing page by page

A walk calls a listing first with the empty token and then with each token a page returns,
until a page returns none (`Walk`). Over a scope whose uids are distinct and whose rows, once
read, name their own positions by tokens that read back (`Listing.Resumable`):

* `Listing.listPage_eq`: a call with a token that resumes after `j` rows (`Listing.Resumes`)
  reads the next rows listed and carries the token of its last one unless the page reaches
  the end (`Listing.nextToken`); the oldest-row check of the listing is exactly that test
  (`Listing.next_eq`).
* `Listing.walkFrom_of_walk`: by induction on the walk, every walk returns
  `max 1 ⌈N / L⌉` pages of the whole scope's size, all but the last full, whose rows are the
  scope's rows read in listing order (`Listing.WalkFrom`).
* `Listing.exists_walk_iff`: the walk from the empty token ends exactly when every row of the
  scope reads back.
-/

namespace ConnectorPlane

/-- The calls of a walk through a listing: the first is made with `token`, each further one with
the token the page before returned, and the walk ends with the page that returns no token. -/
inductive Walk {ε β : Type} (call : String → Except ε (Page β)) : String → List (Page β) → Prop
  | last {token : String} {p : Page β} :
      call token = .ok p → p.nextPageToken = "" → Walk call token [p]
  | next {token : String} {p : Page β} {ps : List (Page β)} :
      call token = .ok p → p.nextPageToken ≠ "" → Walk call p.nextPageToken ps →
        Walk call token (p :: ps)

theorem Walk.ne_nil {ε β : Type} {call : String → Except ε (Page β)} {token : String}
    {ps : List (Page β)} (h : Walk call token ps) : ps ≠ [] := by
  cases h <;> simp

namespace Listing

section MapM

variable {ε α β : Type} {f : α → Except ε β}

theorem bind_eq_ok_iff {γ : Type} {x : Except ε α} {g : α → Except ε γ} {c : γ} :
    x >>= g = .ok c ↔ ∃ a, x = .ok a ∧ g a = .ok c := by
  cases x <;> simp [bind, Except.bind]

theorem exists_mapM_ok_iff : ∀ {l : List α},
    (∃ xs, l.mapM f = .ok xs) ↔ ∀ a ∈ l, ∃ b, f a = .ok b
  | [] => iff_of_true ⟨[], rfl⟩ (by simp)
  | a :: l => by
    rw [List.forall_mem_cons, ← exists_mapM_ok_iff]
    constructor
    · rintro ⟨xs, hxs⟩
      rw [List.mapM_cons, bind_eq_ok_iff] at hxs
      obtain ⟨b, hb, hrest⟩ := hxs
      rw [bind_eq_ok_iff] at hrest
      obtain ⟨ys, hys, -⟩ := hrest
      exact ⟨⟨b, hb⟩, ⟨ys, hys⟩⟩
    · rintro ⟨⟨b, hb⟩, ⟨ys, hys⟩⟩
      exact ⟨b :: ys, by simp [List.mapM_cons, hb, hys, bind, Except.bind, pure, Except.pure]⟩

theorem mapM_eq_ok_iff : ∀ {l : List α} {xs : List β},
    l.mapM f = .ok xs ↔ List.Forall₂ (fun a b => f a = .ok b) l xs
  | [], xs => by
    rw [List.forall₂_nil_left_iff]
    simp only [List.mapM_nil]
    exact ⟨fun h => (Except.ok.inj h).symm, fun h => h ▸ rfl⟩
  | a :: l, xs => by
    rw [List.forall₂_cons_left_iff, List.mapM_cons]
    cases hfa : f a with
    | error e =>
      simp only [bind, Except.bind, reduceCtorEq, false_and, exists_false]
    | ok b =>
      simp only [← mapM_eq_ok_iff]
      cases hl : l.mapM f with
      | error e => simp [bind, Except.bind]
      | ok ys =>
        simp only [bind, Except.bind, pure, Except.pure, Except.ok.injEq]
        constructor
        · rintro rfl
          exact ⟨b, ys, rfl, rfl, rfl⟩
        · rintro ⟨b', u', rfl, rfl, rfl⟩
          rfl

theorem Forall₂.getLast {R : α → β → Prop} : ∀ {l : List α} {xs : List β} (hl : l ≠ [])
    (hxs : xs ≠ []), List.Forall₂ R l xs → R (l.getLast hl) (xs.getLast hxs)
  | [a], [b], _, _, .cons h _ => h
  | a :: a' :: l, b :: b' :: xs, _, _, .cons _ h => by
    rw [List.getLast_cons (List.cons_ne_nil _ _), List.getLast_cons (List.cons_ne_nil _ _)]
    exact Forall₂.getLast _ _ h
  | [_], _ :: _ :: _, _, _, .cons _ h => by cases h
  | _ :: _ :: _, [_], _, _, .cons _ h => by cases h

end MapM

theorem getLast_take_drop_eq_getLast_iff {α : Type} {S : List α} (hS : S.Nodup) {j L : Nat}
    (h : (S.drop j).take L ≠ []) :
    ((S.drop j).take L).getLast h = S.getLast (fun hn => by simp [hn] at h) ↔
      S.length ≤ j + L := by
  have hd : S.drop j ≠ [] := fun hn => by simp [hn] at h
  constructor
  · intro heq
    by_contra hlt
    -- the page's last row and the list's last row sit in disjoint parts of `S.drop j`
    have hsplit := List.take_append_drop L (S.drop j)
    have hrest : (S.drop j).drop L ≠ [] := by simp; omega
    have hnd : ((S.drop j).take L ++ (S.drop j).drop L).Nodup := by
      rw [hsplit]; exact hS.sublist (List.drop_sublist _ _)
    have hlast : S.getLast (fun hn => by simp [hn] at h) = ((S.drop j).drop L).getLast hrest := by
      rw [List.getLast_drop, List.getLast_drop]
    exact List.disjoint_of_nodup_append hnd (List.getLast_mem h)
      (heq ▸ hlast ▸ List.getLast_mem hrest)
  · intro hle
    have htake : (S.drop j).take L = S.drop j := List.take_of_length_le (by simp; omega)
    simp only [htake, List.getLast_drop]

section Count

theorem pageCount_of_le {m L : Nat} (hL : 0 < L) (h : m ≤ L) : max 1 ((m + L - 1) / L) = 1 := by
  have : (m + L - 1) / L < 2 := (Nat.div_lt_iff_lt_mul hL).2 (by omega)
  omega

theorem pageCount_of_lt {m L : Nat} (hL : 0 < L) (h : L < m) :
    max 1 ((m + L - 1) / L) = max 1 ((m - L + L - 1) / L) + 1 := by
  have hsplit : m + L - 1 = (m - L + L - 1) + L := by omega
  have hpos : 0 < (m - L + L - 1) / L := Nat.div_pos (by omega) hL
  rw [hsplit, Nat.add_div_right _ hL]
  omega

end Count


section Walk

variable {α β : Type} {rows : List α} {pos : α → Position} {read : α → Except StoreError β}
  {resume : β → PageToken}

/-- What a scope needs for its listing to be walked: its uids are distinct, and a row that
reads back names its own position by a token that reads back. -/
structure Resumable (rows : List α) (pos : α → Position) (read : α → Except StoreError β)
    (resume : β → PageToken) : Prop where
  uids_nodup : (rows.map fun r => (pos r).uid).Nodup
  resume_read : ∀ r ∈ rows, ∀ b, read r = .ok b →
    PageToken.decode (resume b).encode = .ok (resume b) ∧ Position.ofToken (resume b) = pos r

theorem Resumable.keys_nodup (hs : Resumable rows pos read resume) :
    (rows.map (keyOf pos)).Nodup := by
  have h : (rows.map (keyOf pos)).map (fun k => (ofLex k).2) = rows.map fun r => (pos r).uid := by
    simp [Function.comp_def, keyOf, Position.key]
  exact List.Nodup.of_map _ (h ▸ hs.uids_nodup)

variable (rows pos read resume) in
/-- A token resumes the listing after its first `j` rows: the empty token at the start, or the
token of the `j`-th row as it reads back. -/
def Resumes (token : String) (j : Nat) : Prop :=
  (j = 0 ∧ token = "") ∨
    ∃ r b, ((newestFirst pos rows).take j).getLast? = some r ∧ read r = .ok b ∧
      token = (resume b).encode

/-- The rows after the cursor of a token that resumes after `j` rows are those listed after
the first `j`. -/
theorem newestFirst_after (hs : Resumable rows pos read resume) {token : String} {j : Nat}
    (hj : Resumes rows pos read resume token j) :
    ∃ cursor, Listing.cursor token = .ok cursor ∧
      newestFirst pos (cursor.elim rows fun t => rows.filter fun r => (pos r).lt (Position.ofToken t)) =
        (newestFirst pos rows).drop j := by
  rcases hj with ⟨rfl, rfl⟩ | ⟨r, b, hr, hb, rfl⟩
  · exact ⟨none, rfl, rfl⟩
  · have hrow : r ∈ rows :=
      (newestFirst_perm pos rows).subset (List.mem_of_mem_take (List.mem_of_getLast? hr))
    obtain ⟨hdec, hpos⟩ := hs.resume_read r hrow b hb
    refine ⟨some (resume b), ?_, ?_⟩
    · simp [Listing.cursor, PageToken.encode_ne_empty, hdec]
    · simp only [Option.elim, hpos]
      rw [newestFirst_filter hs.keys_nodup]
      exact filter_lt_getLast?_take (newestFirst_strict hs.keys_nodup) hr

theorem Resumable.newestFirst_nodup (hs : Resumable rows pos read resume) :
    (newestFirst pos rows).Nodup :=
  ((newestFirst_perm pos rows).nodup_iff).2 (List.Nodup.of_map _ hs.keys_nodup)

theorem Resumable.uid_inj (hs : Resumable rows pos read resume) {a b : α}
    (ha : a ∈ newestFirst pos rows) (hb : b ∈ newestFirst pos rows)
    (h : (pos a).uid = (pos b).uid) : a = b :=
  List.inj_on_of_nodup_map hs.uids_nodup ((newestFirst_perm pos rows).subset ha)
    ((newestFirst_perm pos rows).subset hb) h

variable (resume) in
/-- The token a page carries: that of its last row, unless the page reaches the end. -/
def nextToken (j L N : Nat) (items : List β) : String :=
  if j + L < N then (items.getLast?.map fun b => (resume b).encode).getD "" else ""

theorem clampPageSize_pos (n : Nat) : 0 < clampPageSize n := by
  unfold clampPageSize defaultPageSize maxPageSize
  split <;> (try split) <;> omega

/-- The token of a page that read the rows after the first `j`: the listing's own rule (a
full page whose last row is not the oldest) is `nextToken`. -/
theorem next_eq (hs : Resumable rows pos read resume) {j L : Nat} (hL : 0 < L) {items : List β}
    (hm : (((newestFirst pos rows).drop j).take L).mapM read = .ok items) :
    (match items.getLast?, oldest? pos rows with
      | some last, some o =>
        if items.length = L ∧ (pos o).uid ≠ (resume last).uid.text then (resume last).encode
        else ""
      | _, _ => "") = nextToken resume j L rows.length items := by
  have hF := mapM_eq_ok_iff.1 hm
  have hN : (newestFirst pos rows).length = rows.length := (newestFirst_perm pos rows).length_eq
  rw [oldest?_eq_getLast? hs.keys_nodup]
  by_cases hT : ((newestFirst pos rows).drop j).take L = []
  · -- an empty page is the last
    rw [hT, List.forall₂_nil_left_iff] at hF
    subst hF
    have : ¬ j + L < rows.length := by
      simp only [List.take_eq_nil_iff, List.drop_eq_nil_iff] at hT
      omega
    simp [nextToken, this]
  · have hitems : items ≠ [] := fun h => hT (List.forall₂_nil_right_iff.1 (h ▸ hF))
    have hS : newestFirst pos rows ≠ [] := fun h => by simp [h] at hT
    have hrb := Forall₂.getLast hT hitems hF
    have hmem : (((newestFirst pos rows).drop j).take L).getLast hT ∈ newestFirst pos rows :=
      List.mem_of_mem_drop (List.mem_of_mem_take (List.getLast_mem hT))
    have huid : (resume (items.getLast hitems)).uid.text =
        (pos ((((newestFirst pos rows).drop j).take L).getLast hT)).uid :=
      congrArg Position.uid (hs.resume_read _ ((newestFirst_perm pos rows).subset hmem) _ hrb).2
    have hlen : items.length = min L (rows.length - j) := by
      rw [← hF.length_eq, List.length_take, List.length_drop, hN]
    have hend := getLast_take_drop_eq_getLast_iff hs.newestFirst_nodup hT
    rw [List.getLast?_eq_some_getLast hitems, List.getLast?_eq_some_getLast hS]
    simp only [nextToken, huid, List.getLast?_eq_some_getLast hitems, Option.map_some,
      Option.getD_some]
    by_cases hlt : j + L < rows.length
    · have hne : (pos ((newestFirst pos rows).getLast hS)).uid ≠
          (pos ((((newestFirst pos rows).drop j).take L).getLast hT)).uid := fun h => by
        have := hs.uid_inj (List.getLast_mem hS) hmem h
        rw [← this, hN] at hend
        exact absurd (hend.1 rfl) (by omega)
      rw [if_pos ⟨by omega, hne⟩, if_pos hlt]
    · have heq := hend.2 (by omega)
      rw [if_neg (by rw [heq]; simp), if_neg hlt]

/-- A call whose cursor leaves the rows listed after the first `j` reads the next of them and
carries the token of its last one, unless it reaches the end. -/
theorem listPage_eq_of_cursor (hs : Resumable rows pos read resume) {token : String} {j : Nat}
    {cursor : Option PageToken} (n : Nat) (hc : Listing.cursor token = .ok cursor)
    (hafter : newestFirst pos (cursor.elim rows fun t =>
      rows.filter fun r => (pos r).lt (Position.ofToken t)) = (newestFirst pos rows).drop j) :
    listPage rows pos read resume n token =
      ((((newestFirst pos rows).drop j).take (clampPageSize n)).mapM read >>= fun items =>
        .ok ⟨items, rows.length, nextToken resume j (clampPageSize n) rows.length items⟩) := by
  generalize hR : (newestFirst pos rows).drop j = R at hafter ⊢
  cases cursor <;> simp only [listPage, hc, bind, Except.bind, Option.elim] at hafter ⊢ <;>
    rw [hafter]
  all_goals
  cases hm : (R.take (clampPageSize n)).mapM read with
  | error e => rfl
  | ok items =>
    simp only [pure, Except.pure, Except.ok.injEq, Page.mk.injEq, true_and]
    subst hR
    exact next_eq hs (clampPageSize_pos n) hm

/-- **One call of a walk**: resumed after `j` rows, a page reads the next rows listed and
carries the token of its last one, unless it reaches the end. -/
theorem listPage_eq (hs : Resumable rows pos read resume) {token : String} {j : Nat} (n : Nat)
    (hj : Resumes rows pos read resume token j) :
    listPage rows pos read resume n token =
      ((((newestFirst pos rows).drop j).take (clampPageSize n)).mapM read >>= fun items =>
        .ok ⟨items, rows.length, nextToken resume j (clampPageSize n) rows.length items⟩) := by
  obtain ⟨cursor, hc, hafter⟩ := newestFirst_after hs hj
  exact listPage_eq_of_cursor hs n hc hafter

theorem nextToken_eq_empty_iff {j L : Nat} (hL : 0 < L) {items : List β}
    (hm : (((newestFirst pos rows).drop j).take L).mapM read = .ok items) :
    nextToken resume j L rows.length items = "" ↔ rows.length ≤ j + L := by
  have hN : (newestFirst pos rows).length = rows.length := (newestFirst_perm pos rows).length_eq
  have hlen : items.length = min L (rows.length - j) := by
    rw [← (mapM_eq_ok_iff.1 hm).length_eq, List.length_take, List.length_drop, hN]
  unfold nextToken
  by_cases hlt : j + L < rows.length
  · have hne : items ≠ [] := fun h => by simp [h] at hlen; omega
    simp only [if_pos hlt, List.getLast?_eq_some_getLast hne, Option.map_some, Option.getD_some]
    exact iff_of_false (PageToken.encode_ne_empty _) (by omega)
  · simp only [if_neg hlt]
    exact iff_of_true trivial (by omega)

/-- A page that carries a token ends with an item read from its last row, and the token is that
item's. -/
theorem nextToken_eq_last {j L : Nat} (hL : 0 < L) {items : List β}
    (hm : (((newestFirst pos rows).drop j).take L).mapM read = .ok items)
    (hne : nextToken resume j L rows.length items ≠ "") :
    ∃ b, items.getLast? = some b ∧ ∃ r ∈ ((newestFirst pos rows).drop j).take L,
      read r = .ok b ∧ nextToken resume j L rows.length items = (resume b).encode := by
  have hN : (newestFirst pos rows).length = rows.length := (newestFirst_perm pos rows).length_eq
  have hF := mapM_eq_ok_iff.1 hm
  have hlt : j + L < rows.length :=
    Nat.lt_of_not_le fun h => hne ((nextToken_eq_empty_iff hL hm).2 h)
  have hT : ((newestFirst pos rows).drop j).take L ≠ [] := by
    simp only [ne_eq, List.take_eq_nil_iff, List.drop_eq_nil_iff, hN, not_or]
    exact ⟨hL.ne', by omega⟩
  have hitems : items ≠ [] := fun h => hT (List.forall₂_nil_right_iff.1 (h ▸ hF))
  refine ⟨_, List.getLast?_eq_some_getLast hitems, _, List.getLast_mem hT,
    Forall₂.getLast hT hitems hF, ?_⟩
  simp [nextToken, hlt, List.getLast?_eq_some_getLast hitems]

theorem resumes_nextToken {j L : Nat} (hL : 0 < L) {items : List β}
    (hm : (((newestFirst pos rows).drop j).take L).mapM read = .ok items)
    (hlt : j + L < rows.length) :
    Resumes rows pos read resume (nextToken resume j L rows.length items) (j + L) := by
  have hN : (newestFirst pos rows).length = rows.length := (newestFirst_perm pos rows).length_eq
  have hF := mapM_eq_ok_iff.1 hm
  have hT : ((newestFirst pos rows).drop j).take L ≠ [] := fun h => by
    simp only [List.take_eq_nil_iff, List.drop_eq_nil_iff] at h
    omega
  have hne : items ≠ [] := fun h => hT (List.forall₂_nil_right_iff.1 (h ▸ hF))
  refine .inr ⟨_, _, ?_, Forall₂.getLast hT hne hF, ?_⟩
  · rw [List.take_add, List.getLast?_append_of_ne_nil _ hT, List.getLast?_eq_some_getLast hT]
  · simp only [nextToken, if_pos hlt, List.getLast?_eq_some_getLast hne, Option.map_some,
      Option.getD_some]

variable (rows pos read) in
/-- What the walk from the `j`-th row returns: as many pages as it takes to hold the rest, at
least one; each with the size of the whole scope; every page but the last full; and the rows'
read values in listing order. -/
def WalkFrom (n j : Nat) (ps : List (Page β)) : Prop :=
  ps.length = max 1 ((rows.length - j + clampPageSize n - 1) / clampPageSize n) ∧
    (∀ p ∈ ps, p.totalSize = rows.length) ∧
    (∀ p ∈ ps.dropLast, p.items.length = clampPageSize n) ∧
    ((newestFirst pos rows).drop j).mapM read = .ok (ps.flatMap Page.items)

/-- **A run of the walk**: every walk from a token that resumes after `j` rows returns the
rows after the first `j`, page by page. -/
theorem walkFrom_of_walk (hs : Resumable rows pos read resume) (n : Nat) {token : String}
    {ps : List (Page β)} (hw : Walk (listPage rows pos read resume n) token ps) :
    ∀ {j : Nat}, Resumes rows pos read resume token j → (j = 0 ∨ j < rows.length) →
      WalkFrom rows pos read n j ps := by
  have hL := clampPageSize_pos n
  have hN : (newestFirst pos rows).length = rows.length := (newestFirst_perm pos rows).length_eq
  induction hw with
  | last hcall hnext =>
    intro j hj hjN
    obtain ⟨items, hm, hp⟩ := bind_eq_ok_iff.1 ((listPage_eq hs n hj).symm.trans hcall)
    obtain rfl := Except.ok.inj hp
    have hend := (nextToken_eq_empty_iff hL hm).1 hnext
    have htake : ((newestFirst pos rows).drop j).take (clampPageSize n) =
        (newestFirst pos rows).drop j := List.take_of_length_le (by simp [hN]; omega)
    refine ⟨?_, by simp, by simp, by simpa [htake] using hm⟩
    rw [List.length_singleton, pageCount_of_le hL (by omega)]
  | next hcall hnext hw ih =>
    intro j hj hjN
    obtain ⟨items, hm, hp⟩ := bind_eq_ok_iff.1 ((listPage_eq hs n hj).symm.trans hcall)
    obtain rfl := Except.ok.inj hp
    have hlt : j + clampPageSize n < rows.length :=
      Nat.lt_of_not_le fun h => hnext ((nextToken_eq_empty_iff hL hm).2 h)
    obtain ⟨hcount, htotal, hfull, hrest⟩ := ih (resumes_nextToken hL hm hlt) (.inr hlt)
    have hlen : items.length = clampPageSize n := by
      have := (mapM_eq_ok_iff.1 hm).length_eq
      simp only [List.length_take, List.length_drop, hN] at this
      omega
    refine ⟨?_, ?_, ?_, ?_⟩
    · rw [List.length_cons, hcount, pageCount_of_lt hL (m := rows.length - j) (by omega),
        Nat.sub_sub]
    · intro p hp
      rcases List.mem_cons.1 hp with rfl | hp
      · rfl
      · exact htotal p hp
    · intro p hp
      rw [List.dropLast_cons_of_ne_nil hw.ne_nil] at hp
      rcases List.mem_cons.1 hp with rfl | hp
      · exact hlen
      · exact hfull p hp
    · -- this page's rows, then the rest
      rw [← List.take_append_drop (clampPageSize n) ((newestFirst pos rows).drop j),
        List.drop_drop, List.mapM_append, hm, hrest]
      rfl

theorem exists_walk (hs : Resumable rows pos read resume) (n : Nat)
    (hread : ∀ r ∈ rows, ∃ b, read r = .ok b) :
    ∀ (k : Nat) {j : Nat} {token : String}, rows.length - j = k →
      Resumes rows pos read resume token j → (j = 0 ∨ j < rows.length) →
        ∃ ps, Walk (listPage rows pos read resume n) token ps := by
  have hL := clampPageSize_pos n
  intro k
  induction k using Nat.strong_induction_on with
  | _ k ih =>
    intro j token hk hj hjN
    obtain ⟨items, hm⟩ := exists_mapM_ok_iff.2 fun r hr => hread r
      ((newestFirst_perm pos rows).subset (List.mem_of_mem_drop (List.mem_of_mem_take hr)))
    have hcall : listPage rows pos read resume n token =
        .ok ⟨items, rows.length, nextToken resume j (clampPageSize n) rows.length items⟩ := by
      rw [listPage_eq hs n hj, hm]
      rfl
    by_cases hlt : j + clampPageSize n < rows.length
    · obtain ⟨ps, hw⟩ := ih (rows.length - (j + clampPageSize n)) (by omega) rfl
        (resumes_nextToken hL hm hlt) (.inr hlt)
      exact ⟨_, .next hcall (fun h => by
        have := (nextToken_eq_empty_iff hL hm).1 h
        omega) hw⟩
    · exact ⟨_, .last hcall ((nextToken_eq_empty_iff hL hm).2 (by omega))⟩

/-- **Walking a listing**: a walk from the empty token ends exactly when every row of the scope
reads back. -/
theorem exists_walk_iff (hs : Resumable rows pos read resume) (n : Nat) :
    (∃ ps, Walk (listPage rows pos read resume n) "" ps) ↔ ∀ r ∈ rows, ∃ b, read r = .ok b := by
  constructor
  · rintro ⟨ps, hw⟩ r hr
    obtain ⟨-, -, -, hall⟩ := walkFrom_of_walk hs n hw (.inl ⟨rfl, rfl⟩) (.inl rfl)
    exact exists_mapM_ok_iff.1 ⟨_, hall⟩ r ((newestFirst_perm pos rows).symm.subset hr)
  · intro hread
    exact exists_walk hs n hread _ rfl (.inl ⟨rfl, rfl⟩) (.inl rfl)

end Walk

end Listing

end ConnectorPlane
