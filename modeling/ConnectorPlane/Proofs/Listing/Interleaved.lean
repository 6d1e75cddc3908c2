import ConnectorPlane.Proofs.Listing.Store
import Mathlib.Logic.Relation

/-! # Walking a listing while others write

A walk may be interleaved with writes by other callers: each call sees the scope as the writes
made before it left it (`Interleaved`). A token names a position, not an index, so a call
resumes below the position of the last row the page before returned, whatever was written
since. Over scopes that can be walked (`Listing.Resumable`) at every call:

* `Listing.pageAt_of_listPage`: one call returns the rows below its cursor, newest first, and
  a token exactly when it stops short of rows below its cursor, naming its last row
  (`Listing.PageAt`).
* `Listing.interleaved_sorted`: by induction on the walk, the items of all its pages are
  strictly decreasing in position, so none is returned twice.
* `Listing.interleaved_covers`: a position held by a row at every call of the walk is returned.
-/

namespace ConnectorPlane

/-- The calls of a walk through a listing while others write: the first call is made on the
store `s` with `token`, each further one with the token the page before returned, on the store
as the writes made in between (`step`, any number of them) left it. Each call is recorded with
the store it saw. -/
inductive Interleaved {σ ε β : Type} (step : σ → σ → Prop)
    (call : σ → String → Except ε (Page β)) : σ → String → List (σ × Page β) → Prop
  | last {s : σ} {token : String} {p : Page β} :
      call s token = .ok p → p.nextPageToken = "" → Interleaved step call s token [(s, p)]
  | next {s s' : σ} {token : String} {p : Page β} {cs : List (σ × Page β)} :
      call s token = .ok p → p.nextPageToken ≠ "" → Relation.ReflTransGen step s s' →
        Interleaved step call s' p.nextPageToken cs → Interleaved step call s token ((s, p) :: cs)

theorem Interleaved.forall_state {σ ε β : Type} {step : σ → σ → Prop}
    {call : σ → String → Except ε (Page β)} {P : σ → Prop} (hstep : ∀ s s', step s s' → P s → P s')
    {s : σ} {token : String} {cs : List (σ × Page β)} (hw : Interleaved step call s token cs)
    (hs : P s) : ∀ c ∈ cs, P c.1 := by
  -- the writes between two calls keep it, one by one
  have hkeep : ∀ {a b : σ}, Relation.ReflTransGen step a b → P a → P b := fun h ha => by
    induction h with
    | refl => exact ha
    | tail _ hlast ih => exact hstep _ _ hlast ih
  induction hw with
  | last => simpa using hs
  | next _ _ hsteps _ ih =>
    intro c hc
    rcases List.mem_cons.1 hc with rfl | hc
    · exact hs
    · exact ih (hkeep hsteps hs) c hc

namespace Listing

/-! ## Cursors -/

/-- Where a read item stands: the position its token names. -/
def itemKey {β : Type} (resume : β → PageToken) (b : β) : Lex (String × String) :=
  (Position.ofToken (resume b)).key

/-- Whether a key lies below a cursor; with no cursor, every key does. -/
def Below (cursor : Option PageToken) (k : Lex (String × String)) : Prop :=
  cursor.elim True fun t => k < (Position.ofToken t).key

theorem Below.of_lt {cursor : Option PageToken} {k k' : Lex (String × String)} (h : k < k')
    (hk' : Below cursor k') : Below cursor k := by
  cases cursor with
  | none => trivial
  | some t => exact lt_trans h hk'

theorem mem_after_iff {α : Type} {pos : α → Position} {rows : List α}
    {cursor : Option PageToken} {r : α} :
    r ∈ (cursor.elim rows fun t => rows.filter fun r => (pos r).lt (Position.ofToken t)) ↔
      r ∈ rows ∧ Below cursor (keyOf pos r) := by
  cases cursor with
  | none => simp [Below]
  | some t => simp [Below, Position.lt_iff_key_lt]

theorem filter_eq_drop {α : Type} {p : α → Bool} :
    ∀ {S : List α}, S.Pairwise (fun a b => p a = true → p b = true) → ∃ j, S.filter p = S.drop j
  | [], _ => ⟨0, rfl⟩
  | a :: S, h => by
    rw [List.pairwise_cons] at h
    by_cases ha : p a = true
    · refine ⟨0, List.filter_eq_self.2 fun b hb => ?_⟩
      rcases List.mem_cons.1 hb with rfl | hb
      · exact ha
      · exact h.1 b hb ha
    · obtain ⟨j, hj⟩ := filter_eq_drop h.2
      exact ⟨j + 1, by simp [ha, hj]⟩

theorem newestFirst_after_eq_drop {α : Type} {pos : α → Position} {rows : List α}
    (h : (rows.map (keyOf pos)).Nodup) (cursor : Option PageToken) :
    ∃ j, newestFirst pos (cursor.elim rows fun t =>
      rows.filter fun r => (pos r).lt (Position.ofToken t)) = (newestFirst pos rows).drop j := by
  cases cursor with
  | none => exact ⟨0, rfl⟩
  | some t =>
    simp only [Option.elim]
    rw [newestFirst_filter h]
    refine filter_eq_drop ((newestFirst_strict h).imp fun hab ha => ?_)
    rw [Position.lt_iff_key_lt] at ha ⊢
    exact lt_trans hab ha

/-! ## One call -/

section Call

variable {α β : Type} {rows : List α} {pos : α → Position} {read : α → Except StoreError β}
  {resume : β → PageToken}

variable (rows pos read resume) in
/-- What a call resumed at a cursor returns: rows read from the scope, strictly decreasing and
below the cursor; every row below the cursor either returned, or below the page's last item and
then a token is given; and a token names the page's last item as a cursor. -/
structure PageAt (cursor : Option PageToken) (p : Page β) : Prop where
  sorted : p.items.Pairwise fun a b => itemKey resume b < itemKey resume a
  below : ∀ b ∈ p.items, Below cursor (itemKey resume b)
  from_rows : ∀ b ∈ p.items, ∃ r ∈ rows, read r = .ok b
  covers : ∀ r ∈ rows, Below cursor (keyOf pos r) →
    (∃ b ∈ p.items, itemKey resume b = keyOf pos r) ∨
      (p.nextPageToken ≠ "" ∧ ∃ b, p.items.getLast? = some b ∧ keyOf pos r < itemKey resume b)
  next : p.nextPageToken ≠ "" → ∃ b, p.items.getLast? = some b ∧
    Listing.cursor p.nextPageToken = .ok (some (resume b))

/-- **One call at a cursor**: the page is `PageAt` that cursor. -/
theorem pageAt_of_listPage (hs : Resumable rows pos read resume) (n : Nat) {token : String}
    {cursor : Option PageToken} (hc : Listing.cursor token = .ok cursor) {p : Page β}
    (hp : listPage rows pos read resume n token = .ok p) :
    PageAt rows pos read resume cursor p := by
  obtain ⟨j, hafter⟩ := newestFirst_after_eq_drop hs.keys_nodup cursor
  rw [listPage_eq_of_cursor hs n hc hafter] at hp
  obtain ⟨items, hm, hp⟩ := bind_eq_ok_iff.1 hp
  cases Except.ok.inj hp
  set L := clampPageSize n
  set R := (newestFirst pos rows).drop j
  have hN : (newestFirst pos rows).length = rows.length := (newestFirst_perm pos rows).length_eq
  have hR : ∀ r ∈ R, r ∈ rows ∧ Below cursor (keyOf pos r) := fun r hr =>
    mem_after_iff.1 ((newestFirst_perm pos _).subset (hafter ▸ hr))
  have hRs : R.Pairwise fun a b => keyOf pos b < keyOf pos a :=
    (newestFirst_strict hs.keys_nodup).sublist (List.drop_sublist _ _)
  have hkey : ∀ r ∈ R, ∀ b, read r = .ok b → itemKey resume b = keyOf pos r := fun r hr b hb =>
    congrArg Position.key (hs.resume_read r (hR r hr).1 b hb).2
  have hF := (List.forall₂_and_left _ _).2
    ⟨fun r hr => List.mem_of_mem_take hr, mapM_eq_ok_iff.1 hm⟩
  refine ⟨?_, ?_, ?_, ?_, ?_⟩
  · exact Forall₂.pairwise (fun a b c d hac hbd hab => by
      rw [hkey a hac.1 c hac.2, hkey b hbd.1 d hbd.2]
      exact hab) hF (hRs.sublist (List.take_sublist _ _))
  · intro b hb
    obtain ⟨r, -, hr, hrb⟩ := Forall₂.exists_of_mem_right hF hb
    rw [hkey r hr b hrb]
    exact (hR r hr).2
  · intro b hb
    obtain ⟨r, -, hr, hrb⟩ := Forall₂.exists_of_mem_right hF hb
    exact ⟨r, (hR r hr).1, hrb⟩
  · intro r hr hb
    have hrR : r ∈ R := hafter ▸ (newestFirst_perm pos _).symm.subset (mem_after_iff.2 ⟨hr, hb⟩)
    rw [← List.take_append_drop L R, List.mem_append] at hrR
    rcases hrR with hin | hout
    · -- on the page
      obtain ⟨b, hb, hrR, hrb⟩ := Forall₂.exists_of_mem_right hF.flip hin
      exact .inl ⟨b, hb, hkey r hrR b hrb⟩
    · -- past the page: a token is given, and every item is above the row
      have hlt : j + L < rows.length := by
        have := List.length_pos_of_mem hout
        simp only [R, List.length_drop, hN] at this
        omega
      have htok : nextToken resume j L rows.length items ≠ "" := fun h => by
        have := (nextToken_eq_empty_iff (clampPageSize_pos n) hm).1 h
        omega
      obtain ⟨b, hb, r', hr', hr'b, -⟩ := nextToken_eq_last (clampPageSize_pos n) hm htok
      refine .inr ⟨htok, b, hb, ?_⟩
      rw [hkey r' (List.mem_of_mem_take hr') b hr'b]
      exact hRs.rel_of_mem_take_of_mem_drop hr' hout
  · intro hne
    obtain ⟨b, hb, r, hr, hrb, htok⟩ := nextToken_eq_last (clampPageSize_pos n) hm hne
    have hdec := (hs.resume_read r (hR r (List.mem_of_mem_take hr)).1 b hrb).1
    refine ⟨b, hb, ?_⟩
    rw [htok]
    simp [Listing.cursor, PageToken.encode_ne_empty, hdec]

end Call

/-! ## A run -/

section Run

variable {σ α β : Type} {step : σ → σ → Prop} {scope : σ → List α} {pos : α → Position}
  {read : α → Except StoreError β} {resume : β → PageToken} {n : Nat}

/-- **The order of an interleaved walk**: the items of all its pages are strictly decreasing in
position and below the cursor the walk started at, and each was read from the scope of a call. -/
theorem interleaved_sorted {s : σ} {token : String} {cs : List (σ × Page β)}
    (hw : Interleaved step (fun s token => listPage (scope s) pos read resume n token) s token cs)
    (hs : ∀ c ∈ cs, Resumable (scope c.1) pos read resume) {cursor : Option PageToken}
    (hc : Listing.cursor token = .ok cursor) :
    (cs.flatMap (·.2.items)).Pairwise (fun a b => itemKey resume b < itemKey resume a) ∧
      ∀ b ∈ cs.flatMap (·.2.items),
        Below cursor (itemKey resume b) ∧ ∃ c ∈ cs, ∃ r ∈ scope c.1, read r = .ok b := by
  induction hw generalizing cursor with
  | last hcall hnext =>
    have hp := pageAt_of_listPage (hs _ List.mem_cons_self) n hc hcall
    simp only [List.flatMap_cons, List.flatMap_nil, List.append_nil]
    exact ⟨hp.sorted, fun b hb => ⟨hp.below b hb, _, List.mem_cons_self, hp.from_rows b hb⟩⟩
  | next hcall hnext hsteps hw ih =>
    have hp := pageAt_of_listPage (hs _ List.mem_cons_self) n hc hcall
    obtain ⟨last, hlast, hc'⟩ := hp.next hnext
    obtain ⟨hsorted, hrest⟩ := ih (fun c hc => hs c (List.mem_cons_of_mem _ hc)) hc'
    -- every later item is below this page's last item, the least of this page
    have hle := key_getLast?_le (hp.sorted.imp le_of_lt) hlast
    have hlast_below := hp.below last (List.mem_of_getLast? hlast)
    simp only [List.flatMap_cons]
    refine ⟨List.pairwise_append.2 ⟨hp.sorted, hsorted, fun a ha b hb =>
      lt_of_lt_of_le (hrest b hb).1 (hle a ha)⟩, fun b hb => ?_⟩
    rcases List.mem_append.1 hb with hb | hb
    · exact ⟨hp.below b hb, _, List.mem_cons_self, hp.from_rows b hb⟩
    · obtain ⟨hbelow, c, hc, hr⟩ := hrest b hb
      exact ⟨Below.of_lt hbelow hlast_below, c, List.mem_cons_of_mem _ hc, hr⟩

/-- **Nothing kept is skipped**: a key that a row of the scope holds at every call of an
interleaved walk, below the cursor the walk started at, is the key of one of its items. -/
theorem interleaved_covers {s : σ} {token : String} {cs : List (σ × Page β)}
    (hw : Interleaved step (fun s token => listPage (scope s) pos read resume n token) s token cs)
    (hs : ∀ c ∈ cs, Resumable (scope c.1) pos read resume) {cursor : Option PageToken}
    (hc : Listing.cursor token = .ok cursor) {k : Lex (String × String)} (hk : Below cursor k)
    (hin : ∀ c ∈ cs, ∃ r ∈ scope c.1, keyOf pos r = k) :
    ∃ b ∈ cs.flatMap (·.2.items), itemKey resume b = k := by
  induction hw generalizing cursor with
  | last hcall hnext =>
    have hp := pageAt_of_listPage (hs _ List.mem_cons_self) n hc hcall
    obtain ⟨r, hr, rfl⟩ := hin _ List.mem_cons_self
    rcases hp.covers r hr hk with ⟨b, hb, hkey⟩ | ⟨hne, -⟩
    · exact ⟨b, by simpa using hb, hkey⟩
    · exact absurd hnext hne
  | next hcall hnext hsteps hw ih =>
    have hp := pageAt_of_listPage (hs _ List.mem_cons_self) n hc hcall
    obtain ⟨r, hr, rfl⟩ := hin _ List.mem_cons_self
    simp only [List.flatMap_cons, List.mem_append]
    rcases hp.covers r hr hk with ⟨b, hb, hkey⟩ | ⟨-, last, hlast, hlt⟩
    · exact ⟨b, .inl hb, hkey⟩
    · -- the row is past this page, so below the cursor the next call resumes at
      obtain ⟨last', hlast', hc'⟩ := hp.next hnext
      rw [hlast, Option.some.injEq] at hlast'
      subst hlast'
      obtain ⟨b, hb, hkey⟩ := ih (fun c hc => hs c (List.mem_cons_of_mem _ hc)) hc' hlt
        (fun c hc => hin c (List.mem_cons_of_mem _ hc))
      exact ⟨b, .inr hb, hkey⟩

end Run

end Listing

end ConnectorPlane
