import ConnectorPlane.Proofs.Listing.Interleaved
import Mathlib.Data.List.Sort

/-! # One call of a listing

A call of a listing with a page size `n` and a page token answers, by the listing's rules
(`Listing.SeeksPast`):

* it refuses the token exactly when the token is not empty and does not read back;
* otherwise, at the cursor the token names (none for the empty token), it reads the first
  `clampPageSize n` rows of the scope below the cursor, newest first by creation time and then
  uid, whether or not a row stands at the cursor (`Listing.seekPage`); it counts the whole scope;
  and it gives the token of its last item exactly when the page is full and some row of the scope
  stands below that item (`Listing.seekToken`).

The store compares positions as their stored texts. For instants of the years 0 to 9999 the
texts compare as the positions (`Stamped.key_lt_iff`), and every cursor a token names is one
(`PageToken.inRange_of_decode`). So the rules hold of every scope whose rows
are written from such instants (`Listing.listPage_seeksPast`), for both listings of the store
(`listings_seek_past_cursor`). A row of the year 10000 is written `+10000-…`, which sorts below
`2024-…`: past a cursor of 2024 it is listed below the rows it stands above, and a page that
ends the rows below the cursor still carries a token (`far_row_breaks_seek`).
-/

namespace ConnectorPlane

open Listing

namespace PageToken

/-- `p` stands below `q` in a listing: created earlier, or at the same time with a smaller
uid. -/
def Older (p q : PageToken) : Prop :=
  p.createTime.lt q.createTime = true ∨ p.createTime = q.createTime ∧ p.uid.value < q.uid.value

instance (p q : PageToken) : Decidable (p.Older q) :=
  inferInstanceAs (Decidable (_ ∨ _))

end PageToken

/-- A row's stored creation time is the text of the instant `t`, of the years 0 to 9999. -/
def Stamped (createTime : String) (t : Instant) : Prop :=
  createTime = t.text ∧ t.InRange

/-! ## Reads refuse no token -/

theorem Stored.time_ne_invalidPageToken (s f : String) :
    Stored.time s ≠ .error (.invalidPageToken f) := by
  unfold Stored.time
  split <;> simp

theorem Stored.document_ne_invalidPageToken (s f : String) :
    Stored.document s ≠ .error (.invalidPageToken f) := by
  unfold Stored.document
  split <;> simp

theorem ConnectorRow.read_ne_invalidPageToken (r : ConnectorRow) (view : View) (f : String) :
    r.read view ≠ .error (.invalidPageToken f) := by
  have h1 := Stored.time_ne_invalidPageToken r.createTime f
  have h2 := Stored.time_ne_invalidPageToken r.updateTime f
  have h3 := Stored.document_ne_invalidPageToken r.configuration f
  unfold ConnectorRow.read
  generalize Stored.time r.createTime = t1 at h1 ⊢
  generalize Stored.time r.updateTime = t2 at h2 ⊢
  generalize Stored.document r.configuration = d at h3 ⊢
  cases t1 <;> cases t2 <;> cases d <;> split <;> simp_all [bind, Except.bind, pure, Except.pure]

theorem DefinitionRow.read_ne_invalidPageToken (r : DefinitionRow) (view : View) (f : String) :
    r.read view ≠ .error (.invalidPageToken f) := by
  have h1 := Stored.time_ne_invalidPageToken r.createTime f
  have h2 := Stored.time_ne_invalidPageToken r.updateTime f
  have h3 : r.spec.mapM Stored.document ≠ .error (.invalidPageToken f) := by
    cases r.spec with
    | none => simp [pure, Except.pure]
    | some s =>
      have h := Stored.document_ne_invalidPageToken s f
      simp only [Option.mapM_some]
      generalize Stored.document s = d at h ⊢
      cases d <;> simp_all [Functor.map, Except.map]
  unfold DefinitionRow.read
  generalize Stored.time r.createTime = t1 at h1 ⊢
  generalize Stored.time r.updateTime = t2 at h2 ⊢
  generalize r.spec.mapM Stored.document = d at h3 ⊢
  cases t1 <;> cases t2 <;> cases d <;> split <;> simp_all [bind, Except.bind, pure, Except.pure]

/-! ## Positions as the store compares them -/

theorem Stamped.keyed {s : String} {t : Instant} (h : Stamped s t) : Keyed s :=
  ⟨t, h.1⟩

section Keys

variable {α : Type} {createTime : α → String} {uid : α → Uuid} {rowTime : α → Instant}

theorem Stamped.key_lt_iff {a b : α} (ha : Stamped (createTime a) (rowTime a))
    (hb : Stamped (createTime b) (rowTime b)) :
    keyOf (fun r => ⟨createTime r, (uid r).text⟩) a <
        keyOf (fun r => ⟨createTime r, (uid r).text⟩) b ↔
      (⟨rowTime a, uid a⟩ : PageToken).Older ⟨rowTime b, uid b⟩ := by
  obtain ⟨hta, hra⟩ := ha
  obtain ⟨htb, hrb⟩ := hb
  simp only [keyOf, hta, htb]
  exact Position.text_key_lt_iff hrb hra

theorem Stamped.key_lt_cursor_iff {a : α} {c : PageToken}
    (ha : Stamped (createTime a) (rowTime a)) (hrc : c.createTime.InRange) :
    keyOf (fun r => ⟨createTime r, (uid r).text⟩) a < (Position.ofToken c).key ↔
      (⟨rowTime a, uid a⟩ : PageToken).Older c := by
  obtain ⟨hta, hra⟩ := ha
  simp only [keyOf, hta, Position.ofToken]
  exact Position.text_key_lt_iff hrc hra


end Keys

namespace Listing

/-! ## The rules of one call -/

section Spec

variable {α β : Type} (rows : List α) (pos : α → PageToken) (read : α → Except StoreError β)
  (resume : β → PageToken)

/-- The token a page of at most `L` items carries: its last item's, when the page is full and
some row of the scope stands below that item. -/
def seekToken (L : Nat) (items : List β) : String :=
  match items.getLast? with
  | some b =>
    if items.length = L ∧ ∃ r ∈ rows, (pos r).Older (resume b) then (resume b).encode else ""
  | none => ""

/-- The page of the first `L` of the rows `S`, read; `S` lists the rows below a cursor. -/
def seekPage (L : Nat) (S : List α) : Except StoreError (Page β) := do
  let items ← (S.take L).mapM read
  pure ⟨items, rows.length, seekToken rows pos resume L items⟩

/-- What one call `call` with the page size `n` and the token `token` answers, over the scope
`rows`, whose rows stand at `pos` and read as `read`, a read item standing at `resume`. -/
structure SeeksPast (n : Nat) (token : String) (call : Except StoreError (Page β)) : Prop where
  /-- The token is refused exactly when it is not empty and does not read back. -/
  refused : (∃ f, call = .error (.invalidPageToken f)) ↔
    token ≠ "" ∧ ∃ f, PageToken.decode token = .error f
  /-- At the cursor the token names, none for the empty token, the page holds the first rows
  below it, newest first. -/
  page : ∀ cursor : Option PageToken,
    (token = "" ∧ cursor = none ∨ token ≠ "" ∧ ∃ c, PageToken.decode token = .ok c ∧ cursor = some c) →
    ∀ S : List α,
    (∀ r, r ∈ S ↔ r ∈ rows ∧ ∀ c ∈ cursor, (pos r).Older c) →
    S.Pairwise (fun a b => (pos b).Older (pos a)) →
    call = seekPage rows pos read resume (clampPageSize n) S

end Spec

/-! ## Cursors -/

section Cursor

variable {token : String}

theorem decode_of_cursor {c : PageToken} (h : Listing.cursor token = .ok (some c)) :
    PageToken.decode token = .ok c := by
  unfold Listing.cursor at h
  split at h
  · cases h
  · split at h
    · cases h
      assumption
    · cases h

theorem cursor_eq_ok {cursor : Option PageToken}
    (h : token = "" ∧ cursor = none ∨
      token ≠ "" ∧ ∃ c, PageToken.decode token = .ok c ∧ cursor = some c) :
    Listing.cursor token = .ok cursor := by
  unfold Listing.cursor
  rcases h with ⟨rfl, rfl⟩ | ⟨hne, c, hd, rfl⟩
  · rfl
  · rw [if_neg (by simpa using hne), hd]

theorem cursor_eq_error {e : StoreError} (h : Listing.cursor token = .error e) :
    token ≠ "" ∧ ∃ f, PageToken.decode token = .error f := by
  unfold Listing.cursor at h
  split at h
  · cases h
  · rename_i he
    split at h
    · cases h
    · exact ⟨fun h => he (by simp [h]), _, by assumption⟩

theorem cursor_of_decode_error {f : TokenFault} (hne : token ≠ "")
    (hd : PageToken.decode token = .error f) :
    Listing.cursor token = .error (.invalidPageToken f.text) := by
  unfold Listing.cursor
  rw [if_neg (by simpa using hne), hd]

end Cursor

theorem mapM_eq_error {α β ε : Type} {f : α → Except ε β} {e : ε} :
    ∀ {l : List α}, l.mapM f = .error e → ∃ a ∈ l, f a = .error e
  | [], h => by cases h
  | a :: l, h => by
    rw [List.mapM_cons] at h
    cases ha : f a with
    | error e' =>
      rw [ha] at h
      cases h
      exact ⟨a, List.mem_cons_self, ha⟩
    | ok b =>
      rw [ha] at h
      cases hl : l.mapM f with
      | error e' =>
        rw [hl] at h
        cases h
        obtain ⟨a', ha', hfa'⟩ := mapM_eq_error hl
        exact ⟨a', List.mem_cons_of_mem _ ha', hfa'⟩
      | ok bs =>
        rw [hl] at h
        cases h

theorem listPage_of_cursor_error {α β : Type} {rows : List α} {pos : α → Position}
    {read : α → Except StoreError β} {resume : β → PageToken} {n : Nat} {token : String}
    {e : StoreError} (h : Listing.cursor token = .error e) :
    listPage rows pos read resume n token = .error e := by
  rw [listPage, h]
  rfl

theorem listPage_error_of_cursor {α β : Type} {rows : List α} {pos : α → Position}
    {read : α → Except StoreError β} {resume : β → PageToken} (hs : Resumable rows pos read resume)
    {n : Nat} {token : String} {cursor : Option PageToken} (hc : Listing.cursor token = .ok cursor)
    {e : StoreError} (h : listPage rows pos read resume n token = .error e) :
    ∃ r ∈ rows, read r = .error e := by
  obtain ⟨j, hj⟩ := newestFirst_after_eq_drop hs.keys_nodup cursor
  rw [listPage_eq_of_cursor hs n hc hj] at h
  cases hm : (((newestFirst pos rows).drop j).take (clampPageSize n)).mapM read with
  | ok items =>
    rw [hm] at h
    cases h
  | error e' =>
    rw [hm] at h
    cases h
    obtain ⟨r, hr, hre⟩ := mapM_eq_error hm
    exact ⟨r, (newestFirst_perm pos rows).subset (List.mem_of_mem_drop (List.mem_of_mem_take hr)),
      hre⟩

section Seek

variable {α β : Type} {rows : List α} {createTime : α → String} {uid : α → Uuid}
  {rowTime : α → Instant} {read : α → Except StoreError β} {time : β → Instant}
  {itemUid : β → Uuid}
  (hread : ∀ r b, read r = .ok b → Stored.time (createTime r) = .ok (time b) ∧ itemUid b = uid r)
  (hst : ∀ r ∈ rows, Stamped (createTime r) (rowTime r))
include hread hst

theorem resume_eq_of_read {r : α} {b : β} (hr : r ∈ rows) (hb : read r = .ok b) :
    (⟨time b, itemUid b⟩ : PageToken) = ⟨rowTime r, uid r⟩ := by
  obtain ⟨hta, -⟩ := hst r hr
  obtain ⟨htime, huid⟩ := hread r b hb
  rw [hta] at htime
  obtain ⟨-, ht⟩ := Stored.time_text_eq_ok_iff.1 htime
  rw [ht, huid]

theorem resumable_of_stamped (hu : (rows.map uid).Nodup) :
    Resumable rows (fun r => ⟨createTime r, (uid r).text⟩) read (fun b => ⟨time b, itemUid b⟩) :=
  resumable_of_keyed hread (fun r hr => Stamped.keyed (hst r hr)) hu

theorem not_older_getLast
    (hS : newestFirst (fun r => ⟨createTime r, (uid r).text⟩) rows ≠ []) {b : β}
    (hb : read ((newestFirst (fun r => ⟨createTime r, (uid r).text⟩) rows).getLast hS) = .ok b) :
    ∀ r ∈ rows, ¬ (⟨rowTime r, uid r⟩ : PageToken).Older ⟨time b, itemUid b⟩ := by
  set P : α → Position := fun r => ⟨createTime r, (uid r).text⟩
  have hperm := newestFirst_perm P rows
  have hmem := hperm.subset (List.getLast_mem hS)
  intro r hr hold
  -- the last row has the least key, and keys order stamped rows as their positions
  have hle := key_getLast?_le (newestFirst_sorted P rows) (List.getLast?_eq_some_getLast hS) r
    (hperm.symm.subset hr)
  rw [resume_eq_of_read hread hst hmem hb] at hold
  exact absurd ((Stamped.key_lt_iff (hst r hr) (hst _ hmem)).2 hold) (not_lt.2 hle)

theorem nextToken_eq_seekToken (hu : (rows.map uid).Nodup) {j L : Nat} (hL : 0 < L)
    {items : List β}
    (hm : (((newestFirst (fun r => ⟨createTime r, (uid r).text⟩) rows).drop j).take L).mapM read =
      .ok items) :
    nextToken (fun b => ⟨time b, itemUid b⟩) j L rows.length items =
      seekToken rows (fun r => ⟨rowTime r, uid r⟩) (fun b => ⟨time b, itemUid b⟩) L items := by
  set P : α → Position := fun r => ⟨createTime r, (uid r).text⟩
  have hs := resumable_of_stamped hread hst hu
  have hperm := newestFirst_perm P rows
  have hN := hperm.length_eq
  have hF := mapM_eq_ok_iff.1 hm
  have hlen : items.length = min L (rows.length - j) := by
    rw [← hF.length_eq, List.length_take, List.length_drop, hN]
  have hrow : ∀ x ∈ (newestFirst P rows).drop j, x ∈ rows := fun x hx =>
    hperm.subset (List.mem_of_mem_drop hx)
  by_cases hlt : j + L < rows.length
  · -- a row is listed after the page, and it stands below the page's last item
    have hne : nextToken (fun b => (⟨time b, itemUid b⟩ : PageToken)) j L rows.length items ≠ "" := by
      rw [Ne, nextToken_eq_empty_iff hL hm]
      omega
    obtain ⟨b, hb, r, hr, hrb, htok⟩ := nextToken_eq_last hL hm hne
    have hrest : ((newestFirst P rows).drop j).drop L ≠ [] := by
      simp only [ne_eq, List.drop_eq_nil_iff, List.length_drop, hN]
      omega
    obtain ⟨r', hr'⟩ := List.exists_mem_of_ne_nil _ hrest
    have hkey : keyOf P r' < keyOf P r :=
      (newestFirst_strict hs.keys_nodup).drop.rel_of_mem_take_of_mem_drop hr hr'
    have hrr := hrow r (List.mem_of_mem_take hr)
    have hrr' := hrow r' (List.mem_of_mem_drop hr')
    rw [htok, seekToken, hb]
    dsimp only
    rw [resume_eq_of_read hread hst hrr hrb,
      if_pos ⟨by omega, r', hrr', (Stamped.key_lt_iff (hst r' hrr') (hst r hrr)).1 hkey⟩]
  · -- the page reaches the last row listed, and no row stands below it
    rw [nextToken, if_neg hlt, seekToken]
    split
    · rename_i b hb
      rw [if_neg]
      rintro ⟨hfull, r', hr', hold⟩
      have hitems : items ≠ [] := fun h => by simp [h] at hb
      obtain rfl : b = items.getLast hitems := by
        rw [List.getLast?_eq_some_getLast hitems] at hb
        exact (Option.some.inj hb).symm
      have hT : ((newestFirst P rows).drop j).take L = (newestFirst P rows).drop j :=
        List.take_of_length_le (by rw [List.length_drop, hN]; omega)
      have hT' : ((newestFirst P rows).drop j).take L ≠ [] := fun h =>
        hitems (List.forall₂_nil_left_iff.1 (h ▸ hF))
      have hlast := Forall₂.getLast hT' hitems hF
      simp only [hT, List.getLast_drop] at hlast
      exact not_older_getLast hread hst _ hlast r' hr' hold
    · rfl

/-- The rows below a cursor that reads back, listed, are every list of them sorted newest
first. -/
theorem drop_eq_of_below (hu : (rows.map uid).Nodup) {token : String} {cursor : Option PageToken}
    (hc : Listing.cursor token = .ok cursor) {j : Nat}
    (hj : newestFirst (fun r => ⟨createTime r, (uid r).text⟩) (cursor.elim rows fun t =>
      rows.filter fun r => (⟨createTime r, (uid r).text⟩ : Position).lt (Position.ofToken t)) =
        (newestFirst (fun r => ⟨createTime r, (uid r).text⟩) rows).drop j)
    {S : List α} (hS : ∀ r, r ∈ S ↔ r ∈ rows ∧ ∀ c ∈ cursor, (⟨rowTime r, uid r⟩ : PageToken).Older c)
    (hsort : S.Pairwise fun a b => (⟨rowTime b, uid b⟩ : PageToken).Older ⟨rowTime a, uid a⟩) :
    (newestFirst (fun r => ⟨createTime r, (uid r).text⟩) rows).drop j = S := by
  set P : α → Position := fun r => ⟨createTime r, (uid r).text⟩
  have hs := resumable_of_stamped hread hst hu
  -- both lists are strictly decreasing in the listing's key, so their members decide them
  have : Std.Irrefl fun a b : α => keyOf P b < keyOf P a := ⟨fun a => lt_irrefl _⟩
  refine List.Pairwise.eq_of_mem_iff (newestFirst_strict hs.keys_nodup).drop ?_ fun r => ?_
  · refine hsort.imp_of_mem fun ha hb hab => ?_
    exact (Stamped.key_lt_iff (hst _ ((hS _).1 hb).1) (hst _ ((hS _).1 ha).1)).2 hab
  · rw [← hj, (newestFirst_perm P _).mem_iff, mem_after_iff, hS]
    refine and_congr_right fun hr => ?_
    cases cursor with
    | none => simp [Below]
    | some c =>
      have hrc := PageToken.inRange_of_decode (decode_of_cursor hc)
      simp only [Below, Option.elim, Option.mem_def, Option.some.injEq, forall_eq']
      exact Stamped.key_lt_cursor_iff (hst r hr) hrc

/-- **One call over a stamped scope** follows the listing's rules. -/
theorem listPage_seeksPast (hu : (rows.map uid).Nodup)
    (hno : ∀ r f, read r ≠ .error (.invalidPageToken f)) (n : Nat) (token : String) :
    SeeksPast rows (fun r => ⟨rowTime r, uid r⟩) read (fun b => ⟨time b, itemUid b⟩) n token
      (listPage rows (fun r => ⟨createTime r, (uid r).text⟩) read (fun b => ⟨time b, itemUid b⟩)
        n token) := by
  set P : α → Position := fun r => ⟨createTime r, (uid r).text⟩
  have hs := resumable_of_stamped hread hst hu
  constructor
  · constructor
    · rintro ⟨f, hcall⟩
      cases hc : Listing.cursor token with
      | error e => exact cursor_eq_error hc
      | ok cursor =>
        -- past a cursor the call fails only as a read does, and no read refuses a token
        obtain ⟨r, -, hr⟩ := listPage_error_of_cursor hs hc hcall
        exact absurd hr (hno r f)
    · rintro ⟨hne, f, hd⟩
      exact ⟨f.text, listPage_of_cursor_error (cursor_of_decode_error hne hd)⟩
  · intro cursor hname S hS hsort
    have hc := cursor_eq_ok hname
    obtain ⟨j, hj⟩ := newestFirst_after_eq_drop hs.keys_nodup cursor
    rw [listPage_eq_of_cursor hs n hc hj, ← drop_eq_of_below hread hst hu hc hj hS hsort, seekPage]
    cases hm : (((newestFirst P rows).drop j).take (clampPageSize n)).mapM read with
    | error e => rfl
    | ok items =>
      simp only [bind, Except.bind, pure, Except.pure]
      rw [nextToken_eq_seekToken hread hst hu (clampPageSize_pos n) hm]

end Seek

end Listing

/-- **One call of a listing of connectors or definitions seeks past its cursor**: over a scope
of distinct uids whose creation times are written from valid instants of the years 0 to 9999,
a call refuses exactly the tokens that are not empty and do not read back; otherwise it reads
the first `clampPageSize n` rows below the cursor, newest first, counts the whole scope, and
carries its last item's token exactly when the page is full and a row of the scope stands below
that item. -/
theorem listings_seek_past_cursor (t : Tables) (n : Nat) (token : String) (view : View) :
    (∀ (owner : String) (type : ConnectorType) (rowTime : ConnectorRow → Instant),
      (∀ r ∈ t.connectorScope owner type, Stamped r.createTime (rowTime r)) →
      ((t.connectorScope owner type).map (·.uid)).Nodup →
      SeeksPast (t.connectorScope owner type) (fun r => ⟨rowTime r, r.uid⟩) (·.read view)
        (fun c => ⟨c.createTime, c.uid⟩) n token (t.listConnectors owner type n token view)) ∧
    (∀ (type : ConnectorType) (rowTime : DefinitionRow → Instant),
      (∀ r ∈ t.definitionScope type, Stamped r.createTime (rowTime r)) →
      ((t.definitionScope type).map (·.uid)).Nodup →
      SeeksPast (t.definitionScope type) (fun r => ⟨rowTime r, r.uid⟩) (·.read view)
        (fun d => ⟨d.createTime, d.uid⟩) n token (t.listDefinitions type n token view)) := by
  refine ⟨fun owner type rowTime hst hu => ?_, fun type rowTime hst hu => ?_⟩
  · exact listPage_seeksPast (fun r c h => ConnectorRow.read_eq_ok h) hst hu
      (fun r f => ConnectorRow.read_ne_invalidPageToken r view f) n token
  · exact listPage_seeksPast (fun r d h => DefinitionRow.read_eq_ok h) hst hu
      (fun r f => DefinitionRow.read_ne_invalidPageToken r view f) n token

/-- Two connectors of the owner `users/x` created in the same second. -/
def sameSecondPair : Tables where
  connectors := [sampleRow "a" 1 (Instant.ofParts 19723 0 0),
      sampleRow "b" 2 (Instant.ofParts 19723 0 0)]

theorem sameSecondPair_scope : sameSecondPair.connectorScope "users/x" .destination =
    [sampleRow "a" 1 (Instant.ofParts 19723 0 0),
        sampleRow "b" 2 (Instant.ofParts 19723 0 0)] := rfl

/-- The two connectors, listed one to a page from the start, follow the listing's rules. -/
theorem sameSecondPair_seeks_past_cursor :
    (∀ r ∈ sameSecondPair.connectorScope "users/x" .destination,
      Stamped r.createTime (Instant.ofParts 19723 0 0)) ∧
    ((sameSecondPair.connectorScope "users/x" .destination).map (·.uid)).Nodup ∧
    SeeksPast (sameSecondPair.connectorScope "users/x" .destination)
      (fun r => ⟨Instant.ofParts 19723 0 0, r.uid⟩)
      (·.read .basic) (fun c => ⟨c.createTime, c.uid⟩) 1 ""
      (sameSecondPair.listConnectors "users/x" .destination 1 "" .basic) := by
  have hst : ∀ r ∈ sameSecondPair.connectorScope "users/x" .destination,
      Stamped r.createTime (Instant.ofParts 19723 0 0) := by
    rw [sameSecondPair_scope]
    simp only [List.mem_cons, List.not_mem_nil, or_false, forall_eq_or_imp, forall_eq]
    exact ⟨⟨rfl, by decide⟩, ⟨rfl, by decide⟩⟩
  have hu : ((sameSecondPair.connectorScope "users/x" .destination).map (·.uid)).Nodup := by
    rw [sameSecondPair_scope]
    decide
  exact ⟨hst, hu, (listings_seek_past_cursor _ 1 "" .basic).1 "users/x" .destination
    (fun _ => Instant.ofParts 19723 0 0) hst hu⟩

/-- A connector of 2024 and one created at the first instant of the year 10000, which the
store writes `+10000-01-01T00:00:00.000000000Z`. -/
def farPair : Tables where
  connectors := [sampleRow "b" 2 (Instant.ofParts 19723 0 0),
      sampleRow "a" 1 (Instant.ofParts 2932897 0 0)]

/-- The cursor at 2024-06-01T00:00:00Z with the nil uid. -/
def juneCursor : PageToken := ⟨Instant.ofParts 19875 0 0, Uuid.nil⟩

theorem farPair_scope : farPair.connectorScope "users/x" .destination =
    [sampleRow "b" 2 (Instant.ofParts 19723 0 0),
        sampleRow "a" 1 (Instant.ofParts 2932897 0 0)] := rfl

/-- Past the June cursor, the call reads the row of 2024 and carries a token: by its text, the
row of the year 10000 stands below both. -/
theorem farPair_call_past_june :
    farPair.listConnectors "users/x" .destination 1 juneCursor.encode .basic =
      ([sampleRow "b" 2 (Instant.ofParts 19723 0 0)].mapM (·.read .basic) >>= fun items =>
        .ok ⟨items, 2, nextToken (fun c => ⟨c.createTime, c.uid⟩) 0 1 2 items⟩) := by
  have hk : ∀ r ∈ farPair.connectorScope "users/x" .destination, Keyed r.createTime := by
    rw [farPair_scope]
    simp only [List.mem_cons, List.not_mem_nil, or_false, forall_eq_or_imp, forall_eq]
    exact ⟨⟨_, rfl⟩, ⟨_, rfl⟩⟩
  have hu : ((farPair.connectorScope "users/x" .destination).map (·.uid)).Nodup := by
    rw [farPair_scope]
    decide
  have hs : Resumable (farPair.connectorScope "users/x" .destination) Tables.connectorPosition
      (·.read .basic) (fun c => ⟨c.createTime, c.uid⟩) :=
    resumable_of_keyed (fun r c h => ConnectorRow.read_eq_ok h) hk hu
  have hc : Listing.cursor juneCursor.encode = .ok (some juneCursor) := by
    rw [Listing.cursor, if_neg (by simpa using PageToken.encode_ne_empty _),
      PageToken.decode_encode juneCursor, if_pos (by decide)]
  have hsorted : newestFirst Tables.connectorPosition (farPair.connectorScope "users/x" .destination) =
      farPair.connectorScope "users/x" .destination := by
    rw [farPair_scope]
    exact newestFirst_eq_self (by decide)
  have hafter : newestFirst Tables.connectorPosition ((farPair.connectorScope "users/x" .destination).filter
      fun r => (Tables.connectorPosition r).lt (Position.ofToken juneCursor)) =
        (newestFirst Tables.connectorPosition (farPair.connectorScope "users/x" .destination)).drop 0 := by
    rw [List.drop_zero, List.filter_eq_self.2 (by rw [farPair_scope]; decide)]
  have hcall : farPair.listConnectors "users/x" .destination 1 juneCursor.encode .basic =
      listPage (farPair.connectorScope "users/x" .destination) Tables.connectorPosition
        (·.read .basic) (fun c => ⟨c.createTime, c.uid⟩) 1 juneCursor.encode := rfl
  rw [hcall, listPage_eq_of_cursor hs 1 hc hafter, List.drop_zero, hsorted, farPair_scope]
  rfl

/-- **The rules fail past the year 9999**: past the June cursor the row of the year 10000 stands
above the cursor and only the row of 2024 below it, so a call of one row should carry no token;
the store's call carries one, since by text the row of the year 10000 stands below. -/
theorem far_row_breaks_seek :
    ¬ SeeksPast (farPair.connectorScope "users/x" .destination)
      (fun r => ⟨if r.id = "a" then Instant.ofParts 2932897 0 0 else Instant.ofParts 19723 0 0,
          r.uid⟩) (·.read .basic)
      (fun c => ⟨c.createTime, c.uid⟩) 1 juneCursor.encode
      (farPair.listConnectors "users/x" .destination 1 juneCursor.encode .basic) := by
  intro h
  obtain ⟨c, hc⟩ : ∃ c, (sampleRow "b" 2 (Instant.ofParts 19723 0 0)).read .basic = .ok c := by
    rw [ConnectorRow.exists_read_basic_iff]
    simp only [sampleRow, Stored.exists_time_text_ok_iff]
    exact ⟨by decide, by decide⟩
  obtain ⟨htime, huid⟩ := ConnectorRow.read_eq_ok hc
  have hct : c.createTime = Instant.ofParts 19723 0 0 :=
    (Stored.time_text_eq_ok_iff.1 htime).2.symm
  have hdec : PageToken.decode juneCursor.encode = .ok juneCursor := by
    rw [PageToken.decode_encode juneCursor, if_pos (by decide)]
  have hbelow : ∀ r, r ∈ [sampleRow "b" 2 (Instant.ofParts 19723 0 0)] ↔
      r ∈ farPair.connectorScope "users/x" .destination ∧ ∀ t ∈ some juneCursor,
        (⟨if r.id = "a" then Instant.ofParts 2932897 0 0 else Instant.ofParts 19723 0 0,
            r.uid⟩ : PageToken).Older t := by
    intro r
    rw [farPair_scope]
    simp only [List.mem_cons, List.not_mem_nil, or_false, Option.mem_def, Option.some.injEq,
      forall_eq']
    constructor
    · rintro rfl
      exact ⟨.inl rfl, by decide⟩
    · rintro ⟨rfl | rfl, hold⟩
      · rfl
      · exact absurd hold (by decide)
  -- the rules read the row of 2024 alone, with no token, while the store gives one
  have hpage := h.page (some juneCursor) (.inr ⟨PageToken.encode_ne_empty _, juneCursor, hdec, rfl⟩)
    [sampleRow "b" 2 (Instant.ofParts 19723 0 0)] hbelow (List.pairwise_singleton _ _)
  have hL : clampPageSize 1 = 1 := by decide
  rw [farPair_call_past_june, seekPage, hL, List.take_of_length_le (by simp)] at hpage
  simp only [List.mapM_cons, List.mapM_nil, hc, bind, Except.bind, pure, Except.pure,
    Except.ok.injEq, Page.mk.injEq, true_and] at hpage
  simp only [nextToken, seekToken, if_pos (show 0 + 1 < 2 by decide), List.getLast?_singleton,
    Option.map_some, Option.getD_some, List.length_singleton, true_and, hct, huid,
    farPair_scope] at hpage
  rw [if_neg (by decide)] at hpage
  exact PageToken.encode_ne_empty _ hpage.2

end ConnectorPlane
