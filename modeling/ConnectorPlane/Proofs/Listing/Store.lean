import ConnectorPlane.Proofs.Listing.Walk
import ConnectorPlane.Store.Tables

/-! # Walking the store's listings

`Tables.listConnectors` lists an owner's connectors of a type and `Tables.listDefinitions` the
definitions of a type (`Tables.connectorScope`, `Tables.definitionScope`). The store writes a
row's creation time as the text of an instant (`Keyed`).

* `Keyed.key_lt_iff`: such rows compare by their stored texts as their times, and then uids,
  compare, as long as the times read back (years 0 to 9999).
* `scopeWalk_of_walk`: for keyed rows of distinct uids, every walk from the empty token returns
  the pages `ScopeWalk` describes: `max 1 ⌈N / L⌉` of them, each with the scope's size `N`, all
  but the last full, holding every row once, newest first (`Newer`).
* `walk_lists_scope_once_iff_rows_read`: that, for both listings; and a walk ends exactly when
  every row of the scope reads back in the view asked for. In the basic view a row reads back
  exactly when both its times do (`ConnectorRow.exists_read_basic_iff`), that is, when their
  years lie in 0 to 9999 (`Stored.exists_time_text_ok_iff`):
  `listConnectors_before_year_zero` is a listing that fails on a row created in year -1.
-/

namespace ConnectorPlane

open Listing

/-- A row's creation time as the store writes it: the text of an instant. -/
def Keyed (createTime : String) : Prop :=
  ∃ t : Instant, createTime = t.text

theorem ConnectorRow.read_eq_ok {r : ConnectorRow} {view : View} {c : Connector}
    (h : r.read view = .ok c) : Stored.time r.createTime = .ok c.createTime ∧ c.uid = r.uid := by
  unfold ConnectorRow.read at h
  split at h <;>
  · obtain ⟨cfg, -, h⟩ := bind_eq_ok_iff.1 h
    obtain ⟨t1, h1, h⟩ := bind_eq_ok_iff.1 h
    obtain ⟨t2, -, h⟩ := bind_eq_ok_iff.1 h
    cases h
    exact ⟨h1, rfl⟩

theorem Stored.time_eq_ok_iff {s : String} {t : Instant} :
    Stored.time s = .ok t ↔ Instant.parseStrict s = .ok t := by
  unfold Stored.time
  split <;> simp_all

theorem Stored.time_text_eq_ok_iff {t t' : Instant} :
    Stored.time t.text = .ok t' ↔ t.InRange ∧ t = t' := by
  rw [Stored.time_eq_ok_iff, Instant.parseStrict_text t]
  split <;> simp_all

theorem Keyed.resume {createTime : String} {uid : Uuid} {t : Instant} (hk : Keyed createTime)
    (ht : Stored.time createTime = .ok t) :
    PageToken.decode (⟨t, uid⟩ : PageToken).encode = .ok ⟨t, uid⟩ ∧
      Position.ofToken ⟨t, uid⟩ = ⟨createTime, uid.text⟩ := by
  obtain ⟨t₀, rfl⟩ := hk
  obtain ⟨hr, rfl⟩ := Stored.time_text_eq_ok_iff.1 ht
  exact ⟨by rw [PageToken.decode_encode, if_pos hr], rfl⟩

theorem Uuid.nodup_map_text {α : Type} {rows : List α} {uid : α → Uuid}
    (h : (rows.map uid).Nodup) : (rows.map fun r => (uid r).text).Nodup := by
  have hmap : rows.map (fun r => (uid r).text) = (rows.map uid).map Uuid.text := by
    simp [Function.comp_def]
  rw [hmap]
  refine h.map_on fun a ha b hb hab => ?_
  obtain ⟨ra, hra, rfl⟩ := List.mem_map.1 ha
  obtain ⟨rb, hrb, rfl⟩ := List.mem_map.1 hb
  exact Uuid.text_inj.1 hab

/-- A read item is newer than another: a later creation time, or the same one and a larger uid. -/
def Newer {β : Type} (time : β → Instant) (uid : β → Uuid) (a b : β) : Prop :=
  (time b).lt (time a) = true ∨ time b = time a ∧ (uid b).value < (uid a).value

variable {β : Type} (time : β → Instant) (uid : β → Uuid) in
/-- What a walk over a scope of rows with uids `uids` returns, pages of at most `L` rows: as many
pages as it takes, at least one; the scope's size on each; every page but the last full; each
row once; and newest first. -/
structure ScopeWalk (L : Nat) (uids : List Uuid) (ps : List (Page β)) : Prop where
  count : ps.length = max 1 ((uids.length + L - 1) / L)
  total : ∀ p ∈ ps, p.totalSize = uids.length
  full : ∀ p ∈ ps.dropLast, p.items.length = L
  once : ((ps.flatMap Page.items).map uid).Perm uids
  newest_first : (ps.flatMap Page.items).Pairwise (Newer time uid)

theorem Forall₂.exists_of_mem_right {α β : Type} {R : α → β → Prop} :
    ∀ {l : List α} {xs : List β}, List.Forall₂ R l xs → ∀ {d}, d ∈ xs → ∃ b ∈ l, R b d
  | _, _, .cons hac h, _, hd => by
    rcases List.mem_cons.1 hd with rfl | hd
    · exact ⟨_, List.mem_cons_self, hac⟩
    · obtain ⟨b, hb, hbd⟩ := Forall₂.exists_of_mem_right h hd
      exact ⟨b, List.mem_cons_of_mem _ hb, hbd⟩

theorem Forall₂.pairwise {α β : Type} {R : α → β → Prop} {P : α → α → Prop} {Q : β → β → Prop}
    (hQ : ∀ a b c d, R a c → R b d → P a b → Q c d) :
    ∀ {l : List α} {xs : List β}, List.Forall₂ R l xs → l.Pairwise P → xs.Pairwise Q
  | _, _, .nil, _ => .nil
  | _, _, .cons hac h, hp => by
    rw [List.pairwise_cons] at hp ⊢
    refine ⟨fun d hd => ?_, Forall₂.pairwise hQ h hp.2⟩
    obtain ⟨b, hb, hbd⟩ := Forall₂.exists_of_mem_right h hd
    exact hQ _ _ _ _ hac hbd (hp.1 b hb)

section Scope

variable {α β : Type} {rows : List α} {createTime : α → String} {uid : α → Uuid}
  {read : α → Except StoreError β} {time : β → Instant} {itemUid : β → Uuid}

/-- Valid instants of the years 0 to 9999 and uids compare, written as text, as themselves: by
time, then by uid. -/
theorem Position.text_key_lt_iff {t t' : Instant} {u u' : Uuid} (hr : t.InRange)
    (hr' : t'.InRange) :
    Position.key ⟨t'.text, u'.text⟩ < Position.key ⟨t.text, u.text⟩ ↔
      t'.lt t = true ∨ t' = t ∧ u'.value < u.value := by
  rw [Position.key, Position.key, Prod.Lex.toLex_lt_toLex, Instant.text_lt_iff hr' hr,
    Instant.text_inj hr' hr, Uuid.text_lt_iff]

theorem Keyed.key_lt_iff {s s' : String} {u u' : Uuid} {t t' : Instant} (hk : Keyed s)
    (hk' : Keyed s') (ht : Stored.time s = .ok t) (ht' : Stored.time s' = .ok t') :
    (Position.key ⟨s', u'.text⟩ < Position.key ⟨s, u.text⟩) ↔
      t'.lt t = true ∨ t' = t ∧ u'.value < u.value := by
  obtain ⟨t₀, rfl⟩ := hk
  obtain ⟨t₀', rfl⟩ := hk'
  obtain ⟨hr, rfl⟩ := Stored.time_text_eq_ok_iff.1 ht
  obtain ⟨hr', rfl⟩ := Stored.time_text_eq_ok_iff.1 ht'
  exact Position.text_key_lt_iff hr hr'

variable (hread : ∀ r b, read r = .ok b → Stored.time (createTime r) = .ok (time b) ∧ itemUid b = uid r)
include hread

/-- Keyed rows of distinct uids, read as items that keep their creation time and uid, can be
walked. -/
theorem resumable_of_keyed (hk : ∀ r ∈ rows, Keyed (createTime r))
    (hu : (rows.map uid).Nodup) :
    Resumable rows (fun r => ⟨createTime r, (uid r).text⟩) read (fun b => ⟨time b, itemUid b⟩) where
  uids_nodup := Uuid.nodup_map_text hu
  resume_read r hr b hb := by
    obtain ⟨htime, huid⟩ := hread r b hb
    simp only [huid]
    exact (hk r hr).resume htime

/-- **A walk over a keyed scope**: its pages hold every row once, newest first. -/
theorem scopeWalk_of_walk (hk : ∀ r ∈ rows, Keyed (createTime r))
    (hu : (rows.map uid).Nodup) (n : Nat) {ps : List (Page β)}
    (hw : Walk (listPage rows (fun r => ⟨createTime r, (uid r).text⟩) read
      (fun b => ⟨time b, itemUid b⟩) n) "" ps) :
    ScopeWalk time itemUid (clampPageSize n) (rows.map uid) ps := by
  have hs := resumable_of_keyed hread hk hu
  have hperm := newestFirst_perm (fun r => (⟨createTime r, (uid r).text⟩ : Position)) rows
  obtain ⟨hcount, htotal, hfull, hall⟩ := walkFrom_of_walk hs n hw (.inl ⟨rfl, rfl⟩) (.inl rfl)
  rw [List.drop_zero] at hall
  have hF := (List.forall₂_and_left _ _).2 ⟨fun r hr => hperm.subset hr, mapM_eq_ok_iff.1 hall⟩
  refine ⟨by simpa using hcount, by simpa using htotal, hfull, ?_, ?_⟩
  · have huids : (newestFirst (fun r => (⟨createTime r, (uid r).text⟩ : Position)) rows).map uid =
        (ps.flatMap Page.items).map itemUid := by
      rw [← List.forall₂_eq_eq_eq, List.forall₂_map_left_iff, List.forall₂_map_right_iff]
      exact hF.imp fun r b h => (hread r b h.2).2.symm
    exact huids ▸ hperm.map uid
  · refine Forall₂.pairwise (fun a b c d hac hbd hab => ?_) hF (newestFirst_strict hs.keys_nodup)
    obtain ⟨hta, hua⟩ := hread a c hac.2
    obtain ⟨htb, hub⟩ := hread b d hbd.2
    have := (Keyed.key_lt_iff (hk a hac.1) (hk b hbd.1) hta htb).1 hab
    rw [Newer, hua, hub]
    exact this

end Scope

theorem DefinitionRow.read_eq_ok {r : DefinitionRow} {view : View} {d : Definition}
    (h : r.read view = .ok d) : Stored.time r.createTime = .ok d.createTime ∧ d.uid = r.uid := by
  unfold DefinitionRow.read at h
  split at h <;>
  · obtain ⟨spec, -, h⟩ := bind_eq_ok_iff.1 h
    obtain ⟨t1, h1, h⟩ := bind_eq_ok_iff.1 h
    obtain ⟨t2, -, h⟩ := bind_eq_ok_iff.1 h
    cases h
    exact ⟨h1, rfl⟩

theorem Stored.exists_time_text_ok_iff (t : Instant) :
    (∃ t', Stored.time t.text = .ok t') ↔ t.InRange :=
  ⟨fun ⟨_, h⟩ => (Stored.time_text_eq_ok_iff.1 h).1,
    fun h => ⟨t, Stored.time_text_eq_ok_iff.2 ⟨h, rfl⟩⟩⟩

theorem ConnectorRow.exists_read_basic_iff (r : ConnectorRow) :
    (∃ c, r.read .basic = .ok c) ↔
      (∃ t, Stored.time r.createTime = .ok t) ∧ ∃ t, Stored.time r.updateTime = .ok t := by
  simp only [ConnectorRow.read, View.isBasic, if_true]
  cases h1 : Stored.time r.createTime <;> cases h2 : Stored.time r.updateTime <;>
    simp [bind, Except.bind, pure, Except.pure]

namespace Tables

/-- The rows of an owner's connectors of a type, as `listConnectors` lists them. -/
def connectorScope (t : Tables) (owner : String) (type : ConnectorType) : List ConnectorRow :=
  t.connectors.filter fun r => r.owner == owner && r.connectorType == type

/-- The rows of the definitions of a type, as `listDefinitions` lists them. -/
def definitionScope (t : Tables) (type : ConnectorType) : List DefinitionRow :=
  t.definitions.filter (·.connectorType == type)

end Tables

/-- **Walking a listing of connectors or definitions**: over a scope of rows whose creation times
are texts of instants and whose uids are distinct, every walk returns `max 1 ⌈N / L⌉` pages of the
scope's size, all but the last full, holding each row once, newest first by creation time and
then uid; and a walk ends exactly when every row of the scope reads back in the view. -/
theorem walk_lists_scope_once_iff_rows_read (t : Tables) (n : Nat) (view : View) :
    (∀ (owner : String) (type : ConnectorType),
      (∀ r ∈ t.connectorScope owner type, Keyed r.createTime) →
      ((t.connectorScope owner type).map (·.uid)).Nodup →
      (∀ ps, Walk (fun token => t.listConnectors owner type n token view) "" ps →
        ScopeWalk (·.createTime) (·.uid) (clampPageSize n)
          ((t.connectorScope owner type).map (·.uid)) ps) ∧
      ((∃ ps, Walk (fun token => t.listConnectors owner type n token view) "" ps) ↔
        ∀ r ∈ t.connectorScope owner type, ∃ c, r.read view = .ok c)) ∧
    (∀ type : ConnectorType,
      (∀ r ∈ t.definitionScope type, Keyed r.createTime) →
      ((t.definitionScope type).map (·.uid)).Nodup →
      (∀ ps, Walk (fun token => t.listDefinitions type n token view) "" ps →
        ScopeWalk (·.createTime) (·.uid) (clampPageSize n)
          ((t.definitionScope type).map (·.uid)) ps) ∧
      ((∃ ps, Walk (fun token => t.listDefinitions type n token view) "" ps) ↔
        ∀ r ∈ t.definitionScope type, ∃ d, r.read view = .ok d)) := by
  refine ⟨fun owner type hk hu => ⟨fun ps hw => ?_, ?_⟩, fun type hk hu => ⟨fun ps hw => ?_, ?_⟩⟩
  · exact scopeWalk_of_walk (fun r c h => ConnectorRow.read_eq_ok h) hk hu n hw
  · exact exists_walk_iff (resumable_of_keyed (fun r c h => ConnectorRow.read_eq_ok h) hk hu) n
  · exact scopeWalk_of_walk (fun r d h => DefinitionRow.read_eq_ok h) hk hu n hw
  · exact exists_walk_iff (resumable_of_keyed (fun r d h => DefinitionRow.read_eq_ok h) hk hu) n

/-- A connector row of the owner `users/x` created and updated at `time`. -/
def sampleRow (id : String) (uid : Nat) (time : Instant) : ConnectorRow where
  uid := Uuid.ofNat uid
  id := id
  owner := "users/x"
  definitionUid := Uuid.ofNat 1
  connectorType := .destination
  description := ""
  configuration := "{}"
  state := .disconnected
  tombstone := false
  createTime := time.text
  updateTime := time.text

/-- Three connectors walked two to a page, two of them created in the same second. -/
theorem walk_three_connectors :
    ∃ ps, Walk (fun token => ({ connectors := [sampleRow "a" 3 (Instant.ofParts 0 0 0),
        sampleRow "b" 1 (Instant.ofParts 19723 0 0), sampleRow "c" 2 (Instant.ofParts 19723 0 0)]
        } : Tables).listConnectors "users/x" .destination 2 token .basic) "" ps ∧
      ScopeWalk (·.createTime) (·.uid) 2 [Uuid.ofNat 3, Uuid.ofNat 1, Uuid.ofNat 2] ps := by
  have hscope : ({ connectors := [sampleRow "a" 3 (Instant.ofParts 0 0 0),
      sampleRow "b" 1 (Instant.ofParts 19723 0 0), sampleRow "c" 2 (Instant.ofParts 19723 0 0)]
      } : Tables).connectorScope "users/x" .destination =
      [sampleRow "a" 3 (Instant.ofParts 0 0 0), sampleRow "b" 1 (Instant.ofParts 19723 0 0),
        sampleRow "c" 2 (Instant.ofParts 19723 0 0)] := rfl
  have hk : ∀ r ∈ [sampleRow "a" 3 (Instant.ofParts 0 0 0),
      sampleRow "b" 1 (Instant.ofParts 19723 0 0), sampleRow "c" 2 (Instant.ofParts 19723 0 0)],
      Keyed r.createTime := by
    simp only [List.mem_cons, List.not_mem_nil, or_false, forall_eq_or_imp, forall_eq]
    exact ⟨⟨_, rfl⟩, ⟨_, rfl⟩, ⟨_, rfl⟩⟩
  have hreads : ∀ r ∈ [sampleRow "a" 3 (Instant.ofParts 0 0 0),
      sampleRow "b" 1 (Instant.ofParts 19723 0 0), sampleRow "c" 2 (Instant.ofParts 19723 0 0)],
      ∃ c, r.read .basic = .ok c := by
    simp only [List.mem_cons, List.not_mem_nil, or_false, forall_eq_or_imp, forall_eq,
      ConnectorRow.exists_read_basic_iff, sampleRow, Stored.exists_time_text_ok_iff]
    decide
  obtain ⟨hwalks, hends⟩ := (walk_lists_scope_once_iff_rows_read _ 2 .basic).1 "users/x" .destination
    (hscope ▸ hk) (by rw [hscope]; decide)
  obtain ⟨ps, hw⟩ := hends.2 (hscope ▸ hreads)
  exact ⟨ps, hw, hwalks ps hw⟩

/-- A connector created at 0000-01-01T00:00:00+01:00, one hour before year 0 in UTC. -/
def rowBeforeYearZero : ConnectorRow where
  uid := Uuid.ofNat 0x11111111111141118111111111111111
  id := "a"
  owner := "users/x"
  definitionUid := Uuid.ofNat 0x22222222222242228222222222222222
  connectorType := .destination
  description := ""
  configuration := "{}"
  state := .disconnected
  tombstone := false
  createTime := (Instant.ofParts (-719529) 82800 0).text
  updateTime := (Instant.ofParts 19723 0 0).text

theorem listConnectors_before_year_zero :
    ({ connectors := [rowBeforeYearZero] } : Tables).listConnectors "users/x" .destination 0 "" .basic =
      .error (.invalidData
        "timestamp '-0001-12-31T23:00:00.000000000Z': input contains invalid characters") := by
  have htext : (Instant.ofParts (-719529) 82800 0).text = "-0001-12-31T23:00:00.000000000Z" := by
    decide
  have htime : Stored.time rowBeforeYearZero.createTime = .error (.invalidData
      "timestamp '-0001-12-31T23:00:00.000000000Z': input contains invalid characters") := by
    simp only [Stored.time, rowBeforeYearZero,
      Instant.parseStrict_text (Instant.ofParts (-719529) 82800 0),
      if_neg (by decide : ¬ (Instant.ofParts (-719529) 82800 0).InRange)]
    rw [htext]
    rfl
  have hscope : ({ connectors := [rowBeforeYearZero] } : Tables).connectors.filter
      (fun r => r.owner == "users/x" && r.connectorType == .destination) = [rowBeforeYearZero] := by
    rfl
  simp [Tables.listConnectors, hscope, listPage, Listing.cursor, Listing.newestFirst, ConnectorRow.read,
    View.isBasic, htime, bind, Except.bind, pure, Except.pure, clampPageSize, defaultPageSize]

end ConnectorPlane
