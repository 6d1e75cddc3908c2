import ConnectorPlane.Proofs.Listing.Interleaved

/-! # What the store's writes keep

The store's writes (`Tables.Write`) are upserting a definition, and creating, updating, renaming
and deleting a connector. A write either fails and leaves the tables as they were, or:

* inserts a row of a fresh uid (`Tables.createConnector_eq_ok`, `Tables.upsertDefinition_eq_ok`),
* rewrites rows in place keeping each row's creation time and uid (`Tables.updateConnector_keys`,
  `Tables.renameConnector_eq_ok`, `Tables.upsertDefinition_eq_ok`),
* or removes rows (`Tables.deleteConnector_eq_ok`).

So every table keeps its rows keyed, with no uid twice (`Tables.Sound`, `Tables.Write.sound`).
Over such tables a listing walked while others write returns its items newest first, none twice,
and every row that stays in the scope exactly once (`interleaved_walk_newest_first_once`);
`walk_past_deleted_cursor` walks past a cursor whose row is deleted between two calls.
-/

namespace ConnectorPlane

/-! ## Keyed rows -/

variable {α : Type} (createTime : α → String) (uid : α → Uuid) in
/-- Rows as the store keeps them: each keyed, no uid twice. -/
structure KeyedRows (rows : List α) : Prop where
  keyed : ∀ r ∈ rows, Keyed (createTime r)
  uids_nodup : (rows.map uid).Nodup

namespace KeyedRows

variable {α : Type} {createTime : α → String} {uid : α → Uuid} {rows rows' : List α}

theorem of_keys_eq (h : KeyedRows createTime uid rows)
    (hkeys : rows'.map (fun r => (createTime r, uid r)) = rows.map fun r => (createTime r, uid r)) :
    KeyedRows createTime uid rows' where
  keyed r hr := by
    obtain ⟨r₀, hr₀, he⟩ := List.mem_map.1 (hkeys ▸ List.mem_map_of_mem (f := fun r => (createTime r, uid r)) hr)
    simp only [Prod.mk.injEq] at he
    rw [← he.1]
    exact h.keyed r₀ hr₀
  uids_nodup := by
    have huids := congrArg (List.map Prod.snd) hkeys
    simp only [List.map_map, Function.comp_def] at huids
    exact huids ▸ h.uids_nodup

theorem sublist (h : KeyedRows createTime uid rows) (hs : rows'.Sublist rows) :
    KeyedRows createTime uid rows' :=
  ⟨fun r hr => h.keyed r (hs.subset hr), h.uids_nodup.sublist (hs.map uid)⟩

theorem append (h : KeyedRows createTime uid rows) {r : α} (hr : Keyed (createTime r))
    (hfresh : uid r ∉ rows.map uid) : KeyedRows createTime uid (rows ++ [r]) := by
  refine ⟨fun x hx => ?_, ?_⟩
  · rcases List.mem_append.1 hx with hx | hx
    · exact h.keyed x hx
    · rw [List.mem_singleton.1 hx]
      exact hr
  · rw [List.map_append, List.map_singleton, List.nodup_append]
    exact ⟨h.uids_nodup, List.nodup_singleton _, fun a ha b hb => by
      rw [List.mem_singleton.1 hb]
      exact fun he => hfresh (he ▸ ha)⟩

end KeyedRows

theorem Definition.keyed_toRow (d : Definition) : Keyed d.toRow.createTime :=
  ⟨d.createTime, rfl⟩

theorem Connector.keyed_toRow (c : Connector) : Keyed c.toRow.createTime :=
  ⟨c.createTime, rfl⟩

/-! ## The writes -/

namespace Tables

/-- Tables as the store keeps them: in each table every row keyed, no uid twice. -/
structure Sound (t : Tables) : Prop where
  definitions : KeyedRows (·.createTime) (·.uid) t.definitions
  connectors : KeyedRows (·.createTime) (·.uid) t.connectors

theorem sound_empty : ({} : Tables).Sound :=
  ⟨⟨by simp, by simp⟩, ⟨by simp, by simp⟩⟩

/-- One write of the store that succeeds; a write that fails leaves the tables as they were. -/
inductive Write : Tables → Tables → Prop
  | upsertDefinition {t t' : Tables} (d : Definition) : t.upsertDefinition d = .ok t' → Write t t'
  | createConnector {t t' : Tables} (c : Connector) : t.createConnector c = .ok t' → Write t t'
  | updateConnector (t : Tables) (id owner : String) (type : ConnectorType) (u : ConnectorUpdate)
      (now : Instant) : Write t (t.updateConnector id owner type u now)
  | renameConnector {t t' : Tables} (id owner : String) (type : ConnectorType) (newId : String)
      (now : Instant) : t.renameConnector id owner type newId now = .ok t' → Write t t'
  | deleteConnector {t t' : Tables} (id owner : String) (type : ConnectorType) :
      t.deleteConnector id owner type = .ok t' → Write t t'

variable {t t' : Tables}

theorem upsertDefinition_eq_ok {d : Definition} (h : t.upsertDefinition d = .ok t') :
    t'.connectors = t.connectors ∧
      (t'.definitions.map (fun r => (r.createTime, r.uid)) =
          t.definitions.map (fun r => (r.createTime, r.uid)) ∨
        t'.definitions = t.definitions ++ [d.toRow] ∧ d.uid ∉ t.definitions.map (·.uid)) := by
  dsimp only [upsertDefinition] at h
  split at h
  · cases h
  · split at h
    · -- the row of the same uid is rewritten, keeping its creation time
      cases h
      refine ⟨rfl, .inl ?_⟩
      rw [List.map_map]
      refine List.map_congr_left fun r _ => ?_
      simp only [Function.comp_apply]
      split
      · rename_i hr
        simp [beq_iff_eq.1 hr]
      · rfl
    · cases h
      refine ⟨rfl, .inr ⟨rfl, fun hd => ?_⟩⟩
      obtain ⟨r, hr, he⟩ := List.mem_map.1 hd
      rename_i _ hno
      exact hno (List.any_eq_true.2 ⟨r, hr, by simp [he, Definition.toRow]⟩)

theorem createConnector_eq_ok {c : Connector} (h : t.createConnector c = .ok t') :
    t'.definitions = t.definitions ∧ t'.connectors = t.connectors ++ [c.toRow] ∧
      c.uid ∉ t.connectors.map (·.uid) := by
  dsimp only [createConnector] at h
  split at h
  · cases h
  · split at h
    · cases h
    · cases h
      refine ⟨rfl, rfl, fun hc => ?_⟩
      obtain ⟨r, hr, he⟩ := List.mem_map.1 hc
      rename_i _ hno
      exact hno (List.any_eq_true.2 ⟨r, hr, by simp [he, Connector.toRow]⟩)

theorem updateConnector_keys (id owner : String) (type : ConnectorType) (u : ConnectorUpdate)
    (now : Instant) :
    (t.updateConnector id owner type u now).connectors.map (fun r => (r.createTime, r.uid)) =
      t.connectors.map fun r => (r.createTime, r.uid) := by
  simp only [updateConnector, List.map_map]
  refine List.map_congr_left fun r _ => ?_
  simp only [Function.comp_apply]
  split <;> rfl

theorem renameConnector_eq_ok {id owner : String} {type : ConnectorType} {newId : String}
    {now : Instant} (h : t.renameConnector id owner type newId now = .ok t') :
    t'.definitions = t.definitions ∧
      t'.connectors.map (fun r => (r.createTime, r.uid)) =
        t.connectors.map fun r => (r.createTime, r.uid) := by
  unfold renameConnector at h
  split at h
  · cases h
    exact ⟨rfl, rfl⟩
  · split at h
    · cases h
    · cases h
      refine ⟨rfl, ?_⟩
      rw [List.map_map]
      refine List.map_congr_left fun r _ => ?_
      simp only [Function.comp_apply]
      split <;> rfl

theorem deleteConnector_eq_ok {id owner : String} {type : ConnectorType}
    (h : t.deleteConnector id owner type = .ok t') :
    t'.definitions = t.definitions ∧ t'.connectors.Sublist t.connectors := by
  unfold deleteConnector at h
  split at h
  · cases h
    exact ⟨rfl, List.filter_sublist⟩
  · cases h

/-- **Every write keeps the tables sound.** -/
theorem Write.sound (hw : Write t t') (ht : t.Sound) : t'.Sound := by
  cases hw with
  | upsertDefinition d h =>
    obtain ⟨hc, hkeys | ⟨hd, hfresh⟩⟩ := upsertDefinition_eq_ok h
    · exact ⟨ht.definitions.of_keys_eq hkeys, hc ▸ ht.connectors⟩
    · exact ⟨hd ▸ ht.definitions.append (Definition.keyed_toRow d) hfresh, hc ▸ ht.connectors⟩
  | createConnector c h =>
    obtain ⟨hd, hc, hfresh⟩ := createConnector_eq_ok h
    exact ⟨hd ▸ ht.definitions, hc ▸ ht.connectors.append (Connector.keyed_toRow c) hfresh⟩
  | updateConnector id owner type u now =>
    exact ⟨ht.definitions, ht.connectors.of_keys_eq (updateConnector_keys id owner type u now)⟩
  | renameConnector id owner type newId now h =>
    obtain ⟨hd, hkeys⟩ := renameConnector_eq_ok h
    exact ⟨hd ▸ ht.definitions, ht.connectors.of_keys_eq hkeys⟩
  | deleteConnector id owner type h =>
    obtain ⟨hd, hsub⟩ := deleteConnector_eq_ok h
    exact ⟨hd ▸ ht.definitions, ht.connectors.sublist hsub⟩

end Tables

/-! ## Walking a listing while others write -/

section Walk

variable {σ α β : Type} {step : σ → σ → Prop} {scope : σ → List α} {createTime : α → String}
  {uid : α → Uuid} {read : α → Except StoreError β} {time : β → Instant} {itemUid : β → Uuid}

variable (hread : ∀ r b, read r = .ok b → Stored.time (createTime r) = .ok (time b) ∧
  itemUid b = uid r)
include hread

/-- An item read from a keyed row carries an instant of the years 0 to 9999, written as
the row's stored time, and the row's uid. -/
theorem keyed_item {r : α} {b : β} (hk : Keyed (createTime r)) (hr : read r = .ok b) :
    (time b).InRange ∧ (time b).text = createTime r ∧ itemUid b = uid r := by
  obtain ⟨htime, huid⟩ := hread r b hr
  obtain ⟨t, ht⟩ := hk
  rw [ht] at htime ⊢
  obtain ⟨hin, rfl⟩ := Stored.time_text_eq_ok_iff.1 htime
  exact ⟨hin, rfl, huid⟩

/-- **A listing walked while others write**, over keyed scopes at every call: its items are
newest first, no time and uid twice, and a row that is in the scope at every call, by its stored
time and uid, is returned exactly once. -/
theorem interleaved_newest_first_once (n : Nat) {s : σ} {cs : List (σ × Page β)}
    (hw : Interleaved step (fun s token => listPage (scope s) (fun r => ⟨createTime r, (uid r).text⟩)
      read (fun b => ⟨time b, itemUid b⟩) n token) s "" cs)
    (hk : ∀ c ∈ cs, KeyedRows createTime uid (scope c.1)) :
    (cs.flatMap (·.2.items)).Pairwise (Newer time itemUid) ∧
      ((cs.flatMap (·.2.items)).map fun b => (time b, itemUid b)).Nodup ∧
      ∀ (s : String) (u : Uuid), (∀ c ∈ cs, ∃ r ∈ scope c.1, createTime r = s ∧ uid r = u) →
        ((cs.flatMap (·.2.items)).map fun b => ((time b).text, itemUid b)).count (s, u) = 1 := by
  have hs : ∀ c ∈ cs, Listing.Resumable (scope c.1) (fun r => ⟨createTime r, (uid r).text⟩) read
      (fun b => ⟨time b, itemUid b⟩) := fun c hc =>
    resumable_of_keyed hread (hk c hc).keyed (hk c hc).uids_nodup
  obtain ⟨hsorted, hitems⟩ := Listing.interleaved_sorted hw hs (show Listing.cursor "" = .ok none from rfl)
  have hkeyed : ∀ b ∈ cs.flatMap (·.2.items), (time b).InRange := by
    intro b hb
    obtain ⟨-, c, hc, r, hr, hrb⟩ := hitems b hb
    exact (keyed_item hread ((hk c hc).keyed r hr) hrb).1
  have hnodup : ((cs.flatMap (·.2.items)).map fun b =>
      Position.key ⟨(time b).text, (itemUid b).text⟩).Nodup :=
    List.pairwise_map.2 (hsorted.imp ne_of_gt)
  refine ⟨?_, ?_, fun s u hin => ?_⟩
  · exact hsorted.imp_of_mem fun ha hb hab =>
      (Position.text_key_lt_iff (hkeyed _ ha) (hkeyed _ hb)).1 hab
  · refine List.Nodup.of_map (fun p : Instant × Uuid => Position.key ⟨p.1.text, p.2.text⟩) ?_
    simpa only [List.map_map, Function.comp_def] using hnodup
  · -- the row's key is returned, by an item of its time and uid
    obtain ⟨b, hb, hkey⟩ := Listing.interleaved_covers hw hs
      (show Listing.cursor "" = .ok none from rfl)
      (show Listing.Below none (Position.key ⟨s, u.text⟩) from trivial) fun c hc => by
        obtain ⟨r, hr, rfl, rfl⟩ := hin c hc
        exact ⟨r, hr, rfl⟩
    obtain ⟨-, c, hc, -⟩ := hitems b hb
    obtain ⟨r, hr, -, rfl⟩ := hin c hc
    have hpos := Position.key_injective hkey
    simp only [Position.ofToken, Position.mk.injEq] at hpos
    have huid := Uuid.text_inj.1 hpos.2
    refine List.count_eq_one_of_mem ?_ (List.mem_map.2 ⟨b, hb, by rw [hpos.1, huid]⟩)
    refine List.Nodup.of_map (fun p : String × Uuid => Position.key ⟨p.1, p.2.text⟩) ?_
    simpa only [List.map_map, Function.comp_def] using hnodup

end Walk

/-- **Listings walked while others write**: from sound tables, however the store's writes are
interleaved with the calls of a walk through an owner's connectors of a type or the definitions
of a type, the items of its pages come newest first, by creation time and then uid, no time and
uid twice, and a row that is in the scope at every call, by its stored time and uid, comes
exactly once. -/
theorem interleaved_walk_newest_first_once (t : Tables) (ht : t.Sound) (n : Nat) (view : View) :
    (∀ (owner : String) (type : ConnectorType) (calls : List (Tables × Page Connector)),
      Interleaved Tables.Write (fun t token => t.listConnectors owner type n token view) t ""
        calls →
      (calls.flatMap (·.2.items)).Pairwise (Newer (·.createTime) (·.uid)) ∧
      ((calls.flatMap (·.2.items)).map fun c => (c.createTime, c.uid)).Nodup ∧
      ∀ (s : String) (u : Uuid),
        (∀ c ∈ calls, ∃ r ∈ c.1.connectorScope owner type, r.createTime = s ∧ r.uid = u) →
        ((calls.flatMap (·.2.items)).map fun c => (c.createTime.text, c.uid)).count (s, u) = 1) ∧
    (∀ (type : ConnectorType) (calls : List (Tables × Page Definition)),
      Interleaved Tables.Write (fun t token => t.listDefinitions type n token view) t "" calls →
      (calls.flatMap (·.2.items)).Pairwise (Newer (·.createTime) (·.uid)) ∧
      ((calls.flatMap (·.2.items)).map fun d => (d.createTime, d.uid)).Nodup ∧
      ∀ (s : String) (u : Uuid),
        (∀ c ∈ calls, ∃ r ∈ c.1.definitionScope type, r.createTime = s ∧ r.uid = u) →
        ((calls.flatMap (·.2.items)).map fun d => (d.createTime.text, d.uid)).count (s, u) = 1) := by
  refine ⟨fun owner type calls hw => ?_, fun type calls hw => ?_⟩
  · -- every call sees sound tables, whose scope is keyed
    have hsound := hw.forall_state (fun _ _ h => h.sound) ht
    exact interleaved_newest_first_once (fun r c h => ConnectorRow.read_eq_ok h) n hw
      fun c hc => (hsound c hc).connectors.sublist List.filter_sublist
  · have hsound := hw.forall_state (fun _ _ h => h.sound) ht
    exact interleaved_newest_first_once (fun r d h => DefinitionRow.read_eq_ok h) n hw
      fun c hc => (hsound c hc).definitions.sublist List.filter_sublist

/-- The connector `sampleRow id uid time` reads as in the basic view. -/
def sampleConnector (id : String) (uid : Nat) (time : Instant) : Connector where
  uid := Uuid.ofNat uid
  id := id
  owner := "users/x"
  definitionUid := Uuid.ofNat 1
  connectorType := .destination
  description := ""
  configuration := none
  state := .disconnected
  tombstone := false
  createTime := time
  updateTime := time

theorem sampleRow_read {id : String} {uid : Nat} {time : Instant} (hr : time.InRange) :
    (sampleRow id uid time).read .basic = .ok (sampleConnector id uid time) := by
  simp [ConnectorRow.read, View.isBasic, sampleRow, Stored.time_text_eq_ok_iff.2 ⟨hr, rfl⟩,
    bind, Except.bind, pure, Except.pure, sampleConnector]

/-- Three connectors of `users/x`, created in 2024, 2022 and 2019. -/
def threeConnectors : Tables where
  connectors := [sampleRow "a" 3 (Instant.ofParts 19723 0 0),
    sampleRow "b" 2 (Instant.ofParts 19000 0 0), sampleRow "c" 1 (Instant.ofParts 18000 0 0)]

/-- The same with `b` deleted. -/
def twoConnectors : Tables where
  connectors := [sampleRow "a" 3 (Instant.ofParts 19723 0 0),
    sampleRow "c" 1 (Instant.ofParts 18000 0 0)]

/-- A walk of two connectors to a page over `threeConnectors`: the first page ends with `b`, which
is deleted before the second call; the second page resumes below it and returns `c`. -/
def deletedCursorWalk : List (Tables × Page Connector) :=
  [(threeConnectors, ⟨[sampleConnector "a" 3 (Instant.ofParts 19723 0 0),
      sampleConnector "b" 2 (Instant.ofParts 19000 0 0)], 3,
      PageToken.encode ⟨Instant.ofParts 19000 0 0, Uuid.ofNat 2⟩⟩),
    (twoConnectors, ⟨[sampleConnector "c" 1 (Instant.ofParts 18000 0 0)], 2, ""⟩)]

theorem walk_past_deleted_cursor :
    threeConnectors.Sound ∧
      Interleaved Tables.Write
        (fun t token => t.listConnectors "users/x" .destination 2 token .basic) threeConnectors ""
        deletedCursorWalk ∧
      (deletedCursorWalk.flatMap (·.2.items)).Pairwise (Newer (·.createTime) (·.uid)) ∧
      ((deletedCursorWalk.flatMap (·.2.items)).map fun c => (c.createTime, c.uid)).Nodup ∧
      ∀ (s : String) (u : Uuid), (∀ c ∈ deletedCursorWalk,
          ∃ r ∈ c.1.connectorScope "users/x" .destination, r.createTime = s ∧ r.uid = u) →
        ((deletedCursorWalk.flatMap (·.2.items)).map fun c => (c.createTime.text, c.uid)).count
          (s, u) = 1 := by
  have hsound : threeConnectors.Sound := by
    refine ⟨⟨by simp [threeConnectors], by simp [threeConnectors]⟩, ⟨?_, by decide⟩⟩
    simp only [threeConnectors, List.mem_cons, List.not_mem_nil, or_false, forall_eq_or_imp,
      forall_eq]
    exact ⟨⟨_, rfl⟩, ⟨_, rfl⟩, ⟨_, rfl⟩⟩
  have hdelete : threeConnectors.deleteConnector "b" "users/x" .destination = .ok twoConnectors := by
    simp [Tables.deleteConnector, threeConnectors, twoConnectors, ConnectorRow.isAt, sampleRow]
  have hsound₂ := (Tables.Write.deleteConnector _ _ _ hdelete).sound hsound
  have hsorted₃ : Listing.newestFirst (fun r => ⟨r.createTime, r.uid.text⟩)
      threeConnectors.connectors = threeConnectors.connectors :=
    Listing.newestFirst_eq_self ((show threeConnectors.connectors.Pairwise fun a b =>
      Position.lt ⟨b.createTime, b.uid.text⟩ ⟨a.createTime, a.uid.text⟩ = true by decide).imp
        Position.lt_iff_key_lt.1)
  have hsorted₂ : Listing.newestFirst (fun r => ⟨r.createTime, r.uid.text⟩)
      twoConnectors.connectors = twoConnectors.connectors :=
    Listing.newestFirst_eq_self ((show twoConnectors.connectors.Pairwise fun a b =>
      Position.lt ⟨b.createTime, b.uid.text⟩ ⟨a.createTime, a.uid.text⟩ = true by decide).imp
        Position.lt_iff_key_lt.1)
  have hfirst : threeConnectors.listConnectors "users/x" .destination 2 "" .basic =
      .ok ⟨[sampleConnector "a" 3 (Instant.ofParts 19723 0 0),
          sampleConnector "b" 2 (Instant.ofParts 19000 0 0)], 3,
        PageToken.encode ⟨Instant.ofParts 19000 0 0, Uuid.ofNat 2⟩⟩ := by
    show listPage threeConnectors.connectors (fun r => ⟨r.createTime, r.uid.text⟩) _ _ 2 "" = _
    rw [Listing.listPage_eq (resumable_of_keyed (fun r c h => ConnectorRow.read_eq_ok h)
      hsound.connectors.keyed hsound.connectors.uids_nodup) 2 (.inl ⟨rfl, rfl⟩), hsorted₃]
    simp (disch := decide) [threeConnectors, sampleRow_read, clampPageSize,
      maxPageSize, Listing.nextToken, bind, Except.bind, pure, Except.pure, sampleConnector]
  -- the token reads back as the position of the deleted row, below which only `c` is left
  have hc : Listing.cursor (PageToken.encode ⟨Instant.ofParts 19000 0 0, Uuid.ofNat 2⟩) =
      .ok (some ⟨Instant.ofParts 19000 0 0, Uuid.ofNat 2⟩) := by
    have hdec := PageToken.decode_encode ⟨Instant.ofParts 19000 0 0, Uuid.ofNat 2⟩
    rw [if_pos (by decide)] at hdec
    simp [Listing.cursor, PageToken.encode_ne_empty, hdec]
  have hafter : Listing.newestFirst (fun r => ⟨r.createTime, r.uid.text⟩)
      ((some ⟨Instant.ofParts 19000 0 0,
          Uuid.ofNat 2⟩ : Option PageToken).elim twoConnectors.connectors fun t =>
        twoConnectors.connectors.filter fun r =>
          Position.lt ⟨r.createTime, r.uid.text⟩ (Position.ofToken t)) =
      (Listing.newestFirst (fun r => ⟨r.createTime, r.uid.text⟩) twoConnectors.connectors).drop 1 := by
    rw [hsorted₂]
    simp +decide only [Option.elim, twoConnectors, List.filter_cons, List.filter_nil]
    exact Listing.newestFirst_eq_self (List.pairwise_singleton _ _)
  have hsecond : twoConnectors.listConnectors "users/x" .destination 2
      (PageToken.encode ⟨Instant.ofParts 19000 0 0, Uuid.ofNat 2⟩) .basic =
        .ok ⟨[sampleConnector "c" 1 (Instant.ofParts 18000 0 0)], 2, ""⟩ := by
    show listPage twoConnectors.connectors (fun r => ⟨r.createTime, r.uid.text⟩) _ _ 2 _ = _
    rw [Listing.listPage_eq_of_cursor (resumable_of_keyed (fun r c h => ConnectorRow.read_eq_ok h)
      hsound₂.connectors.keyed hsound₂.connectors.uids_nodup) 2 hc hafter, hsorted₂]
    simp (disch := decide) [twoConnectors, sampleRow_read, clampPageSize,
      maxPageSize, Listing.nextToken, bind, Except.bind, pure, Except.pure, sampleConnector]
  have hw : Interleaved Tables.Write
      (fun t token => t.listConnectors "users/x" .destination 2 token .basic) threeConnectors ""
      deletedCursorWalk :=
    .next hfirst (PageToken.encode_ne_empty _)
      (.single (.deleteConnector _ _ _ hdelete)) (.last hsecond rfl)
  exact ⟨hsound, hw, (interleaved_walk_newest_first_once _ hsound 2 .basic).1 _ _ _ hw⟩

end ConnectorPlane
