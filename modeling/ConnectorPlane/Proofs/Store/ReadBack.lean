import ConnectorPlane.Proofs.Store.Writes

/-! # Reading back what the store wrote

The store keeps a record as a row of texts and reads the row back field by field. A created
connector is found again by its id, by its uid and by lookup, and an upserted definition by its
uid and by its id; each read gives back exactly the record written, as long as its documents'
texts read back as themselves and the years of its two times lie in 0 to 9999. A time of any
other year is written with a sign, which the reader refuses, and the read fails.

* `Connector.read_toRow`, `DefinitionRow.read_withCreateTime`: a record's row reads back as the
  record, in the view asked for, exactly when both its times have years 0 to 9999.
* `Tables.findConnector_createConnector`: after a create, the reads of the new connector by its
  id, by its uid and by lookup all pick its row.
* `Tables.foldlM_upsertDefinition`: upserts of one fresh uid leave one row for it, the last
  definition's with the first one's creation time.
* `store_reads_back_written_records`: both, for reads in every view;
  `connector_before_year_zero_not_read_back` is a connector written at year -1.
-/

namespace ConnectorPlane

open Listing

/-- A connector as a read in a view gives it: the basic view leaves out the configuration. -/
def Connector.inView (c : Connector) : View → Connector
  | .basic => { c with configuration := none }
  | .full => c

/-- A definition as a read in a view gives it: the basic view leaves out the specification. -/
def Definition.inView (d : Definition) : View → Definition
  | .basic => { d with spec := none }
  | .full => d

theorem Stored.document_compact {v : Json} (h : Json.read v.compact = .ok v) :
    Stored.document v.compact = .ok v := by
  simp [Stored.document, h]

theorem Stored.times_text_eq_ok_iff {a b a' b' : Instant} :
    (Stored.time a.text = .ok a' ∧ Stored.time b.text = .ok b') ↔
      a' = a ∧ b' = b ∧ a.InRange ∧ b.InRange := by
  rw [Stored.time_text_eq_ok_iff, Stored.time_text_eq_ok_iff]
  constructor
  · rintro ⟨⟨hra, rfl⟩, ⟨hrb, rfl⟩⟩
    exact ⟨rfl, rfl, hra, hrb⟩
  · rintro ⟨rfl, rfl, hra, hrb⟩
    exact ⟨⟨hra, rfl⟩, ⟨hrb, rfl⟩⟩

/-! ## Rows read back -/

/-- **A connector's row reads back as the connector**, in the view asked for, exactly when the
years of both its times lie in 0 to 9999, given that its configuration's text reads back. -/
theorem Connector.read_toRow {c : Connector} {v : Json} (hconf : c.configuration = some v)
    (hjson : Json.read v.compact = .ok v) (view : View) (c' : Connector) :
    c.toRow.read view = .ok c' ↔
      c' = c.inView view ∧ c.createTime.InRange ∧ c.updateTime.InRange := by
  have hdoc : Stored.document c.toRow.configuration = .ok v := by
    simp [Connector.toRow, hconf, Stored.document_compact hjson]
  obtain ⟨uid, id, owner, definitionUid, type, description, _, state, tombstone, createTime,
    updateTime⟩ := c
  cases hconf
  cases view <;>
  · simp only [ConnectorRow.read, View.isBasic, ↓reduceIte, Bool.false_eq_true, hdoc,
      bind_eq_ok_iff]
    constructor
    · rintro ⟨_, ⟨⟩, t1, h1, t2, h2, ⟨⟩⟩
      obtain ⟨rfl, rfl, hr1, hr2⟩ := Stored.times_text_eq_ok_iff.1 ⟨h1, h2⟩
      exact ⟨rfl, hr1, hr2⟩
    · rintro ⟨rfl, hr1, hr2⟩
      obtain ⟨h1, h2⟩ := Stored.times_text_eq_ok_iff.2 ⟨rfl, rfl, hr1, hr2⟩
      exact ⟨_, rfl, _, h1, _, h2, rfl⟩

/-- The row a definition's upserts leave: the last definition's, with the creation time the
first one wrote. -/
def Definition.rowSince (d : Definition) (created : Instant) : DefinitionRow :=
  { d.toRow with createTime := created.text }

/-- **A definition's row reads back as the definition**, with the creation time it was first
written with, in the view asked for, exactly when the years of both its times lie in 0 to
9999, given that its specification's text reads back. -/
theorem DefinitionRow.read_withCreateTime {d : Definition} (created : Instant)
    (hspec : ∀ s, d.spec = some s → Json.read s.compact = .ok s) (view : View) (d' : Definition) :
    (d.rowSince created).read view = .ok d' ↔
      d' = { d with createTime := created }.inView view ∧ created.InRange ∧
        d.updateTime.InRange := by
  have hdoc : (d.rowSince created).spec.mapM Stored.document = .ok d.spec := by
    cases hs : d.spec with
    | none =>
      simp [Definition.rowSince, Definition.toRow, hs, Option.mapM_none, pure, Except.pure]
    | some s =>
      simp [Definition.rowSince, Definition.toRow, hs, Stored.document_compact (hspec s hs),
        Option.mapM_some, Functor.map, Except.map]
  obtain ⟨uid, id, title, type, repository, tag, documentation, spec, createTime, updateTime⟩ := d
  cases view <;>
  · simp only [DefinitionRow.read, View.isBasic, ↓reduceIte, Bool.false_eq_true, hdoc,
      bind_eq_ok_iff]
    constructor
    · rintro ⟨_, ⟨⟩, t1, h1, t2, h2, ⟨⟩⟩
      obtain ⟨rfl, rfl, hr1, hr2⟩ := Stored.times_text_eq_ok_iff.1 ⟨h1, h2⟩
      exact ⟨rfl, hr1, hr2⟩
    · rintro ⟨rfl, hr1, hr2⟩
      obtain ⟨h1, h2⟩ := Stored.times_text_eq_ok_iff.2 ⟨rfl, rfl, hr1, hr2⟩
      exact ⟨_, rfl, _, h1, _, h2, rfl⟩

/-! ## Reads that pick the written row -/

theorem find?_append_singleton {α : Type} {p : α → Bool} {l : List α} {x : α}
    (hl : ∀ r ∈ l, p r = true → False) (hx : p x = true) : (l ++ [x]).find? p = some x := by
  rw [List.find?_append, List.find?_eq_none.2 fun r hr hp => hl r hr hp]
  simp [hx]

namespace Tables

variable {t t' : Tables}

/-- **After a create, a read finds the new row** when its condition picks that row and every
other row it picks would have clashed with the create, by (id, owner, type) or by uid. -/
theorem findConnector_createConnector {c : Connector} (h : t.createConnector c = .ok t')
    {p : ConnectorRow → Bool} (hp : p c.toRow = true)
    (hclash : ∀ r ∈ t.connectors, p r = true →
      r.isAt c.id c.owner c.connectorType = true ∨ r.uid = c.uid)
    (what : String) (view : View) :
    t'.findConnector p what view = c.toRow.read view := by
  dsimp only [createConnector] at h
  split at h
  · cases h
  · split at h
    · cases h
    · rename_i hkey huid
      cases h
      have hold : ∀ r ∈ t.connectors, p r = true → False := by
        intro r hr hpr
        rcases hclash r hr hpr with hat | heq
        · exact hkey (List.any_eq_true.2 ⟨r, hr, hat⟩)
        · exact huid (List.any_eq_true.2 ⟨r, hr, by simp [heq, Connector.toRow]⟩)
      simp only [findConnector, find?_append_singleton hold hp]

theorem upsertDefinition_fresh {d : Definition} (hfresh : d.uid ∉ t.definitions.map (·.uid))
    (h : t.upsertDefinition d = .ok t') :
    t'.definitions = t.definitions ++ [d.rowSince d.createTime] ∧
      ∀ r ∈ t.definitions, r.id = d.id → r.connectorType = d.connectorType → False := by
  dsimp only [upsertDefinition] at h
  split at h
  · cases h
  · rename_i hclash
    have huid : ∀ r ∈ t.definitions, r.uid ≠ d.uid := fun r hr he =>
      hfresh (List.mem_map.2 ⟨r, hr, he⟩)
    rw [if_neg (by simpa [Definition.toRow] using huid)] at h
    cases h
    refine ⟨rfl, fun r hr hid htype => hclash (List.any_eq_true.2 ⟨r, hr, ?_⟩)⟩
    simp [Definition.toRow, huid r hr, hid, htype]

/-- A later upsert of a uid rewrites its row in place, keeping the creation time first written,
and no other definition has its id and type. -/
theorem upsertDefinition_again {D : List DefinitionRow} {e d : Definition} {created : Instant}
    (hD : d.uid ∉ D.map (·.uid)) (he : e.uid = d.uid)
    (ht : t.definitions = D ++ [e.rowSince created]) (h : t.upsertDefinition d = .ok t') :
    t'.definitions = D ++ [d.rowSince created] ∧
      ∀ r ∈ D, r.id = d.id → r.connectorType = d.connectorType → False := by
  have huid : ∀ r ∈ D, r.uid ≠ d.uid := fun r hr heq => hD (List.mem_map.2 ⟨r, hr, heq⟩)
  dsimp only [upsertDefinition] at h
  split at h
  · cases h
  · rename_i hclash
    rw [if_pos (List.any_eq_true.2 ⟨e.rowSince created, by simp [ht],
      by simp [Definition.rowSince, Definition.toRow, he]⟩)] at h
    cases h
    refine ⟨?_, fun r hr hid htype => hclash (List.any_eq_true.2 ⟨r, by simp [ht, hr], ?_⟩)⟩
    · -- only the row of the uid is rewritten
      rw [ht, List.map_append, List.map_singleton,
        List.map_congr_left fun r hr => if_neg (by simpa [Definition.toRow] using huid r hr),
        List.map_id']
      simp [Definition.rowSince, Definition.toRow, he]
    · simp [Definition.toRow, huid r hr, hid, htype]

/-- **Upserts of one uid**, from tables whose rows `D` do not hold it: one row for the uid
remains, the last definition's with the creation time the first upsert wrote, and no other
row has the last definition's id and type. -/
theorem foldlM_upsertDefinition {D : List DefinitionRow} {created : Instant} :
    ∀ (ds : List Definition) {e d : Definition} {t t' : Tables}, d.uid ∉ D.map (·.uid) →
      (∀ x ∈ ds, x.uid = d.uid) → e.uid = d.uid →
      t.definitions = D ++ [e.rowSince created] →
      (ds ++ [d]).foldlM upsertDefinition t = .ok t' →
      t'.definitions = D ++ [d.rowSince created] ∧
        ∀ r ∈ D, r.id = d.id → r.connectorType = d.connectorType → False
  | [], e, d, t, t', hD, _, he, ht, h => by
    simp only [List.nil_append, List.foldlM_cons, List.foldlM_nil, bind_pure] at h
    exact upsertDefinition_again hD he ht h
  | x :: ds, e, d, t, t', hD, hds, he, ht, h => by
    simp only [List.cons_append, List.foldlM_cons, bind_eq_ok_iff] at h
    obtain ⟨t₁, h₁, h⟩ := h
    have hx := hds x List.mem_cons_self
    obtain ⟨ht₁, -⟩ := upsertDefinition_again (hx ▸ hD) (he.trans hx.symm) ht h₁
    exact foldlM_upsertDefinition ds hD (fun y hy => hds y (List.mem_cons_of_mem x hy)) hx ht₁ h

end Tables

/-! ## Written records read back -/

/-- **What the store wrote reads back.** A connector created with a configuration whose text
reads back is found by its id, by its uid and by lookup as exactly itself, in the view asked
for, when the years of its two times lie in 0 to 9999, and not otherwise. A definition upserted
any number of times under a uid the store did not hold reads back, by its uid and by its id and
type, as the last definition written with the creation time of the first, under the same
condition on its times. -/
theorem store_reads_back_written_records (t t' : Tables) (c : Connector) (v : Json) (view : View)
    (ds : List Definition) (d : Definition) (u u' : Tables) :
    (t.createConnector c = .ok t' → c.configuration = some v → Json.read v.compact = .ok v →
      ∀ c',
        (t'.getConnectorById c.id c.owner c.connectorType view = .ok c' ↔
          c' = c.inView view ∧ c.createTime.InRange ∧ c.updateTime.InRange) ∧
        (t'.getConnectorByUid c.uid c.owner c.connectorType view = .ok c' ↔
          c' = c.inView view ∧ c.createTime.InRange ∧ c.updateTime.InRange) ∧
        (t'.lookupConnector c.uid c.owner view = .ok c' ↔
          c' = c.inView view ∧ c.createTime.InRange ∧ c.updateTime.InRange)) ∧
    (d.uid ∉ u.definitions.map (·.uid) → (∀ x ∈ ds, x.uid = d.uid) →
      (ds ++ [d]).foldlM Tables.upsertDefinition u = .ok u' →
      (∀ s, d.spec = some s → Json.read s.compact = .ok s) →
      ∀ d',
        (u'.getDefinitionByUid d.uid view = .ok d' ↔
          d' = { d with createTime := (ds.headD d).createTime }.inView view ∧
            (ds.headD d).createTime.InRange ∧ d.updateTime.InRange) ∧
        (u'.getDefinitionById d.id d.connectorType view = .ok d' ↔
          d' = { d with createTime := (ds.headD d).createTime }.inView view ∧
            (ds.headD d).createTime.InRange ∧ d.updateTime.InRange)) := by
  refine ⟨fun hc hconf hjson c' => ?_, fun hfresh hds hu hspec d' => ?_⟩
  · -- each read picks the new row, which no earlier row could share a key with
    have hread := Connector.read_toRow hconf hjson view c'
    refine ⟨?_, ?_, ?_⟩
    · rw [Tables.getConnectorById, Tables.findConnector_createConnector hc
        (by simp [ConnectorRow.isAt, Connector.toRow]) (fun r _ hr => .inl hr), hread]
    · rw [Tables.getConnectorByUid, Tables.findConnector_createConnector hc
        (by simp [Connector.toRow]) (fun r _ hr => .inr (by simp at hr; exact hr.1.1)), hread]
    · rw [Tables.lookupConnector, Tables.findConnector_createConnector hc
        (by simp [Connector.toRow]) (fun r _ hr => .inr (by simp at hr; exact hr.1)), hread]
  · -- the first upsert appends the row, every later one rewrites it in place
    have hrow : u'.definitions = u.definitions ++ [d.rowSince (ds.headD d).createTime] ∧
        ∀ r ∈ u.definitions, r.id = d.id → r.connectorType = d.connectorType → False := by
      cases ds with
      | nil =>
        simp only [List.nil_append, List.foldlM_cons, List.foldlM_nil, bind_pure] at hu
        exact Tables.upsertDefinition_fresh hfresh hu
      | cons x ds =>
        simp only [List.cons_append, List.foldlM_cons, bind_eq_ok_iff] at hu
        obtain ⟨u₁, hu₁, hu⟩ := hu
        have hx := hds x List.mem_cons_self
        obtain ⟨hrow₁, -⟩ := Tables.upsertDefinition_fresh (hx ▸ hfresh) hu₁
        exact Tables.foldlM_upsertDefinition ds hfresh
          (fun y hy => hds y (List.mem_cons_of_mem x hy)) hx hrow₁ hu
    obtain ⟨hdefs, hclash⟩ := hrow
    have huid : ∀ r ∈ u.definitions, (r.uid == d.uid) = true → False := fun r hr he =>
      hfresh (List.mem_map.2 ⟨r, hr, by simpa using he⟩)
    have hread := DefinitionRow.read_withCreateTime (ds.headD d).createTime hspec view d'
    refine ⟨?_, ?_⟩
    · rw [Tables.getDefinitionByUid, hdefs,
        find?_append_singleton huid (by simp [Definition.rowSince, Definition.toRow]), hread]
    · rw [Tables.getDefinitionById, hdefs, find?_append_singleton (fun r hr he => hclash r hr
        (by simp_all) (by simp_all)) (by simp [Definition.rowSince, Definition.toRow]), hread]

/-- A connector with a one-member configuration, created and updated at 2024-01-01T00:00:00Z. -/
def storedConnector : Connector where
  uid := Uuid.ofNat 0x11111111111141118111111111111111
  id := "a"
  owner := "users/x"
  definitionUid := Uuid.ofNat 0x22222222222242228222222222222222
  connectorType := .destination
  description := ""
  configuration := some (.obj [("k", .num (.int 1))])
  state := .disconnected
  tombstone := false
  createTime := Instant.ofParts 19723 0 0
  updateTime := Instant.ofParts 19723 0 0

/-- A definition first written on 2022-01-08, with no specification. -/
def firstDefinition : Definition where
  uid := Uuid.ofNat 5
  id := "pg"
  title := ""
  connectorType := .destination
  dockerRepository := "conduit/pg"
  dockerImageTag := "0.1.0"
  documentationUrl := ""
  spec := none
  createTime := Instant.ofParts 19000 0 0
  updateTime := Instant.ofParts 19000 0 0

/-- The same definition written again on 2024-01-01, with the specification `null`. -/
def secondDefinition : Definition :=
  { firstDefinition with title := "Postgres", spec := some .null,
                         createTime := Instant.ofParts 19723 0 0,
                         updateTime := Instant.ofParts 19723 0 0 }

/-- A created connector reads back by its id, and a definition upserted twice reads back as the
second with the first's creation time and its `null` specification. -/
theorem sample_records_read_back :
    ({} : Tables).createConnector storedConnector = .ok ⟨[], [storedConnector.toRow]⟩ ∧
    (⟨[], [storedConnector.toRow]⟩ : Tables).getConnectorById "a" "users/x" .destination .full =
      .ok storedConnector ∧
    [firstDefinition, secondDefinition].foldlM Tables.upsertDefinition {} =
      .ok ⟨[secondDefinition.rowSince firstDefinition.createTime], []⟩ ∧
    (⟨[secondDefinition.rowSince firstDefinition.createTime], []⟩ : Tables).getDefinitionByUid
      (Uuid.ofNat 5) .full = .ok { secondDefinition with createTime := firstDefinition.createTime }
          := by
  have hc : ({} : Tables).createConnector storedConnector =
      .ok ⟨[], [storedConnector.toRow]⟩ := rfl
  have hu : ([firstDefinition] ++ [secondDefinition]).foldlM Tables.upsertDefinition {} =
      .ok ⟨[secondDefinition.rowSince firstDefinition.createTime], []⟩ := rfl
  -- the reader is defined by well-founded recursion: the texts are read by unfolding it all
  have hjson : Json.read (Json.obj [("k", .num (.int 1))]).compact =
      .ok (.obj [("k", .num (.int 1))]) := by
    with_unfolding_all rfl
  have hnull : Json.read Json.null.compact = .ok .null := by
    with_unfolding_all rfl
  have hr : (Instant.ofParts 19723 0 0).InRange := by decide
  have hr₀ : (Instant.ofParts 19000 0 0).InRange := by decide
  obtain ⟨hconn, hdef⟩ := store_reads_back_written_records {} _ storedConnector _ .full
    [firstDefinition] secondDefinition {} _
  refine ⟨hc, ((hconn hc rfl hjson _).1.2 ⟨rfl, hr, hr⟩), hu, ?_⟩
  exact ((hdef (by simp) (by simp [firstDefinition, secondDefinition]) hu
    (fun s hs => by cases hs; exact hnull) _).1.2 ⟨rfl, hr₀, hr⟩)

/-- A connector created at 0000-01-01T00:00:00+01:00, one hour before year 0 in UTC. -/
def connectorBeforeYearZero : Connector :=
  { storedConnector with createTime := Instant.ofParts (-719529) 82800 0 }

theorem connector_before_year_zero_not_read_back :
    ({} : Tables).createConnector connectorBeforeYearZero =
      .ok ⟨[], [connectorBeforeYearZero.toRow]⟩ ∧
    (⟨[], [connectorBeforeYearZero.toRow]⟩ : Tables).getConnectorById "a" "users/x" .destination
      .full = .error (.invalidData
        "timestamp '-0001-12-31T23:00:00.000000000Z': input contains invalid characters") := by
  have htext : (Instant.ofParts (-719529) 82800 0).text = "-0001-12-31T23:00:00.000000000Z" := by
    decide
  have htime : Stored.time connectorBeforeYearZero.toRow.createTime = .error (.invalidData
      "timestamp '-0001-12-31T23:00:00.000000000Z': input contains invalid characters") := by
    -- the text carries the year's sign, which the strict reader refuses
    simp only [Stored.time, connectorBeforeYearZero, storedConnector, Connector.toRow,
      Instant.parseStrict_text (Instant.ofParts (-719529) 82800 0),
      if_neg (by decide : ¬ (Instant.ofParts (-719529) 82800 0).InRange)]
    rw [htext]
    rfl
  have hdoc : Stored.document connectorBeforeYearZero.toRow.configuration =
      .ok (.obj [("k", .num (.int 1))]) := by
    simp only [Stored.document]
    rw [show Json.read connectorBeforeYearZero.toRow.configuration =
      .ok (.obj [("k", .num (.int 1))]) by with_unfolding_all rfl]
  refine ⟨rfl, ?_⟩
  have hfind : (⟨[], [connectorBeforeYearZero.toRow]⟩ : Tables).getConnectorById "a" "users/x"
      .destination .full = connectorBeforeYearZero.toRow.read .full := rfl
  rw [hfind]
  simp [ConnectorRow.read, View.isBasic, hdoc, htime, bind, Except.bind, Functor.map, Except.map]

end ConnectorPlane
