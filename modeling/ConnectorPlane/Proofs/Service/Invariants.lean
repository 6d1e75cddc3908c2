import ConnectorPlane.Proofs.ConnectorIds
import ConnectorPlane.Proofs.Service.Effects

/-! # What every run keeps of the connector table

Against a registry built from well-formed families, the services and the check task, run one
at a time from an empty store, keep the connector table in a shape no call can break:

* `Tables.WellKept`: no uid and no (id, owner, type) twice, and every row `ConnectorRow.Kept`:
  an id the documented pattern matches, an object for configuration, the connector type of the
  definition its uid names, a user's permalink for owner;
* `Tables.Descends`: a call keeps every row's uid, owner, definition and creation time; only a
  `create` adds a row, one of a new uid that its caller owns;
* `Call.Writes`: the one write each call can make, with what the call checked before it
  (`Call.run_tables`), and what such a write keeps (`Call.Writes.wellKept`,
  `Call.Writes.descends`);
* `Reachable`, `Plane.services_keep_connector_rows`: every table the calls reach is well kept,
  and every call from it keeps the rows' identities.
-/

namespace ConnectorPlane

/-- What a row keeps for its life: its uid, owner, definition and creation time. -/
def ConnectorRow.identity (r : ConnectorRow) : Uuid × String × Uuid × String :=
  (r.uid, r.owner, r.definitionUid, r.createTime)

/-- A connector row as the services write it against registry `R`. -/
structure ConnectorRow.Kept (R : Registry) (r : ConnectorRow) : Prop where
  id : ConnectorId.Matches r.id
  configuration : ∃ fs, r.configuration = (Json.obj fs).compact
  typed : ∃ d, R.byUid? r.definitionUid = some d ∧ r.connectorType = d.connectorType
  owner : ∃ o : Owner, r.owner = o.permalink

namespace ConnectorRow

variable {R : Registry} {r : ConnectorRow}

theorem Kept.apply (hr : r.Kept R) {u : ConnectorUpdate}
    (hu : ∀ C, u.configuration = some C → C.isObject = true) (now : Instant) :
    (r.apply u now).Kept R := by
  refine ⟨hr.id, ?_, hr.typed, hr.owner⟩
  cases hc : u.configuration with
  | none => simpa [ConnectorRow.apply, hc] using hr.configuration
  | some C =>
    cases C with
    | obj fs => exact ⟨fs, by simp [ConnectorRow.apply, hc]⟩
    | _ => cases hu _ hc

theorem Kept.rename (hr : r.Kept R) {newId : String} (hid : ConnectorId.Matches newId)
    (now : Instant) : ({ r with id := newId, updateTime := now.text } : ConnectorRow).Kept R :=
  ⟨hid, hr.configuration, hr.typed, hr.owner⟩

end ConnectorRow

namespace Tables

/-- The connector table as the services keep it against registry `R`. -/
structure WellKept (R : Registry) (t : Tables) : Prop where
  uids : (t.connectors.map (·.uid)).Nodup
  keys : t.UniqueKeys
  rows : ∀ r ∈ t.connectors, r.Kept R

/-- The identities of `t'`'s rows are `t`'s, some of them gone, or `t`'s and one more, of a
row that `added` allows and of a uid `t` does not hold. -/
def Descends (added : ConnectorRow → Prop) (t t' : Tables) : Prop :=
  (t'.connectors.map ConnectorRow.identity).Sublist (t.connectors.map ConnectorRow.identity) ∨
    ∃ r, added r ∧ r.uid ∉ t.connectors.map (·.uid) ∧
      t'.connectors.map ConnectorRow.identity = t.connectors.map ConnectorRow.identity ++ [r.identity]

variable {R : Registry} {t t' : Tables}

theorem wellKept_empty (R : Registry) : ({} : Tables).WellKept R :=
  ⟨List.nodup_nil, List.nodup_nil, fun _ h => absurd h List.not_mem_nil⟩

theorem descends_refl (added : ConnectorRow → Prop) (t : Tables) : t.Descends added t :=
  .inl (List.Sublist.refl _)

theorem uids_eq_of_identities_eq
    (h : t'.connectors.map ConnectorRow.identity = t.connectors.map ConnectorRow.identity) :
    t'.connectors.map (·.uid) = t.connectors.map (·.uid) := by
  have huid := congrArg (List.map Prod.fst) h
  rw [List.map_map, List.map_map] at huid
  exact huid

theorem descends_of_identities_eq (added : ConnectorRow → Prop)
    (h : t'.connectors.map ConnectorRow.identity = t.connectors.map ConnectorRow.identity) :
    t.Descends added t' :=
  .inl (h ▸ List.Sublist.refl _)

/-! ## The writes -/

section Update

variable (id owner : String) (type : ConnectorType) (u : ConnectorUpdate) (now : Instant)

theorem updateConnector_identities :
    (t.updateConnector id owner type u now).connectors.map ConnectorRow.identity =
      t.connectors.map ConnectorRow.identity := by
  simp only [updateConnector, List.map_map]
  refine List.map_congr_left fun r _ => ?_
  simp only [Function.comp_apply]
  split <;> rfl

theorem WellKept.updateConnector (ht : t.WellKept R)
    (hu : ∀ C, u.configuration = some C → C.isObject = true) :
    (t.updateConnector id owner type u now).WellKept R := by
  refine ⟨?_, ?_, fun r' hr' => ?_⟩
  · rw [uids_eq_of_identities_eq (updateConnector_identities id owner type u now)]
    exact ht.uids
  · unfold UniqueKeys
    rw [updateConnector_naturalKeys]
    exact ht.keys
  · obtain ⟨r, hr, rfl⟩ := List.mem_map.1 hr'
    split
    · exact (ht.rows r hr).apply hu now
    · exact ht.rows r hr

end Update

section Rename

variable {id owner : String} {type : ConnectorType} {newId : String} {now : Instant}

theorem renameConnector_eq_ok_map (h : t.renameConnector id owner type newId now = .ok t') :
    t' = t ∨ ∃ uid, t'.definitions = t.definitions ∧
      t'.connectors = t.connectors.map fun r =>
        if r.uid == uid then { r with id := newId, updateTime := now.text } else r := by
  unfold renameConnector at h
  split at h
  · cases h
    exact .inl rfl
  · split at h
    · cases h
    · cases h
      exact .inr ⟨_, rfl, rfl⟩

theorem renameConnector_identities (h : t.renameConnector id owner type newId now = .ok t') :
    t'.connectors.map ConnectorRow.identity = t.connectors.map ConnectorRow.identity := by
  obtain rfl | ⟨uid, -, hc⟩ := renameConnector_eq_ok_map h
  · rfl
  · rw [hc, List.map_map]
    refine List.map_congr_left fun r _ => ?_
    simp only [Function.comp_apply]
    split <;> rfl

theorem WellKept.renameConnector (ht : t.WellKept R) (hid : ConnectorId.Matches newId)
    (h : t.renameConnector id owner type newId now = .ok t') : t'.WellKept R := by
  refine ⟨?_, renameConnector_uniqueKeys ht.uids ht.keys h, fun r' hr' => ?_⟩
  · rw [uids_eq_of_identities_eq (renameConnector_identities h)]
    exact ht.uids
  · obtain rfl | ⟨uid, -, hc⟩ := renameConnector_eq_ok_map h
    · exact ht.rows r' hr'
    · rw [hc] at hr'
      obtain ⟨r, hr, rfl⟩ := List.mem_map.1 hr'
      split
      · exact (ht.rows r hr).rename hid now
      · exact ht.rows r hr

end Rename

section CreateDelete

theorem WellKept.createConnector (ht : t.WellKept R) {c : Connector}
    (hc : t.createConnector c = .ok t') (hrow : c.toRow.Kept R) : t'.WellKept R := by
  obtain ⟨-, hconn, hfresh⟩ := createConnector_eq_ok hc
  refine ⟨?_, createConnector_uniqueKeys hc ht.keys, fun r hr => ?_⟩
  · rw [hconn, List.map_append, List.map_singleton, List.nodup_append]
    exact ⟨ht.uids, List.nodup_singleton _, fun a ha b hb => by
      rw [List.mem_singleton.1 hb]
      intro he
      rw [he] at ha
      exact hfresh ha⟩
  · rw [hconn, List.mem_append, List.mem_singleton] at hr
    rcases hr with hr | rfl
    · exact ht.rows r hr
    · exact hrow

theorem descends_createConnector {c : Connector} (hc : t.createConnector c = .ok t') :
    t.Descends (·.owner = c.owner) t' := by
  obtain ⟨-, hconn, hfresh⟩ := createConnector_eq_ok hc
  exact .inr ⟨c.toRow, rfl, hfresh, by rw [hconn, List.map_append, List.map_singleton]⟩

theorem WellKept.deleteConnector (ht : t.WellKept R) {id owner : String} {type : ConnectorType}
    (h : t.deleteConnector id owner type = .ok t') : t'.WellKept R := by
  have hsub := (deleteConnector_eq_ok h).2
  exact ⟨ht.uids.sublist (hsub.map _), ht.keys.sublist (hsub.map _),
    fun r hr => ht.rows r (hsub.subset hr)⟩

theorem descends_deleteConnector (added : ConnectorRow → Prop) {id owner : String}
    {type : ConnectorType} (h : t.deleteConnector id owner type = .ok t') :
    t.Descends added t' :=
  .inl ((deleteConnector_eq_ok h).2.map _)

end CreateDelete

end Tables

/-! ## The writes of the calls -/

namespace Plane

/-- The write a call can make on the tables `t` of a plane of registry `R`, with what the call
checked before it: `t'` is what the write leaves. The calls that only read make none. -/
def Call.Writes (R : Registry) : Call → Tables → Tables → Prop
  | .create owner type id definitionName _ configuration, t, t' =>
    ∃ definitionId d c, ConnectorId.check id = .ok () ∧ configuration.isObject = true ∧
      Names.definitionId definitionName = .ok definitionId ∧ R.byId? definitionId type = some d ∧
      c.id = id ∧ c.owner = owner.permalink ∧ c.definitionUid = d.uid ∧
      c.connectorType = d.connectorType ∧ c.configuration = some configuration ∧
      t.createConnector c = .ok t'
  | .update owner type name _ _, t, t' =>
    ∃ id u now, Names.connectorId name = .ok id ∧
      (∀ C, u.configuration = some C → C.isObject = true) ∧
      t' = t.updateConnector id owner.permalink type u now
  | .rename owner type name newId, t, t' =>
    ∃ id now, Names.connectorId name = .ok id ∧ ConnectorId.check newId = .ok () ∧
      t.renameConnector id owner.permalink type newId now = .ok t'
  | .delete owner type name, t, t' =>
    ∃ id, Names.connectorId name = .ok id ∧ t.deleteConnector id owner.permalink type = .ok t'
  | .disconnect owner type name, t, t' =>
    ∃ id now, Names.connectorId name = .ok id ∧
      t' = t.updateConnector id owner.permalink type { state := some .disconnected } now
  | .check ownerPermalink _, t, t' =>
    ∃ id type s now, t' = t.updateConnector id ownerPermalink type { state := some s } now
  | _, _, _ => False

/-- The rows a call may add: a `create` one its caller owns, the other calls none. -/
def Call.Adds : Call → ConnectorRow → Prop
  | .create owner .., r => r.owner = owner.permalink
  | _, _ => False

variable {α : Type} {p : Plane}

theorem run_drop_state (x : PlaneM α) :
    ((do let _ ← x : PlaneM Unit).run.run p).2 = (x.run.run p).2 := by
  cases hx : x.run.run p with
  | mk r p' =>
    cases r with
    | ok a => rw [run_bind_ok hx]; rfl
    | error e => rw [run_bind_error hx]

/-- **What a call does to the tables**: nothing, or the one write it can make. -/
theorem Call.run_tables (c : Call) (p : Plane) :
    (c.run.run.run p).2.tables = p.tables ∨
      c.Writes p.registry p.tables (c.run.run.run p).2.tables := by
  cases c with
  | create owner type id definitionName description configuration =>
    rw [Call.run, run_drop_state]
    obtain h | ⟨definitionId, d, c, hid, hobj, hdn, hd, hcid, howner, hdef, htype, hconf, hc, -⟩ :=
      create_effect (p := p) owner type id definitionName description configuration
    · exact .inl h
    · exact .inr ⟨definitionId, d, c, hid, hobj, hdn, hd, hcid, howner, hdef, htype, hconf, hc⟩
  | update owner type name description configuration =>
    rw [Call.run, run_drop_state]
    obtain ⟨err, h⟩ | ⟨id, e, patch, hid, -, hobj, hstrip, -, h⟩ :=
      update_run (p := p) owner type name description configuration
    · rw [h]
      exact .inl rfl
    · rw [h, load_masked_state]
      exact .inr ⟨id, _, _, hid, ConnectorUpdate.ofPatch_isObject hobj hstrip, rfl⟩
  | rename owner type name newId =>
    rw [Call.run, run_drop_state]
    obtain ⟨err, q, h, hq⟩ | ⟨id, t, hid, hcheck, hren, h⟩ :=
      rename_run (p := p) owner type name newId
    · rw [h]
      exact .inl hq
    · rw [h, load_masked_state]
      exact .inr ⟨id, _, hid, hcheck, hren⟩
  | delete owner type name =>
    rw [Call.run, run_drop_state]
    obtain ⟨err, h⟩ | ⟨id, loaded, t, hid, -, hdel, h⟩ := delete_run (p := p) owner type name
    · rw [h]
      exact .inl rfl
    · -- the teardown's submission touches the engine only
      rw [h, keepsTables_submit _ _ { p with tables := t }]
      exact .inr ⟨id, hid, hdel⟩
  | connect owner type name =>
    rw [Call.run, run_drop_state]
    exact .inl (keepsTables_connect name p)
  | disconnect owner type name =>
    rw [Call.run, run_drop_state]
    obtain ⟨err, h⟩ | ⟨id, -, hid, -, h⟩ := disconnect_run (p := p) owner type name
    · rw [h]
      exact .inl rfl
    · rw [h, load_masked_state]
      exact .inr ⟨id, _, hid, rfl⟩
  | test owner type name =>
    rw [Call.run, run_drop_state]
    exact .inl (keepsTables_test name p)
  | write owner name task data =>
    rw [Call.run, run_drop_state]
    exact .inl (keepsTables_writeRecords name task data p)
  | check ownerPermalink connectorPermalink =>
    rw [Call.run, run_drop_state]
    obtain ⟨err, h⟩ | ⟨-, c, s, -, -, h⟩ :=
      checkConnector_run (p := p) ownerPermalink connectorPermalink
    · rw [h]
      exact .inl rfl
    · rw [h]
      exact .inr ⟨c.id, c.connectorType, s, _, rfl⟩

variable {R : Registry} {c : Call} {t t' : Tables}

/-- **Every write keeps the table well kept**: a created row passed the checks of `create`, and
the other writes keep what they do not set. -/
theorem Call.Writes.wellKept (hR : R.Sound) (hw : c.Writes R t t') (ht : t.WellKept R) :
    t'.WellKept R := by
  cases c with
  | create owner type id definitionName description configuration =>
    obtain ⟨definitionId, d, c, hid, hobj, -, hd, hcid, howner, hdef, htype, hconf, hc⟩ := hw
    obtain ⟨hroute, -, -⟩ := hR.byId?_routed hd
    refine ht.createConnector hc ⟨?_, ?_, ⟨d, ?_, ?_⟩, ⟨owner, howner⟩⟩
    · show ConnectorId.Matches c.id
      rw [hcid]
      exact ConnectorId.check_eq_ok_iff.1 hid
    · cases configuration with
      | obj fs => exact ⟨fs, by simp [Connector.toRow, hconf]⟩
      | _ => cases hobj
    · show R.byUid? c.definitionUid = some d
      rw [hdef]
      exact hroute
    · exact htype
  | update owner type name description configuration =>
    obtain ⟨id, u, now, -, hu, rfl⟩ := hw
    exact ht.updateConnector _ _ _ _ _ hu
  | rename owner type name newId =>
    obtain ⟨id, now, -, hcheck, hren⟩ := hw
    exact ht.renameConnector (ConnectorId.check_eq_ok_iff.1 hcheck) hren
  | delete owner type name =>
    obtain ⟨id, -, hdel⟩ := hw
    exact ht.deleteConnector hdel
  | disconnect owner type name =>
    obtain ⟨id, now, -, rfl⟩ := hw
    exact ht.updateConnector _ _ _ _ _ fun C hC => by simp at hC
  | check ownerPermalink connectorPermalink =>
    obtain ⟨id, type, s, now, rfl⟩ := hw
    exact ht.updateConnector _ _ _ _ _ fun C hC => by simp at hC
  | connect | test | write => exact hw.elim

/-- **Every write keeps the rows' identities**; only `create` adds one, which its caller owns. -/
theorem Call.Writes.descends (hw : c.Writes R t t') : t.Descends c.Adds t' := by
  cases c with
  | create owner type id definitionName description configuration =>
    obtain ⟨-, -, c, -, -, -, -, -, howner, -, -, -, hc⟩ := hw
    obtain h | ⟨r, hr, hfresh, heq⟩ := Tables.descends_createConnector hc
    · exact .inl h
    · exact .inr ⟨r, hr.trans howner, hfresh, heq⟩
  | update owner type name description configuration =>
    obtain ⟨id, u, now, -, -, rfl⟩ := hw
    exact Tables.descends_of_identities_eq _ (Tables.updateConnector_identities _ _ _ _ _)
  | rename owner type name newId =>
    obtain ⟨id, now, -, -, hren⟩ := hw
    exact Tables.descends_of_identities_eq _ (Tables.renameConnector_identities hren)
  | delete owner type name =>
    obtain ⟨id, -, hdel⟩ := hw
    exact Tables.descends_deleteConnector _ hdel
  | disconnect owner type name =>
    obtain ⟨id, now, -, rfl⟩ := hw
    exact Tables.descends_of_identities_eq _ (Tables.updateConnector_identities _ _ _ _ _)
  | check ownerPermalink connectorPermalink =>
    obtain ⟨id, type, s, now, rfl⟩ := hw
    exact Tables.descends_of_identities_eq _ (Tables.updateConnector_identities _ _ _ _ _)
  | connect | test | write => exact hw.elim

/-! ## Runs -/

/-- The tables that calls, run one at a time from an empty store on planes of registry `R`,
leave; whatever else those planes hold. -/
inductive Reachable (R : Registry) : Tables → Prop
  | empty : Reachable R {}
  | call {p : Plane} (c : Call) : Reachable R p.tables → p.registry = R →
      Reachable R (c.run.run.run p).2.tables

theorem Call.run_wellKept (hR : p.registry.Sound) (c : Call) (ht : p.tables.WellKept p.registry) :
    (c.run.run.run p).2.tables.WellKept p.registry := by
  obtain h | hw := c.run_tables p
  · exact h ▸ ht
  · exact hw.wellKept hR ht

theorem Reachable.wellKept (hR : R.Sound) (h : Reachable R t) : t.WellKept R := by
  induction h with
  | empty => exact Tables.wellKept_empty R
  | call c _ hp ih =>
    subst hp
    exact c.run_wellKept hR ih

/-- **The connector table stays well kept.** Against a registry built from well-formed families,
every table that the calls of the services and the check task reach from an empty store, one
at a time, holds no uid and no (id, owner, type) twice, and only rows whose id matches the
documented pattern, whose configuration is an object, whose type is that of the definition
their uid names and whose owner is a user's permalink; and a call from it keeps every row's
uid, owner, definition and creation time, adding a row only when it is a `create`, of a new
uid and owned by its caller. -/
theorem services_keep_connector_rows {fs : List Family} (hfs : ∀ f ∈ fs, f.WellFormed)
    (hb : Registry.build fs = .ok p.registry) (hreach : Reachable p.registry p.tables)
    (c : Call) :
    p.tables.WellKept p.registry ∧ p.tables.Descends c.Adds (c.run.run.run p).2.tables := by
  refine ⟨hreach.wellKept (Registry.sound_of_build hfs hb), ?_⟩
  obtain h | hw := c.run_tables p
  · rw [h]
    exact Tables.descends_refl _ _
  · exact hw.descends

/-- Creating a connector on `passwordPlane`, whose empty store is reachable. -/
theorem first_connector_row_kept :
    (∀ f ∈ [passwordFamily], f.WellFormed) ∧
      Registry.build [passwordFamily] = .ok passwordPlane.registry ∧
      Reachable passwordPlane.registry passwordPlane.tables ∧
      passwordPlane.tables.WellKept passwordPlane.registry ∧
      passwordPlane.tables.Descends
        (Call.create ⟨Uuid.ofNat 1, "x"⟩ .destination "db" "connector-definitions/pg" ""
          (.obj [("host", .str "h")])).Adds
        ((Call.create ⟨Uuid.ofNat 1, "x"⟩ .destination "db" "connector-definitions/pg" ""
          (.obj [("host", .str "h")])).run.run.run passwordPlane).2.tables :=
  ⟨passwordFamily_wellFormed, build_passwordFamily, .empty,
    services_keep_connector_rows passwordFamily_wellFormed build_passwordFamily .empty _⟩

end Plane

end ConnectorPlane
