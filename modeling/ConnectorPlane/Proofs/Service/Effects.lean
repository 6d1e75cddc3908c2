import ConnectorPlane.Proofs.Catalog.Routing
import ConnectorPlane.Proofs.Service.LoadedRow

/-! # What each request does to the store

Each operation of the connector service makes at most one write to the store, and every step
before the write either passes or ends the operation with the tables as they were. What follows
the write reads the store back (`update`, `rename`, `disconnect` reload the connector and mask
it) or submits a workflow (`delete`); a failure there ends the operation with the write kept,
since no transaction spans the calls.

* `Plane.create_effect`, `Plane.update_run`, `Plane.rename_run`, `Plane.delete_run`,
  `Plane.disconnect_run`: each operation's run, as a failure that leaves the tables, or its
  write followed by what it does after.
* `Plane.keepsTables_connect`, `Plane.keepsTables_test`, `Plane.keepsTables_writeRecords`:
  the operations that only read the store.
* `Registry.Sound`: what a built registry keeps (`Registry.sound_of_build`); there every
  definition found by id has its credential paths, so a created connector can always be masked.
* `Plane.failed_requests_keep_all_but_their_write`: a failed request leaves the store as it was,
  or, for `delete`, `update`, `rename` and `disconnect` failing after their write, exactly as
  that write left it.
-/

namespace ConnectorPlane

namespace Json

theorem mergePatch_isObject (t : Json) {v : Json} (hv : v.isObject = true) :
    (t.mergePatch v).isObject = true := by
  cases v with
  | obj fs => simp [mergePatch, isObject]
  | _ => cases hv

theorem strip_isObject (P : String → Bool) {v : Json} (hv : v.isObject = true) :
    (v.strip P).isObject = true := by
  cases v <;> first | rfl | cases hv

end Json

namespace Registry

theorem strip_isObject {R : Registry} {uid : Uuid} {v v' : Json} (h : R.strip uid v = .ok v')
    (hv : v.isObject = true) : v'.isObject = true := by
  cases hP : R.credentialPredicate uid with
  | error err =>
    rw [Registry.strip, hP] at h
    cases h
  | ok P =>
    rw [Registry.strip_eq_ok hP] at h
    cases h
    exact Json.strip_isObject P hv

/-- What a registry keeps once built: well-formed families, no uid and no (type, id) key twice. -/
structure Sound (r : Registry) : Prop where
  families : ∀ f ∈ r.families, f.WellFormed
  uids : (r.families.flatMap Family.uids).Nodup
  keys : (r.families.flatMap Family.keys).Nodup

theorem sound_of_build {fs : List Family} {r : Registry} (hfs : ∀ f ∈ fs, f.WellFormed)
    (hb : build fs = .ok r) : r.Sound := by
  obtain ⟨hu, hk, rfl⟩ := build_eq_ok_iff.1 hb
  exact ⟨fun f hf => hfs f ((orderFamilies_perm fs).mem_iff.1 hf), hu, hk⟩

variable {r : Registry} {id : String} {t : ConnectorType} {d : Definition}

theorem Sound.byId?_routed (hr : r.Sound) (h : r.byId? id t = some d) :
    r.byUid? d.uid = some d ∧ d.connectorType = t ∧
      ∃ P, r.credentialPredicate d.uid = .ok P := by
  obtain ⟨⟨f, hf, hd⟩, -, ht⟩ := byId?_sound hr.families h
  exact ⟨byUid?_eq_some hr.uids hf hd, ht, _, credentialPredicate_eq_ok hr.uids hf hd⟩

end Registry

/-- The change `update` writes over the connector `e` it loaded, given its patch less the masked
credentials: the description as given, and the stored configuration (an empty object if none)
with the patch merged in. -/
def ConnectorUpdate.ofPatch (description : Option String) (e : Connector) (patch : Option Json) :
    ConnectorUpdate :=
  { description, configuration := patch.map (e.configuration.getD (.obj [])).mergePatch }

theorem ConnectorUpdate.ofPatch_isObject {R : Registry} {description : Option String}
    {e : Connector} {configuration patch : Option Json}
    (hobj : ∀ P, configuration = some P → P.isObject = true)
    (hstrip : configuration.mapM (R.strip e.definitionUid) = .ok patch) :
    ∀ C, (ofPatch description e patch).configuration = some C → C.isObject = true := by
  intro C hC
  cases configuration with
  | none =>
    cases hstrip
    cases hC
  | some P =>
    cases hP : R.strip e.definitionUid P with
    | error err =>
      rw [Option.mapM_some, hP] at hstrip
      cases hstrip
    | ok P' =>
      rw [Option.mapM_some, hP] at hstrip
      cases hstrip
      cases hC
      exact Json.mergePatch_isObject _ (Registry.strip_isObject hP (hobj P rfl))

/-- The error of a failed read back or masking: a store read's or the registry's. -/
def ServiceError.OfReadBack (e : ServiceError) : Prop :=
  (∃ se, e = .ofStore se) ∨ ∃ re, e = .ofRegistry re

namespace Plane

variable {α β : Type} {p : Plane} {owner : Owner} {type : ConnectorType} {name : String}

/-! ## The steps -/

section Steps

theorem run_set {q : Plane} : (set q : PlaneM Unit).run.run p = (.ok (), q) := rfl

theorem run_bind_congr {x y : PlaneM α} {f : α → PlaneM β} {q : Plane}
    (h : x.run.run p = y.run.run q) : (x >>= f).run.run p = (y >>= f).run.run q := by
  simp only [ExceptT.run_bind, StateT.run_bind, h]

theorem run_write_ok {f : Tables → Except StoreError Tables} {t : Tables}
    (h : f p.tables = .ok t) :
    (write f).run.run p = (.ok (), { p with tables := t }) := by
  rw [write, run_bind_ok run_get, run_bind_ok (run_ofStore_ok h)]
  rfl

theorem run_write_error {f : Tables → Except StoreError Tables} {e : StoreError}
    (h : f p.tables = .error e) : (write f).run.run p = (.error (.ofStore e), p) := by
  rw [write, run_bind_ok run_get, run_bind_error (run_ofStore_error h)]

theorem run_newConnectorUid : ∃ u q, newConnectorUid.run.run p = (.ok u, q) ∧
    q.tables = p.tables ∧ q.registry = p.registry := by
  unfold newConnectorUid
  rw [run_bind_ok run_get]
  cases p.stamping <;> exact ⟨_, _, rfl, rfl, rfl⟩

/-- `insertConnector` creates the connector as the plane stamps it: only its uid and times may
differ from the one given. -/
theorem run_insertConnector (c : Connector) :
    ∃ c' q, c'.id = c.id ∧ c'.owner = c.owner ∧ c'.definitionUid = c.definitionUid ∧
      c'.connectorType = c.connectorType ∧ c'.configuration = c.configuration ∧
      q.tables = p.tables ∧ q.registry = p.registry ∧
      (insertConnector c).run.run p = (write (·.createConnector c')).run.run q := by
  unfold insertConnector
  rw [run_bind_ok run_get]
  dsimp only
  rw [run_bind_ok run_set]
  refine ⟨_, { p with inserted := p.inserted + 1 }, ?_, ?_, ?_, ?_, ?_, rfl, rfl, rfl⟩ <;>
    cases p.stamping <;> rfl

section Find

variable {id ownerPermalink : String}

theorem run_find_ok {c : Connector}
    (h : p.tables.getConnectorById id ownerPermalink type .basic = .ok c) :
    (find id ownerPermalink type).run.run p = (.ok (some c), p) := by
  rw [find, run_bind_ok run_tables]
  simp only [h]
  rfl

theorem run_find_notFound {what : String}
    (h : p.tables.getConnectorById id ownerPermalink type .basic = .error (.notFound what)) :
    (find id ownerPermalink type).run.run p = (.ok none, p) := by
  rw [find, run_bind_ok run_tables]
  simp only [h]
  rfl

theorem run_find_error {e : StoreError} (he : ∀ what, e ≠ .notFound what)
    (h : p.tables.getConnectorById id ownerPermalink type .basic = .error e) :
    (find id ownerPermalink type).run.run p = (.error (.ofStore e), p) := by
  rw [find, run_bind_ok run_tables]
  simp only [h]
  rfl

theorem run_find_cases (id ownerPermalink : String) (type : ConnectorType) :
    (∃ c, (find id ownerPermalink type).run.run p = (.ok (some c), p)) ∨
    (find id ownerPermalink type).run.run p = (.ok none, p) ∨
    ∃ e, (find id ownerPermalink type).run.run p = (.error e, p) := by
  cases h : p.tables.getConnectorById id ownerPermalink type .basic with
  | ok c => exact .inl ⟨c, run_find_ok h⟩
  | error e =>
    by_cases hnf : ∃ w, e = .notFound w
    · obtain ⟨w, rfl⟩ := hnf
      exact .inr (.inl (run_find_notFound h))
    · exact .inr (.inr ⟨_, run_find_error (fun w he => hnf ⟨w, he⟩) h⟩)

end Find

theorem run_submit (options : StartOptions) (params : WorkflowParams) :
    ∃ q : Plane, q.tables = p.tables ∧ q.registry = p.registry ∧
      ((∃ run, (submit options params).run.run p = (.ok run, q)) ∨
        ∃ e, (submit options params).run.run p = (.error (.ofWorkflow e), q)) := by
  unfold submit
  have hstart : (liftM (startWorkflow options params.kind params.toJson) : PlaneM _).run.run p =
      (.ok ((startWorkflow options params.kind params.toJson).run p).1,
        ((startWorkflow options params.kind params.toJson).run p).2) := rfl
  rw [run_bind_ok hstart]
  refine ⟨((startWorkflow options params.kind params.toJson).run p).2, rfl, rfl, ?_⟩
  cases ((startWorkflow options params.kind params.toJson).run p).1 with
  | ok run => exact .inl ⟨run, rfl⟩
  | error e => exact .inr ⟨e, rfl⟩

/-- Reading a connector back and masking it leaves the tables, and fails only as the read or
the masking does. -/
theorem readBack_error (id : String) (view : View) {e : ServiceError} {q : Plane}
    (h : (load id owner type view >>= masked).run.run p = (.error e, q)) :
    q.tables = p.tables ∧ e.OfReadBack := by
  have hq : q = p := by
    have hstate := load_masked_state (p := p) id owner type view
    rwa [h] at hstate
  subst hq
  refine ⟨rfl, ?_⟩
  cases hl : q.tables.getConnectorById id owner.permalink type view with
  | error se =>
    rw [run_bind_error (run_load_error hl)] at h
    cases h
    exact .inl ⟨se, rfl⟩
  | ok c =>
    rw [run_bind_ok (run_load hl)] at h
    unfold masked at h
    split at h
    · cases h
    · rw [run_bind_ok run_get] at h
      cases hm : q.registry.mask c.definitionUid _ with
      | error re =>
        rw [run_bind_error (run_ofRegistry_error hm)] at h
        cases h
        exact .inr ⟨re, rfl⟩
      | ok conf =>
        rw [run_bind_ok (run_ofRegistry_ok hm)] at h
        cases h

end Steps

/-! ## The operations that only read the store -/

/-- `x` leaves the tables of every plane as they were, whatever it returns. -/
def KeepsTables (x : PlaneM α) : Prop := ∀ p : Plane, (x.run.run p).2.tables = p.tables

section KeepsTables

theorem keepsTables_bind {x : PlaneM α} {f : α → PlaneM β} (hx : KeepsTables x)
    (hf : ∀ a, KeepsTables (f a)) : KeepsTables (x >>= f) := by
  intro p
  simp only [ExceptT.run_bind, StateT.run_bind]
  generalize hq : x.run.run p = q
  obtain ⟨r, p'⟩ := q
  have hp' : p'.tables = p.tables := by rw [← hx p, hq]
  cases r with
  | error e => exact hp'
  | ok a => exact (hf a p').trans hp'

theorem keepsTables_pure (a : α) : KeepsTables (pure a : PlaneM α) := fun _ => rfl

theorem keepsTables_fail (e : ServiceError) : KeepsTables (fail e : PlaneM α) := fun _ => rfl

theorem keepsTables_get : KeepsTables (get : PlaneM Plane) := fun _ => rfl

theorem keepsTables_ofExcept (r : Except ServiceError α) : KeepsTables (ofExcept r) := by
  intro p
  cases r <;> rfl

theorem keepsTables_ofRegistry (r : Except RegistryError α) : KeepsTables (ofRegistry r) := by
  intro p
  cases r <;> rfl

theorem keepsTables_now : KeepsTables (liftM now : PlaneM Instant) := fun _ => rfl

theorem keepsTables_load (id : String) (view : View) : KeepsTables (load id owner type view) := by
  intro p
  cases h : p.tables.getConnectorById id owner.permalink type view with
  | ok c => rw [run_load h]
  | error e => rw [run_load_error h]

theorem keepsTables_masked (c : Connector) : KeepsTables (masked c) := fun _ => by
  rw [masked_state]

theorem keepsTables_submit (options : StartOptions) (params : WorkflowParams) :
    KeepsTables (submit options params) := by
  intro p
  obtain ⟨q, hq, -, ⟨_, h⟩ | ⟨_, h⟩⟩ := run_submit (p := p) options params <;>
    rw [h] <;> exact hq

theorem keepsTables_connect (name : String) : KeepsTables (connect owner type name) := by
  unfold connect
  refine keepsTables_bind (keepsTables_ofExcept _) fun id => ?_
  refine keepsTables_bind (keepsTables_load _ _) fun connector => ?_
  refine keepsTables_bind keepsTables_get fun _ => ?_
  refine keepsTables_bind (keepsTables_ofRegistry _) fun definition => ?_
  refine keepsTables_bind keepsTables_get fun _ => ?_
  refine keepsTables_bind (keepsTables_submit _ _) fun run => ?_
  exact keepsTables_bind (keepsTables_masked _) fun _ => keepsTables_pure _

theorem keepsTables_test (name : String) : KeepsTables (test owner type name) := by
  unfold test
  refine keepsTables_bind (keepsTables_ofExcept _) fun id => ?_
  refine keepsTables_bind (keepsTables_load _ _) fun connector => ?_
  refine keepsTables_bind keepsTables_get fun _ => ?_
  exact keepsTables_bind (keepsTables_ofRegistry _) fun _ => keepsTables_pure _

theorem keepsTables_writeRecords (name : String) (task : ModelTask) (data : Json) :
    KeepsTables (writeRecords owner name task data) := by
  unfold writeRecords
  refine keepsTables_bind (keepsTables_ofExcept _) fun id => ?_
  refine keepsTables_bind (keepsTables_load _ _) fun connector => ?_
  have hsubmit : KeepsTables (do
      let batch ← ofExcept (RecordBatch.ofPayload task data)
      let definition ← ofRegistry ((← get).registry.byUid connector.definitionUid)
      let t ← liftM now
      let options := (← get).dispatcher.options connector.permalink .write
      submit options (.write ⟨owner.permalink, connector.permalink, definition.image, options.id,
        Json.compact batch.configuredCatalog, batch.messages t.unixMillis⟩)) := by
    refine keepsTables_bind (keepsTables_ofExcept _) fun batch => ?_
    refine keepsTables_bind keepsTables_get fun _ => ?_
    refine keepsTables_bind (keepsTables_ofRegistry _) fun definition => ?_
    refine keepsTables_bind keepsTables_now fun t => ?_
    exact keepsTables_bind keepsTables_get fun _ => keepsTables_submit _ _
  split
  · exact keepsTables_bind (keepsTables_fail _) fun _ => hsubmit
  · exact hsubmit

end KeepsTables

/-! ## The operations that write -/

section Writes

variable (owner type name)

/-- **What `create` does to the store**: nothing, or it creates a connector of the id, the owner,
the configuration (an object) and the registry's definition named, after checking the id; a
connector it creates is returned whenever its definition's credential paths are known. -/
theorem create_effect (id definitionName description : String) (configuration : Json) :
    ((create owner type id definitionName description configuration).run.run p).2.tables =
        p.tables ∨
      ∃ definitionId d c, ConnectorId.check id = .ok () ∧ configuration.isObject = true ∧
        Names.definitionId definitionName = .ok definitionId ∧
        p.registry.byId? definitionId type = some d ∧
        c.id = id ∧ c.owner = owner.permalink ∧ c.definitionUid = d.uid ∧
        c.connectorType = d.connectorType ∧ c.configuration = some configuration ∧
        p.tables.createConnector c =
          .ok ((create owner type id definitionName description configuration).run.run
            p).2.tables ∧
        ∀ P, p.registry.credentialPredicate d.uid = .ok P →
          ∃ c', ((create owner type id definitionName description configuration).run.run p).1 =
            .ok c' := by
  cases hid : ConnectorId.check id with
  | error e => exact .inl (by rw [create, run_bind_error (run_ofExcept_error hid)])
  | ok u =>
  by_cases hobj : configuration.isObject = true
  swap
  · left
    rw [create, run_bind_ok (run_ofExcept_ok hid)]
    simp only [hobj, Bool.false_eq_true, ↓reduceIte]
    rw [run_bind_error run_fail]
  cases hdn : Names.definitionId definitionName with
  | error e =>
    left
    rw [create, run_bind_ok (run_ofExcept_ok hid)]
    simp only [hobj, ↓reduceIte]
    rw [run_bind_error (run_ofExcept_error hdn)]
  | ok definitionId =>
  cases hd : p.registry.byId? definitionId type with
  | none =>
    left
    rw [create, run_bind_ok (run_ofExcept_ok hid)]
    simp only [hobj, ↓reduceIte]
    rw [run_bind_ok (run_ofExcept_ok hdn), run_bind_ok run_get]
    simp only [hd]
    rw [run_fail]
  | some d =>
  obtain ⟨uid, q, hq, hqt, hqr⟩ := run_newConnectorUid (p := p)
  rw [create, run_bind_ok (run_ofExcept_ok hid)]
  simp only [hobj, ↓reduceIte]
  rw [run_bind_ok (run_ofExcept_ok hdn), run_bind_ok run_get]
  simp only [hd]
  rw [run_bind_ok hq, run_bind_ok run_now]
  cases hf : p.tables.getConnectorById id owner.permalink type .basic with
  | ok c =>
    left
    rw [run_bind_ok (run_find_ok (by exact hqt ▸ hf))]
    simp only [Option.isSome_some, ↓reduceIte]
    rw [run_bind_error run_fail]
    exact hqt
  | error e =>
  by_cases hnf : ∃ w, e = .notFound w
  swap
  · left
    rw [run_bind_error (run_find_error (fun w he => hnf ⟨w, he⟩) (by exact hqt ▸ hf))]
    exact hqt
  obtain ⟨w, rfl⟩ := hnf
  rw [run_bind_ok (run_find_notFound (by exact hqt ▸ hf))]
  simp only [Option.isSome_none, Bool.false_eq_true, ↓reduceIte]
  obtain ⟨c', q₂, hid', howner', hdef', htype', hconf', hq₂t, hq₂r, hins⟩ :=
    run_insertConnector (p := { q with clock := q.clock.read.2 })
      { uid, id, owner := owner.permalink, definitionUid := d.uid
        connectorType := d.connectorType, description
        configuration := some configuration, state := .disconnected, tombstone := false
        createTime := q.clock.read.1, updateTime := q.clock.read.1 }
  rw [run_bind_congr hins]
  cases hc : p.tables.createConnector c' with
  | error e =>
    left
    rw [run_bind_error (run_write_error (by exact (hq₂t.trans hqt) ▸ hc))]
    exact hq₂t.trans hqt
  | ok t' =>
    right
    rw [run_bind_ok (run_write_ok (by exact (hq₂t.trans hqt) ▸ hc)), masked_state]
    refine ⟨definitionId, d, c', trivial, trivial, rfl, hd, hid', howner', hdef', htype', hconf',
      hc, fun P hP => ?_⟩
    exact ⟨_, by rw [run_masked rfl (by exact hq₂r.trans hqr ▸ hP)]⟩

/-- **The run of `update`**: it fails before writing, or it loads the connector by name, strips
the masked credentials from its patch, an object, and writes the description and the patched
configuration on the connector's row, then reads the connector back. -/
theorem update_run (description : Option String) (configuration : Option Json) :
    (∃ err, (update owner type name description configuration).run.run p = (.error err, p)) ∨
    ∃ id e patch, Names.connectorId name = .ok id ∧
      p.tables.getConnectorById id owner.permalink type .full = .ok e ∧
      (∀ P, configuration = some P → P.isObject = true) ∧
      configuration.mapM (p.registry.strip e.definitionUid) = .ok patch ∧
      (ConnectorUpdate.ofPatch description e patch).isEmpty = false ∧
      (update owner type name description configuration).run.run p =
        (load id owner type .full >>= masked).run.run
          { p with clock := p.clock.read.2,
                   tables := p.tables.updateConnector id owner.permalink type
                     (ConnectorUpdate.ofPatch description e patch) p.clock.read.1 } := by
  cases hid : Names.connectorId name with
  | error err => exact .inl ⟨err, by rw [update, run_bind_error (run_ofExcept_error hid)]⟩
  | ok id =>
  cases hload : p.tables.getConnectorById id owner.permalink type .full with
  | error err =>
    exact .inl ⟨_, by
      rw [update, run_bind_ok (run_ofExcept_ok hid), run_bind_error (run_load_error hload)]⟩
  | ok e =>
  rw [update, run_bind_ok (run_ofExcept_ok hid), run_bind_ok (run_load hload)]
  cases configuration with
  | none =>
    dsimp only
    rw [pure_bind]
    by_cases hempty : ({ description, configuration := none } : ConnectorUpdate).isEmpty = true
    · rw [if_pos hempty, run_bind_error run_fail]
      exact .inl ⟨_, rfl⟩
    · rw [if_neg hempty, run_bind_ok run_now, run_bind_ok run_modify]
      exact .inr ⟨id, e, none, rfl, hload, (fun P hP => by cases hP), rfl,
        Bool.eq_false_iff.2 hempty, rfl⟩
  | some patch =>
    dsimp only
    by_cases hobj : patch.isObject = true
    · rw [if_pos hobj, run_bind_ok run_get]
      cases hstrip : p.registry.strip e.definitionUid patch with
      | error err =>
        rw [run_bind_error (run_ofRegistry_error rfl)]
        exact .inl ⟨_, rfl⟩
      | ok patch' =>
        rw [run_bind_ok (run_ofRegistry_ok rfl), pure_bind]
        simp only [ConnectorUpdate.isEmpty, Option.isNone_some, Bool.and_false, Bool.false_and,
          Bool.false_eq_true, ↓reduceIte]
        rw [run_bind_ok run_now, run_bind_ok run_modify]
        have hmap : (some patch).mapM (p.registry.strip e.definitionUid) = .ok (some patch') := by
          rw [Option.mapM_some, hstrip]
          rfl
        refine .inr ⟨id, e, some patch', rfl, hload, fun P hP => ?_, hmap, ?_, rfl⟩
        · cases hP
          exact hobj
        · simp [ConnectorUpdate.ofPatch]
    · rw [if_neg hobj, run_bind_error run_fail]
      exact .inl ⟨_, rfl⟩

/-- **The run of `rename`**: it fails with the tables as they were, or it renames, after checking
the new id, and reads the connector back under its new id. -/
theorem rename_run (newId : String) :
    (∃ err q, (rename owner type name newId).run.run p = (.error err, q) ∧
      q.tables = p.tables) ∨
    ∃ id t, Names.connectorId name = .ok id ∧ ConnectorId.check newId = .ok () ∧
      p.tables.renameConnector id owner.permalink type newId p.clock.read.1 = .ok t ∧
      (rename owner type name newId).run.run p =
        (load newId owner type .full >>= masked).run.run
          { p with clock := p.clock.read.2, tables := t } := by
  cases hid : Names.connectorId name with
  | error err =>
    exact .inl ⟨err, p, by rw [rename, run_bind_error (run_ofExcept_error hid)], rfl⟩
  | ok id =>
  cases hcheck : ConnectorId.check newId with
  | error err =>
    exact .inl ⟨err, p, by
      rw [rename, run_bind_ok (run_ofExcept_ok hid), run_bind_error (run_ofExcept_error hcheck)],
      rfl⟩
  | ok u =>
  cases hload : p.tables.getConnectorById id owner.permalink type .basic with
  | error err =>
    exact .inl ⟨_, p, by
      rw [rename, run_bind_ok (run_ofExcept_ok hid), run_bind_ok (run_ofExcept_ok hcheck),
        run_bind_error (run_load_error hload)], rfl⟩
  | ok e =>
  have hfree : (∃ err, (rename owner type name newId).run.run p = (.error err, p)) ∨
      (rename owner type name newId).run.run p =
        (do let t ← liftM now; write (·.renameConnector id owner.permalink type newId t)
            masked (← load newId owner type .full)).run.run p := by
    rw [rename, run_bind_ok (run_ofExcept_ok hid), run_bind_ok (run_ofExcept_ok hcheck),
      run_bind_ok (run_load hload)]
    dsimp only
    by_cases hne : id ≠ newId
    · rw [if_pos hne]
      obtain ⟨c, hf⟩ | hf | ⟨err, hf⟩ := run_find_cases (p := p) newId owner.permalink type
      · rw [run_bind_ok hf]
        exact .inl ⟨_, run_bind_error run_fail⟩
      · rw [run_bind_ok hf]
        exact .inr rfl
      · exact .inl ⟨err, run_bind_error hf⟩
    · rw [if_neg hne]
      exact .inr rfl
  obtain ⟨err, h⟩ | h := hfree
  · exact .inl ⟨err, p, h, rfl⟩
  rw [h, run_bind_ok run_now]
  cases hren : p.tables.renameConnector id owner.permalink type newId p.clock.read.1 with
  | error err => exact .inl ⟨_, _, run_bind_error (run_write_error hren), rfl⟩
  | ok t => exact .inr ⟨id, t, rfl, rfl, hren, run_bind_ok (run_write_ok hren)⟩

/-- **The run of `delete`**: it fails before writing, or it removes the connector it loaded by
name and submits the teardown of its container. -/
theorem delete_run :
    (∃ err, (delete owner type name).run.run p = (.error err, p)) ∨
    ∃ id c t, Names.connectorId name = .ok id ∧
      p.tables.getConnectorById id owner.permalink type .basic = .ok c ∧
      p.tables.deleteConnector id owner.permalink type = .ok t ∧
      (delete owner type name).run.run p =
        (submit (p.dispatcher.options c.permalink .delete)
          (.delete ⟨(p.dispatcher.options c.permalink .delete).id⟩)).run.run
          { p with tables := t } := by
  cases hid : Names.connectorId name with
  | error err => exact .inl ⟨err, by rw [delete, run_bind_error (run_ofExcept_error hid)]⟩
  | ok id =>
  cases hload : p.tables.getConnectorById id owner.permalink type .basic with
  | error err =>
    exact .inl ⟨_, by
      rw [delete, run_bind_ok (run_ofExcept_ok hid), run_bind_error (run_load_error hload)]⟩
  | ok c =>
  cases hdel : p.tables.deleteConnector id owner.permalink type with
  | error err =>
    exact .inl ⟨_, by
      rw [delete, run_bind_ok (run_ofExcept_ok hid), run_bind_ok (run_load hload),
        run_bind_error (run_write_error hdel)]⟩
  | ok t =>
    refine .inr ⟨id, c, t, rfl, hload, hdel, ?_⟩
    rw [delete, run_bind_ok (run_ofExcept_ok hid), run_bind_ok (run_load hload),
      run_bind_ok (run_write_ok hdel), run_bind_ok run_get]

/-- **The run of `disconnect`**: it fails before writing, or it marks the connector it loaded by
name disconnected and reads it back. -/
theorem disconnect_run :
    (∃ err, (disconnect owner type name).run.run p = (.error err, p)) ∨
    ∃ id c, Names.connectorId name = .ok id ∧
      p.tables.getConnectorById id owner.permalink type .basic = .ok c ∧
      (disconnect owner type name).run.run p =
        (load id owner type .full >>= masked).run.run
          { p with clock := p.clock.read.2,
                   tables := p.tables.updateConnector id owner.permalink type
                     { state := some .disconnected } p.clock.read.1 } := by
  cases hid : Names.connectorId name with
  | error err => exact .inl ⟨err, by rw [disconnect, run_bind_error (run_ofExcept_error hid)]⟩
  | ok id =>
  cases hload : p.tables.getConnectorById id owner.permalink type .basic with
  | error err =>
    exact .inl ⟨_, by
      rw [disconnect, run_bind_ok (run_ofExcept_ok hid), run_bind_error (run_load_error hload)]⟩
  | ok c =>
    refine .inr ⟨id, c, rfl, hload, ?_⟩
    rw [disconnect, run_bind_ok (run_ofExcept_ok hid), run_bind_ok (run_load hload),
      run_bind_ok run_now, run_bind_ok run_modify]

/-- **The run of the check task**: it fails before writing, or it stores a state on the row of
the connector it read by uid. -/
theorem checkConnector_run (ownerPermalink connectorPermalink : String) :
    (∃ err, (checkConnector ownerPermalink connectorPermalink).run.run p = (.error err, p)) ∨
    ∃ uid c s, Names.uid connectorPermalink = .ok uid ∧
      p.tables.lookupConnector uid ownerPermalink .full = .ok c ∧
      (checkConnector ownerPermalink connectorPermalink).run.run p =
        (.ok s, { p with clock := p.clock.read.2,
                         tables := p.tables.updateConnector c.id ownerPermalink c.connectorType
                           { state := some s } p.clock.read.1 }) := by
  cases huid : Names.uid connectorPermalink with
  | error err =>
    exact .inl ⟨err, by rw [checkConnector, run_bind_error (run_ofExcept_error huid)]⟩
  | ok uid =>
  cases hload : p.tables.lookupConnector uid ownerPermalink .full with
  | error err =>
    exact .inl ⟨_, by
      rw [checkConnector, run_bind_ok (run_ofExcept_ok huid), run_bind_ok run_tables,
        run_bind_error (run_ofStore_error hload)]⟩
  | ok c =>
    right
    rw [checkConnector, run_bind_ok (run_ofExcept_ok huid), run_bind_ok run_tables,
      run_bind_ok (run_ofStore_ok hload), run_bind_ok run_get, run_bind_ok run_now,
      run_bind_ok run_modify]
    exact ⟨uid, c, _, rfl, hload, rfl⟩

end Writes

/-! ## Calls -/

/-- One call of the connector service, or one run of the check task, with its arguments. -/
inductive Call where
  | create (owner : Owner) (type : ConnectorType) (id definitionName description : String)
      (configuration : Json)
  | update (owner : Owner) (type : ConnectorType) (name : String) (description : Option String)
      (configuration : Option Json)
  | rename (owner : Owner) (type : ConnectorType) (name newId : String)
  | delete (owner : Owner) (type : ConnectorType) (name : String)
  | connect (owner : Owner) (type : ConnectorType) (name : String)
  | disconnect (owner : Owner) (type : ConnectorType) (name : String)
  | test (owner : Owner) (type : ConnectorType) (name : String)
  | write (owner : Owner) (name : String) (task : ModelTask) (data : Json)
  | check (ownerPermalink connectorPermalink : String)

/-- The operation a call runs, its answer dropped. -/
def Call.run : Call → PlaneM Unit
  | .create owner type id definitionName description configuration => do
    let _ ← Plane.create owner type id definitionName description configuration
  | .update owner type name description configuration => do
    let _ ← Plane.update owner type name description configuration
  | .rename owner type name newId => do let _ ← Plane.rename owner type name newId
  | .delete owner type name => do let _ ← Plane.delete owner type name
  | .connect owner type name => do let _ ← Plane.connect owner type name
  | .disconnect owner type name => do let _ ← Plane.disconnect owner type name
  | .test owner type name => do let _ ← Plane.test owner type name
  | .write owner name task data => do let _ ← writeRecords owner name task data
  | .check ownerPermalink connectorPermalink => do
    let _ ← checkConnector ownerPermalink connectorPermalink

/-- How a call can fail after its one write: the tables `t` are what that write made of `p`'s,
and `e` is the error of the step after it, the read back of the connector or the submission of
the teardown. -/
def Call.FailsAfterWrite (p : Plane) : Call → Tables → ServiceError → Prop
  | .update owner type name description configuration, t, e =>
    (∃ id loaded patch, Names.connectorId name = .ok id ∧
      p.tables.getConnectorById id owner.permalink type .full = .ok loaded ∧
      (∀ P, configuration = some P → P.isObject = true) ∧
      configuration.mapM (p.registry.strip loaded.definitionUid) = .ok patch ∧
      (ConnectorUpdate.ofPatch description loaded patch).isEmpty = false ∧
      t = p.tables.updateConnector id owner.permalink type
        (ConnectorUpdate.ofPatch description loaded patch) p.clock.read.1) ∧ e.OfReadBack
  | .rename owner type name newId, t, e =>
    (∃ id, Names.connectorId name = .ok id ∧
      p.tables.renameConnector id owner.permalink type newId p.clock.read.1 = .ok t) ∧
      e.OfReadBack
  | .delete owner type name, t, e =>
    (∃ id, Names.connectorId name = .ok id ∧
      p.tables.deleteConnector id owner.permalink type = .ok t) ∧ ∃ we, e = .ofWorkflow we
  | .disconnect owner type name, t, e =>
    (∃ id, Names.connectorId name = .ok id ∧
      t = p.tables.updateConnector id owner.permalink type { state := some .disconnected }
        p.clock.read.1) ∧ e.OfReadBack
  | _, _, _ => False

theorem run_drop_error {x : PlaneM α} {e : ServiceError} {q : Plane}
    (h : (do let _ ← x : PlaneM Unit).run.run p = (.error e, q)) :
    x.run.run p = (.error e, q) := by
  cases hx : x.run.run p with
  | mk r p' =>
    cases r with
    | ok a =>
      rw [run_bind_ok hx] at h
      cases h
    | error e' =>
      rw [run_bind_error hx] at h
      cases h
      rfl

section Failures

variable (owner type name)

/-- A failed `create` leaves the tables: against a sound registry it cannot fail after its
insert, since the definition it found by id has its credential paths. -/
theorem create_error_tables (hr : p.registry.Sound) (id definitionName description : String)
    (configuration : Json) {e : ServiceError} {q : Plane}
    (h : (create owner type id definitionName description configuration).run.run p =
      (.error e, q)) :
    q.tables = p.tables := by
  obtain hk | ⟨_, d, _, -, -, -, hd, -, -, -, -, -, -, hok⟩ :=
    create_effect (p := p) owner type id definitionName description configuration
  · rw [h] at hk
    exact hk
  · obtain ⟨-, -, P, hP⟩ := hr.byId?_routed hd
    obtain ⟨c', hc'⟩ := hok P hP
    rw [h] at hc'
    cases hc'

theorem update_error_tables (description : Option String) (configuration : Option Json)
    {e : ServiceError} {q : Plane}
    (h : (update owner type name description configuration).run.run p = (.error e, q)) :
    q.tables = p.tables ∨
      (Call.update owner type name description configuration).FailsAfterWrite p q.tables e := by
  obtain ⟨err, h'⟩ | ⟨id, loaded, patch, hid, hload, hobj, hstrip, hne, h'⟩ :=
    update_run (p := p) owner type name description configuration
  · rw [h'] at h
    cases h
    exact .inl rfl
  · rw [h'] at h
    obtain ⟨ht, he⟩ := readBack_error _ _ h
    exact .inr ⟨⟨id, loaded, patch, hid, hload, hobj, hstrip, hne, ht⟩, he⟩

theorem rename_error_tables (newId : String) {e : ServiceError} {q : Plane}
    (h : (rename owner type name newId).run.run p = (.error e, q)) :
    q.tables = p.tables ∨ (Call.rename owner type name newId).FailsAfterWrite p q.tables e := by
  obtain ⟨err, q', h', hq'⟩ | ⟨id, t, hid, -, hren, h'⟩ :=
    rename_run (p := p) owner type name newId
  · rw [h'] at h
    cases h
    exact .inl hq'
  · rw [h'] at h
    obtain ⟨ht, he⟩ := readBack_error _ _ h
    exact .inr ⟨⟨id, hid, ht ▸ hren⟩, he⟩

theorem delete_error_tables {e : ServiceError} {q : Plane}
    (h : (delete owner type name).run.run p = (.error e, q)) :
    q.tables = p.tables ∨ (Call.delete owner type name).FailsAfterWrite p q.tables e := by
  obtain ⟨err, h'⟩ | ⟨id, _, t, hid, -, hdel, h'⟩ := delete_run (p := p) owner type name
  · rw [h'] at h
    cases h
    exact .inl rfl
  · rw [h'] at h
    -- the row is gone before the engine is asked, and only the engine can refuse now
    obtain ⟨q', hq't, -, ⟨_, hs⟩ | ⟨we, hs⟩⟩ := run_submit (p := { p with tables := t })
      (p.dispatcher.options _ .delete) (.delete ⟨(p.dispatcher.options _ .delete).id⟩)
    · rw [hs] at h
      cases h
    · rw [hs] at h
      cases h
      exact .inr ⟨⟨id, hid, hq't ▸ hdel⟩, we, rfl⟩

theorem disconnect_error_tables {e : ServiceError} {q : Plane}
    (h : (disconnect owner type name).run.run p = (.error e, q)) :
    q.tables = p.tables ∨ (Call.disconnect owner type name).FailsAfterWrite p q.tables e := by
  obtain ⟨err, h'⟩ | ⟨id, _, hid, -, h'⟩ := disconnect_run (p := p) owner type name
  · rw [h'] at h
    cases h
    exact .inl rfl
  · rw [h'] at h
    obtain ⟨ht, he⟩ := readBack_error _ _ h
    exact .inr ⟨⟨id, hid, ht⟩, he⟩

theorem checkConnector_error_tables (ownerPermalink connectorPermalink : String)
    {e : ServiceError} {q : Plane}
    (h : (checkConnector ownerPermalink connectorPermalink).run.run p = (.error e, q)) :
    q.tables = p.tables := by
  obtain ⟨err, h'⟩ | ⟨_, _, _, -, -, h'⟩ :=
    checkConnector_run (p := p) ownerPermalink connectorPermalink
  · rw [h'] at h
    cases h
    rfl
  · rw [h'] at h
    cases h

theorem error_tables_of_keepsTables {x : PlaneM α} (hx : KeepsTables x) {e : ServiceError}
    {q : Plane} (h : x.run.run p = (.error e, q)) : q.tables = p.tables := by
  rw [← hx p, h]

end Failures

/-- **Failed calls keep the store but for their write.** Against a registry built from
well-formed families, a call that fails leaves the tables as they were, or it is an `update`,
`rename`, `disconnect` or `delete` that failed after its one write, and the tables are what
that write made of them: the connector was read back or masked in vain, or the teardown of a
deleted connector's container was refused. -/
theorem failed_requests_keep_all_but_their_write {fs : List Family}
    (hfs : ∀ f ∈ fs, f.WellFormed) (hb : Registry.build fs = .ok p.registry) (c : Call)
    {e : ServiceError} {q : Plane} (h : c.run.run.run p = (.error e, q)) :
    q.tables = p.tables ∨ c.FailsAfterWrite p q.tables e := by
  cases c with
  | create owner type id definitionName description configuration =>
    exact .inl (create_error_tables owner type (Registry.sound_of_build hfs hb) _ _ _ _
      (run_drop_error h))
  | update owner type name description configuration =>
    exact update_error_tables owner type name description configuration (run_drop_error h)
  | rename owner type name newId =>
    exact rename_error_tables owner type name newId (run_drop_error h)
  | delete owner type name => exact delete_error_tables owner type name (run_drop_error h)
  | connect owner type name =>
    exact .inl (error_tables_of_keepsTables (keepsTables_connect name) (run_drop_error h))
  | disconnect owner type name => exact disconnect_error_tables owner type name (run_drop_error h)
  | test owner type name =>
    exact .inl (error_tables_of_keepsTables (keepsTables_test name) (run_drop_error h))
  | write owner name task data =>
    exact .inl (error_tables_of_keepsTables (keepsTables_writeRecords name task data)
      (run_drop_error h))
  | check ownerPermalink connectorPermalink =>
    exact .inl (checkConnector_error_tables ownerPermalink connectorPermalink (run_drop_error h))

section Delete

/-- The one family of `passwordDefinition`. -/
def passwordFamily : Family := ⟨.destination, [passwordDefinition], [("pg", ["password"])]⟩

theorem passwordFamily_wellFormed : ∀ f ∈ [passwordFamily], f.WellFormed := by
  intro f hf
  rw [List.mem_singleton] at hf
  subst hf
  exact ⟨by decide, List.nodup_singleton _,
    by simp [passwordFamily, passwordDefinition, FamilyKind.connectorType]⟩

theorem build_passwordFamily : Registry.build [passwordFamily] = .ok passwordPlane.registry :=
  Registry.build_eq_ok_iff.2 ⟨by decide, by decide, rfl⟩

/-- With the engine disabled, deleting `notedConnector` removes its row and then fails: the
teardown of its container is refused. -/
theorem refused_teardown_keeps_the_delete :
    ∃ e q, (Call.delete notedOwner .destination "connectors/db").run.run.run notedPlane =
      (.error e, q) ∧ q.tables ≠ notedPlane.tables := by
  refine ⟨_, _, rfl, fun h => ?_⟩
  have hlen := congrArg (·.connectors.length) h
  revert hlen
  decide

theorem deleted_connector_stays_deleted :
    (∀ f ∈ [passwordFamily], f.WellFormed) ∧
      Registry.build [passwordFamily] = .ok notedPlane.registry ∧
      ∃ e q, (Call.delete notedOwner .destination "connectors/db").run.run.run notedPlane =
        (.error e, q) ∧
        (q.tables = notedPlane.tables ∨
          (Call.delete notedOwner .destination "connectors/db").FailsAfterWrite notedPlane
            q.tables e) := by
  have hb : Registry.build [passwordFamily] = .ok notedPlane.registry := build_passwordFamily
  obtain ⟨e, q, hrun⟩ : ∃ e q,
      (Call.delete notedOwner .destination "connectors/db").run.run.run notedPlane =
        (.error e, q) := ⟨_, _, rfl⟩
  exact ⟨passwordFamily_wellFormed, hb, e, q, hrun,
    failed_requests_keep_all_but_their_write passwordFamily_wellFormed hb _ hrun⟩

end Delete

end Plane

end ConnectorPlane
