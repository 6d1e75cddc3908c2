import ConnectorPlane.Proofs.Json.Echo
import ConnectorPlane.Proofs.Service.Masking
import ConnectorPlane.Proofs.Store.ReadBack
import ConnectorPlane.Service.Runs

/-! # What the services write

A service runs in `PlaneM`, a failure monad over the plane's state. Its steps are given here by
what each one returns and leaves (`Plane.run_load`, `Plane.run_masked`, …), and chained with
`Plane.run_bind_ok`, so that an operation is followed step by step without unfolding the monad.

The three operations that rewrite a stored connector, `update`, `disconnect` and the check task
`checkConnector`, each first read the connector and then write the row of the connector's
(id, owner, type) with `Tables.updateConnector` (`Plane.update_writes`,
`Plane.disconnect_writes`, `Plane.checkConnector_writes`); every other run of them fails before
it writes (`Plane.update_writes_loaded`, `Plane.disconnect_writes_loaded`,
`Plane.checkConnector_writes_loaded`).

A configuration read from the store lists its members in key order at every depth
(`ConnectorRow.read_canonical`). So sending back to `update` the masked configuration that `get`
showed stores the configuration without its `null` leaves at paths that are not credentials
(`Plane.update_with_masked_view_drops_plain_nulls`), and the stored configuration is unchanged
exactly when every `null` leaf lies at a credential path.
-/

namespace ConnectorPlane

open Listing

/-! ## Configurations read from the store -/

theorem ConnectorRow.read_configuration {r : ConnectorRow} {view : View} {c : Connector} {C : Json}
    (h : r.read view = .ok c) (hc : c.configuration = some C) :
    Stored.document r.configuration = .ok C := by
  cases view with
  | basic =>
    simp only [ConnectorRow.read, View.isBasic, ↓reduceIte, bind_eq_ok_iff] at h
    obtain ⟨_, ⟨⟩, _, -, _, -, ⟨⟩⟩ := h
    cases hc
  | full =>
    simp only [ConnectorRow.read, View.isBasic, ↓reduceIte, Bool.false_eq_true,
      bind_eq_ok_iff] at h
    obtain ⟨conf, hconf, _, -, _, -, ⟨⟩⟩ := h
    obtain ⟨v, hv, rfl⟩ := Json.map_eq_ok.1 hconf
    cases hc
    exact hv

/-- A configuration read from a row is canonical: the reader builds every object with its keys
in order, none twice. -/
theorem ConnectorRow.read_canonical {r : ConnectorRow} {view : View} {c : Connector} {C : Json}
    (h : r.read view = .ok c) (hc : c.configuration = some C) : Json.Canonical C := by
  have hdoc := ConnectorRow.read_configuration h hc
  unfold Stored.document at hdoc
  split at hdoc
  · cases hdoc
    exact Json.read_canonical ‹_›
  · cases hdoc

theorem Tables.getConnectorById_canonical {t : Tables} {id owner : String} {type : ConnectorType}
    {view : View} {c : Connector} {C : Json} (h : t.getConnectorById id owner type view = .ok c)
    (hc : c.configuration = some C) : Json.Canonical C := by
  unfold Tables.getConnectorById Tables.findConnector at h
  split at h
  · exact ConnectorRow.read_canonical h hc
  · cases h

/-! ## The registry's masking and stripping -/

section Registry

variable {R : Registry} {uid : Uuid} {P : String → Bool}

theorem Registry.mask_eq_ok (hP : R.credentialPredicate uid = .ok P) (C : Json) :
    R.mask uid C = .ok (C.mask P) := by
  rw [Registry.mask, hP]
  rfl

theorem Registry.strip_eq_ok (hP : R.credentialPredicate uid = .ok P) (C : Json) :
    R.strip uid C = .ok (C.strip P) := by
  rw [Registry.strip, hP]
  rfl

end Registry

namespace Plane

/-! ## Running the steps -/

section Run

variable {α β : Type} {p p' : Plane} {a : α}

theorem run_bind_ok {x : PlaneM α} {f : α → PlaneM β} (hx : x.run.run p = (.ok a, p')) :
    (x >>= f).run.run p = (f a).run.run p' := by
  rw [ExceptT.run_bind, StateT.run_bind, hx]
  rfl

theorem run_bind_error {x : PlaneM α} {f : α → PlaneM β} {e : ServiceError}
    (hx : x.run.run p = (.error e, p')) : (x >>= f).run.run p = (.error e, p') := by
  rw [ExceptT.run_bind, StateT.run_bind, hx]
  rfl

theorem run_get : (get : PlaneM Plane).run.run p = (.ok p, p) := rfl

theorem run_tables : tables?.run.run p = (.ok p.tables, p) := rfl

theorem run_now : (liftM now : PlaneM Instant).run.run p =
    (.ok p.clock.read.1, { p with clock := p.clock.read.2 }) := rfl

theorem run_modify {f : Plane → Plane} : (modify f : PlaneM Unit).run.run p = (.ok (), f p) :=
  rfl

theorem run_ofExcept_ok {r : Except ServiceError α} (h : r = .ok a) :
    (ofExcept r).run.run p = (.ok a, p) := by
  rw [h]
  rfl

theorem run_ofStore_ok {r : Except StoreError α} (h : r = .ok a) :
    (ofStore r).run.run p = (.ok a, p) := by
  rw [h]
  rfl

theorem run_ofRegistry_ok {r : Except RegistryError α} (h : r = .ok a) :
    (ofRegistry r).run.run p = (.ok a, p) := by
  rw [h]
  rfl

theorem run_fail {e : ServiceError} : (fail e : PlaneM α).run.run p = (.error e, p) := rfl

theorem run_ofExcept_error {r : Except ServiceError α} {e : ServiceError} (h : r = .error e) :
    (ofExcept r).run.run p = (.error e, p) := by
  rw [h]
  rfl

theorem run_ofStore_error {r : Except StoreError α} {e : StoreError} (h : r = .error e) :
    (ofStore r).run.run p = (.error (.ofStore e), p) := by
  rw [h]
  rfl

theorem run_ofRegistry_error {r : Except RegistryError α} {e : RegistryError}
    (h : r = .error e) : (ofRegistry r).run.run p = (.error (.ofRegistry e), p) := by
  rw [h]
  rfl

theorem run_load {id : String} {owner : Owner} {type : ConnectorType} {view : View}
    {c : Connector} (h : p.tables.getConnectorById id owner.permalink type view = .ok c) :
    (load id owner type view).run.run p = (.ok c, p) := by
  rw [load, run_bind_ok run_tables, run_ofStore_ok h]

theorem run_load_error {id : String} {owner : Owner} {type : ConnectorType} {view : View}
    {e : StoreError} (h : p.tables.getConnectorById id owner.permalink type view = .error e) :
    (load id owner type view).run.run p = (.error (.ofStore e), p) := by
  rw [load, run_bind_ok run_tables, run_ofStore_error h]

theorem run_masked {c : Connector} {C : Json} {P : String → Bool} (hc : c.configuration = some C)
    (hP : p.registry.credentialPredicate c.definitionUid = .ok P) :
    (masked c).run.run p = (.ok { c with configuration := some (C.mask P) }, p) := by
  unfold masked
  split
  · rename_i hnone
    rw [hc] at hnone
    cases hnone
  · rename_i conf hconf
    rw [hc] at hconf
    cases hconf
    rw [run_bind_ok run_get, run_bind_ok (run_ofRegistry_ok (Registry.mask_eq_ok hP C))]
    rfl

theorem masked_state (c : Connector) : ((masked c).run.run p).2 = p := by
  unfold masked
  split
  · rfl
  · rw [run_bind_ok run_get]
    cases p.registry.mask c.definitionUid _ <;> rfl

/-- Reloading a connector and masking it, as the operations end, changes nothing, whether or
not the reload succeeds. -/
theorem load_masked_state (id : String) (owner : Owner) (type : ConnectorType) (view : View) :
    ((load id owner type view >>= masked).run.run p).2 = p := by
  cases h : p.tables.getConnectorById id owner.permalink type view with
  | error e =>
    rw [run_bind_error (by rw [load, run_bind_ok run_tables, h]; rfl)]
  | ok c => rw [run_bind_ok (run_load h), masked_state]

end Run

/-! ## The operations that rewrite a connector -/

section Operations

variable {p : Plane} {owner : Owner} {type : ConnectorType} {name id : String}

theorem getConnector_run {view : View} {c : Connector} {C : Json} {P : String → Bool}
    (hid : Names.connectorId name = .ok id)
    (hload : p.tables.getConnectorById id owner.permalink type view = .ok c)
    (hc : c.configuration = some C) (hP : p.registry.credentialPredicate c.definitionUid = .ok P) :
    (getConnector owner type name view).run.run p =
      (.ok { c with configuration := some (C.mask P) }, p) := by
  rw [getConnector, run_bind_ok (run_ofExcept_ok hid), run_bind_ok (run_load hload),
    run_masked hc hP]

/-- **What `update` writes** with a configuration patch: the stored configuration (an empty object
if none) patched with the given one less its masked credentials, on the row of the connector's
(id, owner, type), at the time the clock reads. -/
theorem update_writes {e : Connector} {patch patch' : Json} {description : Option String}
    (hid : Names.connectorId name = .ok id)
    (hload : p.tables.getConnectorById id owner.permalink type .full = .ok e)
    (hobj : patch.isObject = true)
    (hstrip : p.registry.strip e.definitionUid patch = .ok patch') :
    ((update owner type name description (some patch)).run.run p).2.tables =
      p.tables.updateConnector id owner.permalink type
        { description, configuration := some ((e.configuration.getD (.obj [])).mergePatch patch') }
        p.clock.read.1 := by
  rw [update, run_bind_ok (run_ofExcept_ok hid), run_bind_ok (run_load hload)]
  simp only [hobj, ↓reduceIte]
  rw [run_bind_ok run_get, run_bind_ok (run_ofRegistry_ok hstrip), pure_bind]
  simp only [ConnectorUpdate.isEmpty, Option.isNone_some, Bool.and_false, Bool.false_and,
    Bool.false_eq_true, ↓reduceIte]
  rw [run_bind_ok run_now, run_bind_ok run_modify, load_masked_state]

/-- **What `disconnect` writes**: the disconnected state, on the row of the connector's (id,
owner, type). -/
theorem disconnect_writes {e : Connector} (hid : Names.connectorId name = .ok id)
    (hload : p.tables.getConnectorById id owner.permalink type .basic = .ok e) :
    ((disconnect owner type name).run.run p).2.tables =
      p.tables.updateConnector id owner.permalink type { state := some .disconnected }
        p.clock.read.1 := by
  rw [disconnect, run_bind_ok (run_ofExcept_ok hid), run_bind_ok (run_load hload),
    run_bind_ok run_now, run_bind_ok run_modify, load_masked_state]

/-- **What the check task writes**: the state the pre-check gives, on the row of the (id, owner,
type) of the connector it read by uid. -/
theorem checkConnector_writes {ownerPermalink connectorPermalink : String} {uid : Uuid}
    {c : Connector} (huid : Names.uid connectorPermalink = .ok uid)
    (hload : p.tables.lookupConnector uid ownerPermalink .full = .ok c) :
    ∃ s, ((checkConnector ownerPermalink connectorPermalink).run.run p).2.tables =
      p.tables.updateConnector c.id ownerPermalink c.connectorType { state := some s }
        p.clock.read.1 := by
  rw [checkConnector, run_bind_ok (run_ofExcept_ok huid), run_bind_ok run_tables,
    run_bind_ok (run_ofStore_ok hload), run_bind_ok run_get, run_bind_ok run_now,
    run_bind_ok run_modify]
  exact ⟨_, rfl⟩

/-! ### Every run

Whatever their arguments, the three operations either leave the tables as they were or write
the row of the (id, owner, type) of a connector they read from them. -/

/-- Every run of `update` either fails before writing, or writes the row of the connector it read
by name. -/
theorem update_writes_loaded (description : Option String) (configuration : Option Json) :
    ((update owner type name description configuration).run.run p).2.tables = p.tables ∨
      ∃ id e u, Names.connectorId name = .ok id ∧
        p.tables.getConnectorById id owner.permalink type .full = .ok e ∧
        ((update owner type name description configuration).run.run p).2.tables =
          p.tables.updateConnector id owner.permalink type u p.clock.read.1 := by
  cases hid : Names.connectorId name with
  | error err => exact .inl (by rw [update, run_bind_error (run_ofExcept_error hid)])
  | ok id =>
    cases hload : p.tables.getConnectorById id owner.permalink type .full with
    | error err =>
      left
      rw [update, run_bind_ok (run_ofExcept_ok hid), run_bind_error (run_load_error hload)]
    | ok e =>
      suffices h : ∃ u, ((update owner type name description configuration).run.run p).2.tables =
          p.tables ∨ ((update owner type name description configuration).run.run p).2.tables =
            p.tables.updateConnector id owner.permalink type u p.clock.read.1 by
        obtain ⟨u, h | h⟩ := h
        exacts [.inl h, .inr ⟨id, e, u, rfl, hload, h⟩]
      cases configuration with
      | none =>
        rw [update, run_bind_ok (run_ofExcept_ok hid), run_bind_ok (run_load hload)]
        dsimp only
        rw [pure_bind]
        by_cases hempty : ({ description, configuration := none } : ConnectorUpdate).isEmpty = true
        · rw [if_pos hempty, run_bind_error run_fail]
          exact ⟨{}, .inl rfl⟩
        · rw [if_neg hempty, run_bind_ok run_now, run_bind_ok run_modify, load_masked_state]
          exact ⟨_, .inr rfl⟩
      | some patch =>
        by_cases hobj : patch.isObject = true
        · cases hstrip : p.registry.strip e.definitionUid patch with
          | error err =>
            rw [update, run_bind_ok (run_ofExcept_ok hid), run_bind_ok (run_load hload)]
            dsimp only
            rw [if_pos hobj, run_bind_ok run_get, run_bind_error (run_ofRegistry_error hstrip)]
            exact ⟨{}, .inl rfl⟩
          | ok patch' => exact ⟨_, .inr (update_writes hid hload hobj hstrip)⟩
        · rw [update, run_bind_ok (run_ofExcept_ok hid), run_bind_ok (run_load hload)]
          dsimp only
          rw [if_neg hobj, run_bind_error run_fail]
          exact ⟨{}, .inl rfl⟩

/-- Every run of `disconnect` either fails before writing, or writes the row of the connector it
read by name. -/
theorem disconnect_writes_loaded :
    ((disconnect owner type name).run.run p).2.tables = p.tables ∨
      ∃ id e, Names.connectorId name = .ok id ∧
        p.tables.getConnectorById id owner.permalink type .basic = .ok e ∧
        ((disconnect owner type name).run.run p).2.tables =
          p.tables.updateConnector id owner.permalink type { state := some .disconnected }
            p.clock.read.1 := by
  cases hid : Names.connectorId name with
  | error err => exact .inl (by rw [disconnect, run_bind_error (run_ofExcept_error hid)])
  | ok id =>
    cases hload : p.tables.getConnectorById id owner.permalink type .basic with
    | error err =>
      left
      rw [disconnect, run_bind_ok (run_ofExcept_ok hid), run_bind_error (run_load_error hload)]
    | ok e => exact .inr ⟨id, e, rfl, hload, disconnect_writes hid hload⟩

/-- Every run of the check task either fails before writing, or writes the row of the connector
it read by uid. -/
theorem checkConnector_writes_loaded (ownerPermalink connectorPermalink : String) :
    ((checkConnector ownerPermalink connectorPermalink).run.run p).2.tables = p.tables ∨
      ∃ uid c s, Names.uid connectorPermalink = .ok uid ∧
        p.tables.lookupConnector uid ownerPermalink .full = .ok c ∧
        ((checkConnector ownerPermalink connectorPermalink).run.run p).2.tables =
          p.tables.updateConnector c.id ownerPermalink c.connectorType { state := some s }
            p.clock.read.1 := by
  cases huid : Names.uid connectorPermalink with
  | error err => exact .inl (by rw [checkConnector, run_bind_error (run_ofExcept_error huid)])
  | ok uid =>
    cases hload : p.tables.lookupConnector uid ownerPermalink .full with
    | error err =>
      left
      rw [checkConnector, run_bind_ok (run_ofExcept_ok huid), run_bind_ok run_tables,
        run_bind_error (run_ofStore_error hload)]
    | ok c =>
      obtain ⟨s, hs⟩ := checkConnector_writes huid hload
      exact .inr ⟨uid, c, s, rfl, hload, hs⟩

end Operations

/-! ## Sending the masked view back -/

/-- **Sending back the masked view** stores the configuration without its `null` leaves at paths
that are not credentials. For every canonical object and credential predicate, merging the
stripped masked view back into the object gives the object without those nulls, which is the
object itself exactly when every `null` leaf lies at a credential path. And for a connector
whose stored configuration is an object, `get` shows it masked by its definition's credentials
and changes nothing, and `update` with that configuration writes the stored one without those
nulls on the connector's row. -/
theorem update_with_masked_view_drops_plain_nulls :
    (∀ (fs : List (String × Json)) (P : String → Bool), Json.Canonical (.obj fs) →
      (Json.obj fs).mergePatch (((Json.obj fs).mask P).strip P) = (Json.obj fs).dropNulls P ∧
      ((Json.obj fs).dropNulls P = .obj fs ↔
        ∀ ks, Json.Reaches (.obj fs) ks .null → P (".".intercalate ks) = true)) ∧
    (∀ (p : Plane) (owner : Owner) (type : ConnectorType) (name id : String) (c : Connector)
        (fs : List (String × Json)) (P : String → Bool),
      Names.connectorId name = .ok id →
      p.tables.getConnectorById id owner.permalink type .full = .ok c →
      c.configuration = some (.obj fs) →
      p.registry.credentialPredicate c.definitionUid = .ok P →
      (getConnector owner type name .full).run.run p =
          (.ok { c with configuration := some ((Json.obj fs).mask P) }, p) ∧
        ((update owner type name none (some ((Json.obj fs).mask P))).run.run p).2.tables =
          p.tables.updateConnector id owner.permalink type
            { configuration := some ((Json.obj fs).dropNulls P) } p.clock.read.1) := by
  refine ⟨fun fs P hc => ⟨Json.mergePatch_echo hc, Json.dropNulls_eq_self_iff⟩, ?_⟩
  intro p owner type name id c fs P hid hload hc hP
  refine ⟨getConnector_run hid hload hc hP, ?_⟩
  have hobj : ((Json.obj fs).mask P).isObject = true := rfl
  rw [update_writes hid hload hobj (Registry.strip_eq_ok hP _), hc, Option.getD_some,
    Json.mergePatch_echo (Tables.getConnectorById_canonical hload hc)]

/-- The owner of `notedConnector`. -/
def notedOwner : Owner := ⟨Uuid.ofNat 1, "x"⟩

/-- The members of `notedConnector`'s configuration: a host, a `null` note and a password. -/
def notedFields : List (String × Json) :=
  [("host", .str "h"), ("note", .null), ("password", .str "s")]

/-- A connector of `passwordDefinition` whose configuration holds a `null` note. -/
def notedConnector : Connector where
  uid := Uuid.ofNat 0x11111111111141118111111111111111
  id := "db"
  owner := notedOwner.permalink
  definitionUid := Uuid.ofNat 7
  connectorType := .destination
  description := ""
  configuration := some (.obj notedFields)
  state := .disconnected
  tombstone := false
  createTime := Instant.ofParts 19723 0 0
  updateTime := Instant.ofParts 19723 0 0

/-- `passwordPlane` with `notedConnector` stored. -/
def notedPlane : Plane := { passwordPlane with tables := ⟨[], [notedConnector.toRow]⟩ }

/-- Sending back the view of `notedConnector` keeps its host and password and drops its note. -/
theorem noted_connector_loses_its_note :
    Names.connectorId "connectors/db" = .ok "db" ∧
    notedPlane.tables.getConnectorById "db" notedOwner.permalink .destination .full =
      .ok notedConnector ∧
    notedPlane.registry.credentialPredicate (Uuid.ofNat 7) = .ok ["password"].contains ∧
    ((update notedOwner .destination "connectors/db" none
        (some (.obj [("host", .str "h"), ("note", .null), ("password", .str maskSentinel)]))).run.run
        notedPlane).2.tables =
      notedPlane.tables.updateConnector "db" notedOwner.permalink .destination
        { configuration := some (.obj [("host", .str "h"), ("password", .str "s")]) }
        notedPlane.clock.read.1 := by
  have hid : Names.connectorId "connectors/db" = .ok "db" := by decide
  have hcreate : ({} : Tables).createConnector notedConnector = .ok notedPlane.tables := rfl
  have hjson : Json.read (Json.obj notedFields).compact = .ok (.obj notedFields) := by
    with_unfolding_all rfl
  have hr : (Instant.ofParts 19723 0 0).InRange := by decide
  have hload : notedPlane.tables.getConnectorById "db" notedOwner.permalink .destination .full =
      .ok notedConnector := by
    rw [Tables.getConnectorById, Tables.findConnector_createConnector hcreate (by decide)
      (by simp) _ _]
    exact (Connector.read_toRow rfl hjson .full _).2 ⟨rfl, hr, hr⟩
  have hP : notedPlane.registry.credentialPredicate (Uuid.ofNat 7) = .ok ["password"].contains :=
      rfl
  have hmask : (Json.obj notedFields).mask ["password"].contains =
      .obj [("host", .str "h"), ("note", .null), ("password", .str maskSentinel)] := by
    with_unfolding_all rfl
  have hdrop : (Json.obj notedFields).dropNulls ["password"].contains =
      .obj [("host", .str "h"), ("password", .str "s")] := by
    with_unfolding_all rfl
  have h := (update_with_masked_view_drops_plain_nulls.2 notedPlane notedOwner .destination
    "connectors/db" "db" notedConnector notedFields _ hid hload rfl hP).2
  rw [hmask, hdrop] at h
  exact ⟨hid, hload, hP, h⟩

/-- A `null` member that is no credential does not survive being sent back. -/
theorem null_member_not_echoed :
    (Json.obj [("note", .null)]).mergePatch
      (((Json.obj [("note", .null)]).mask fun _ => false).strip fun _ => false) = .obj [] := by
  with_unfolding_all rfl

end Plane

end ConnectorPlane
