import ConnectorPlane.Proofs.Service.Concurrent
import ConnectorPlane.Proofs.Service.Effects
import ConnectorPlane.Proofs.UuidText
import ConnectorPlane.Proofs.ResourceNames

/-! # The pre-check on the service and in the check task

A connector's configuration is pre-checked against its definition on two paths: `Plane.test`
answers the state without storing it, and the check task, `Plane.checkConnector`, stores it on
the connector's row. The first reads the connector by its name, `connectors/<id>`, the second by
its permalink, `connectors/<uid>`; both dispatch the configuration to the family of the
connector's definition.

* `Names.connectorId_name`, `Names.uid_permalink`: a stored connector's name and permalink name
  its id and its uid.
* `Tables.getConnectorById_row`, `Tables.lookupConnector_row`: with unique keys and uids, both
  reads are reads of the connector's own row.
* `Catalog.mem_requiredFields_iff`, `PreCheckPasses`,
  `Connection.test_ofDefinition_eq_connected_iff`: the pre-check passes exactly an object
  holding every string of the spec's `connection_specification.required` array.
* `precheck_agrees_on_service_and_check_task`: both paths give the pre-check's state when the
  row reads back, and fail alike with the store's error when it does not;
  `Plane.precheck_fails_before_year_zero` is a row that does not.
-/

namespace ConnectorPlane

/-! ## The names of a stored connector -/

namespace Names

theorem connectorId_name {id : String} (hslash : '/' ∉ id.toList) (hne : id ≠ "") :
    connectorId ("connectors/" ++ id) = .ok id := by
  have hname : "connectors/" ++ id = "" ++ "connectors" ++ "/" ++ id := by
    rw [← String.toList_inj]
    simp
  exact (idIn_eq_iff (by decide) (by decide) _).2 (.named ⟨"", .inl rfl, hname, hne, hslash⟩)

theorem slash_not_mem_text (u : Uuid) : '/' ∉ u.text.toList := by
  have hhex : ∀ d, d < 16 → Uuid.hexChar d ≠ '/' := by decide
  intro h
  rw [Uuid.text_toList] at h
  rcases Uuid.mem_layout h with h | h
  · exact absurd h (by decide)
  · obtain ⟨d, hd, hdc⟩ := Digits.mem_hexWidth h
    exact hhex d hd hdc.symm

theorem uid_permalink (u : Uuid) :
    uid ("connectors/" ++ u.text) = .ok u := by
  have hsplit : ("connectors/" ++ u.text).toList =
      "connectors".toList ++ '/' :: u.text.toList := by
    simp
  have hne : u.text ≠ "" := fun he => by
    have := congrArg (·.length) (congrArg String.toList he)
    simp [Uuid.text_toList, Uuid.length_layout] at this
  have hseg : Resource.uid ("connectors/" ++ u.text) = .ok u.text := by
    rw [Resource.uid, Resource.lastSegment_of_toList hsplit (slash_not_mem_text u),
      String.ofList_toList, if_neg (by simpa using hne)]
  simp only [uid, hseg, Except.mapError, bind, Except.bind, Uuid.parse_text u]
  rfl

end Names

/-! ## The row a connector is read from -/

namespace Tables

variable {t : Tables} {r : ConnectorRow}

theorem find?_eq_of_keys_nodup {β : Type} {key : ConnectorRow → β} {P : ConnectorRow → Bool}
    (hnodup : (t.connectors.map key).Nodup) (hr : r ∈ t.connectors) (hP : P r = true)
    (hkey : ∀ x ∈ t.connectors, P x = true → key x = key r) :
    t.connectors.find? P = some r := by
  obtain ⟨x, hx⟩ := Option.isSome_iff_exists.1 (List.find?_isSome.2 ⟨r, hr, hP⟩)
  have hmem := List.mem_of_find?_eq_some hx
  rw [hx, List.inj_on_of_nodup_map hnodup hmem hr (hkey x hmem (List.find?_some hx))]

theorem getConnectorById_row (hkeys : t.UniqueKeys) (hr : r ∈ t.connectors) (view : View) :
    t.getConnectorById r.id r.owner r.connectorType view = r.read view := by
  rw [getConnectorById, findConnector, find?_eq_of_keys_nodup hkeys hr
    (ConnectorRow.isAt_eq_true_iff.2 rfl) fun x _ hx => ConnectorRow.isAt_eq_true_iff.1 hx]

theorem lookupConnector_row (huids : (t.connectors.map (·.uid)).Nodup) (hr : r ∈ t.connectors)
    (view : View) : t.lookupConnector r.uid r.owner view = r.read view := by
  have hpick : ∀ x : ConnectorRow, (x.uid == r.uid && x.owner == r.owner) = true →
      x.uid = r.uid := by
    intro x hx
    simp only [Bool.and_eq_true, beq_iff_eq] at hx
    exact hx.1
  rw [lookupConnector, findConnector, find?_eq_of_keys_nodup huids hr (by simp)
    fun x _ hx => hpick x hx]

end Tables

/-! ## The pre-check -/

theorem Json.getStr?_eq_some_iff {v : Json} {s : String} : v.getStr? = some s ↔ v = .str s := by
  cases v <;> simp [Json.getStr?]

/-- The keys a spec requires are the strings its `connection_specification.required` array
lists; other elements count for nothing, and without such an array nothing is required. -/
theorem Catalog.mem_requiredFields_iff {spec : Option Json} {k : String} :
    k ∈ Catalog.requiredFields spec ↔
      ∃ items, ((spec.bind (·.get? "connection_specification")).bind (·.get? "required")) =
        some (.arr items) ∧ Json.str k ∈ items := by
  unfold Catalog.requiredFields
  split
  · rename_i items h
    simp [h, List.mem_filterMap, Json.getStr?_eq_some_iff]
  · rename_i h
    simp only [List.not_mem_nil, false_iff, not_exists, not_and]
    exact fun items hitems => absurd hitems (h items)

theorem Catalog.forall_mem_requiredFields_iff {spec : Option Json} {P : String → Prop} :
    (∀ k ∈ Catalog.requiredFields spec, P k) ↔
      ∀ items, ((spec.bind (·.get? "connection_specification")).bind (·.get? "required")) =
        some (.arr items) → ∀ k, Json.str k ∈ items → P k := by
  simp only [Catalog.mem_requiredFields_iff]
  constructor
  · intro h items hitems k hk
    exact h k ⟨items, hitems, hk⟩
  · rintro h k ⟨items, hitems, hk⟩
    exact h items hitems k hk

/-- The configurations the pre-check of a spec passes: an object holding, as a top-level key,
every string element of the spec's `connection_specification.required` array. -/
def PreCheckPasses (spec : Option Json) (C : Json) : Prop :=
  ∃ fs, C = .obj fs ∧
    ∀ items, ((spec.bind (·.get? "connection_specification")).bind (·.get? "required")) =
      some (.arr items) → ∀ k, Json.str k ∈ items → Json.Fields.contains fs k = true

theorem preCheckPasses_iff {spec : Option Json} {C : Json} :
    PreCheckPasses spec C ↔
      ∃ fs, C = .obj fs ∧ ∀ k ∈ Catalog.requiredFields spec, Json.Fields.contains fs k = true :=
  exists_congr fun _ => and_congr_right fun _ => Catalog.forall_mem_requiredFields_iff.symm

namespace Connection

theorem test_eq_connected_or_error (c : Connection) : c.test = .connected ∨ c.test = .error := by
  unfold test
  split_ifs <;> simp

theorem test_ofDefinition_eq_connected_iff (d : Definition) (C : Json) :
    (ofDefinition d C).test = .connected ↔ PreCheckPasses d.spec C := by
  rw [preCheckPasses_iff]
  cases C with
  | obj fs => simp [test, ofDefinition, missingFields, Json.isObject, List.filter_eq_nil_iff]
  | _ => simp [test, ofDefinition, Json.isObject]

theorem test_ofDefinition_eq_error_iff (d : Definition) (C : Json) :
    (ofDefinition d C).test = .error ↔ ¬ PreCheckPasses d.spec C := by
  rw [← test_ofDefinition_eq_connected_iff]
  rcases test_eq_connected_or_error (ofDefinition d C) with h | h <;> simp [h]

end Connection

/-! ## The two runs of the pre-check -/

namespace Plane

variable {p : Plane} {c : Connector} {conn : Connection} {e : StoreError}

theorem test_run {owner : Owner} {type : ConnectorType} {name id : String}
    (hid : Names.connectorId name = .ok id)
    (hload : p.tables.getConnectorById id owner.permalink type .full = .ok c)
    (hconn : p.registry.dispatch c.definitionUid (c.configuration.getD .null) = .ok conn) :
    (test owner type name).run.run p = (.ok conn.test, p) := by
  rw [test, run_bind_ok (run_ofExcept_ok hid), run_bind_ok (run_load hload), run_bind_ok run_get,
    run_bind_ok (run_ofRegistry_ok hconn)]
  rfl

theorem test_run_load_error {owner : Owner} {type : ConnectorType} {name id : String}
    (hid : Names.connectorId name = .ok id)
    (hload : p.tables.getConnectorById id owner.permalink type .full = .error e) :
    (test owner type name).run.run p = (.error (.ofStore e), p) := by
  rw [test, run_bind_ok (run_ofExcept_ok hid), run_bind_error (run_load_error hload)]

theorem checkConnector_run_ok {ownerPermalink permalink : String} {uid : Uuid}
    (huid : Names.uid permalink = .ok uid)
    (hload : p.tables.lookupConnector uid ownerPermalink .full = .ok c)
    (hconn : p.registry.dispatch c.definitionUid (c.configuration.getD .null) = .ok conn) :
    (checkConnector ownerPermalink permalink).run.run p =
      (.ok conn.test,
        { p with clock := p.clock.read.2,
                 tables := p.tables.updateConnector c.id ownerPermalink c.connectorType
                   { state := some conn.test } p.clock.read.1 }) := by
  rw [checkConnector, run_bind_ok (run_ofExcept_ok huid), run_bind_ok run_tables,
    run_bind_ok (run_ofStore_ok hload), run_bind_ok run_get]
  simp only [hconn]
  rw [run_bind_ok run_now, run_bind_ok run_modify]
  rfl

theorem checkConnector_run_load_error {ownerPermalink permalink : String} {uid : Uuid}
    (huid : Names.uid permalink = .ok uid)
    (hload : p.tables.lookupConnector uid ownerPermalink .full = .error e) :
    (checkConnector ownerPermalink permalink).run.run p = (.error (.ofStore e), p) := by
  rw [checkConnector, run_bind_ok (run_ofExcept_ok huid), run_bind_ok run_tables,
    run_bind_error (run_ofStore_error hload)]

end Plane

/-- **The pre-check means the same on the service and in the check task**, for a stored
connector of a registered definition, asked for by its name and by its permalink. When its row
reads back, `test` answers, and the check task answers and writes onto the row, one state:
`CONNECTED` exactly when the stored configuration passes the definition's pre-check, `ERROR`
otherwise; `test` leaves the plane as it was. When the row does not read back (a time outside
the years 0 to 9999, or a configuration text that is no JSON), both fail with the store's error
and change nothing. -/
theorem precheck_agrees_on_service_and_check_task (p : Plane) (owner : Owner) (r : ConnectorRow)
    (f : Family) (d : Definition)
    (huids : (p.tables.connectors.map (·.uid)).Nodup) (hkeys : p.tables.UniqueKeys)
    (hr : r ∈ p.tables.connectors) (howner : r.owner = owner.permalink)
    (hslash : '/' ∉ r.id.toList) (hid : r.id ≠ "")
    (hreg : (p.registry.families.flatMap Family.uids).Nodup) (hf : f ∈ p.registry.families)
    (hd : d ∈ f.definitions) (hdef : d.uid = r.definitionUid) :
    (∀ c, r.read .full = .ok c →
      ∃ C s, Stored.document r.configuration = .ok C ∧
        (s = .connected ↔ PreCheckPasses d.spec C) ∧
        (s = .error ↔ ¬ PreCheckPasses d.spec C) ∧
        (Plane.test owner r.connectorType ("connectors/" ++ r.id)).run.run p = (.ok s, p) ∧
        (Plane.checkConnector owner.permalink ("connectors/" ++ r.uid.text)).run.run p =
          (.ok s, { p with clock := p.clock.read.2,
                           tables := p.tables.updateConnector r.id owner.permalink r.connectorType
                             { state := some s } p.clock.read.1 })) ∧
    ∀ e, r.read .full = .error e →
      (Plane.test owner r.connectorType ("connectors/" ++ r.id)).run.run p =
        (.error (.ofStore e), p) ∧
      (Plane.checkConnector owner.permalink ("connectors/" ++ r.uid.text)).run.run p =
        (.error (.ofStore e), p) := by
  have hname := Names.connectorId_name hslash hid
  have hperm := Names.uid_permalink r.uid
  -- both paths read the connector from `r` itself: by its key, and by its uid
  have hbyId : p.tables.getConnectorById r.id owner.permalink r.connectorType .full =
      r.read .full := by
    rw [← howner]
    exact Tables.getConnectorById_row hkeys hr .full
  have hbyUid : p.tables.lookupConnector r.uid owner.permalink .full = r.read .full := by
    rw [← howner]
    exact Tables.lookupConnector_row huids hr .full
  refine ⟨fun c hc => ?_, fun e he => ?_⟩
  · obtain ⟨C, hC, hconf, hcdef⟩ := ConnectorRow.read_full hc
    obtain ⟨-, hkey⟩ := ConnectorRow.read_naturalKey hc
    have hconn : p.registry.dispatch c.definitionUid (c.configuration.getD .null) =
        .ok (Connection.ofDefinition d C) := by
      rw [hcdef, ← hdef, hconf, Option.getD_some]
      exact Registry.dispatch_eq_ok hreg hf hd C
    have hcid : c.id = r.id ∧ c.connectorType = r.connectorType := by
      simp only [Connector.naturalKey, ConnectorRow.naturalKey, Prod.mk.injEq] at hkey
      exact ⟨hkey.1, hkey.2.2⟩
    refine ⟨C, _, hC, Connection.test_ofDefinition_eq_connected_iff d C,
      Connection.test_ofDefinition_eq_error_iff d C, Plane.test_run hname (hbyId.trans hc) hconn,
      ?_⟩
    rw [Plane.checkConnector_run_ok hperm (hbyUid.trans hc) hconn, hcid.1, hcid.2]
  · exact ⟨Plane.test_run_load_error hname (hbyId.trans he),
      Plane.checkConnector_run_load_error hperm (hbyUid.trans he)⟩

namespace Plane

/-- `notedConnector`, of a definition that requires nothing, passes the pre-check on both
paths. -/
theorem noted_connector_prechecks_connected :
    (Plane.test notedOwner .destination ("connectors/" ++ notedConnector.toRow.id)).run.run
        notedPlane = (.ok .connected, notedPlane) ∧
    ((Plane.checkConnector notedOwner.permalink
        ("connectors/" ++ notedConnector.toRow.uid.text)).run.run notedPlane).1 =
      .ok .connected := by
  have hjson : Json.read (Json.obj notedFields).compact = .ok (.obj notedFields) := by
    with_unfolding_all rfl
  have hr : (Instant.ofParts 19723 0 0).InRange := by decide
  have hread : notedConnector.toRow.read .full = .ok notedConnector :=
    (Connector.read_toRow rfl hjson .full _).2 ⟨rfl, hr, hr⟩
  have hdoc : Stored.document notedConnector.toRow.configuration = .ok (.obj notedFields) :=
    Stored.document_compact hjson
  obtain ⟨C, s, hC, hs, -, htest, hcheck⟩ :=
    (precheck_agrees_on_service_and_check_task notedPlane notedOwner notedConnector.toRow
      passwordFamily passwordDefinition (List.nodup_singleton _) (List.nodup_singleton _)
      (List.mem_singleton_self _) rfl
      (by decide) (by decide) (by decide) (List.mem_singleton_self _)
      (List.mem_singleton_self _) rfl).1 notedConnector hread
  rw [hdoc, Except.ok.injEq] at hC
  have hconnected : s = .connected := hs.2 ⟨notedFields, hC.symm, by simp [passwordDefinition]⟩
  subst hconnected
  exact ⟨htest, by rw [hcheck]⟩

/-- `notedConnector` as stored when created at 0000-01-01T00:00:00+01:00, the instant
-0001-12-31T23:00:00Z. -/
def yearZeroNoted : Connector :=
  { notedConnector with createTime := Instant.ofParts (-719529) 82800 0 }

/-- `passwordPlane` with `yearZeroNoted` stored. -/
def yearZeroPlane : Plane := { passwordPlane with tables := ⟨[], [yearZeroNoted.toRow]⟩ }

/-- A connector of a registered definition stored before the year 0 gets no state from the
pre-check on either path: its creation time is written with a sign that the store does not
read back, and both calls fail. -/
theorem precheck_fails_before_year_zero :
    (test notedOwner .destination ("connectors/" ++ yearZeroNoted.id)).run.run yearZeroPlane =
      (.error (.ofStore (.invalidData
        "timestamp '-0001-12-31T23:00:00.000000000Z': input contains invalid characters")),
        yearZeroPlane) ∧
    (checkConnector notedOwner.permalink ("connectors/" ++ yearZeroNoted.uid.text)).run.run
        yearZeroPlane =
      (.error (.ofStore (.invalidData
        "timestamp '-0001-12-31T23:00:00.000000000Z': input contains invalid characters")),
        yearZeroPlane) := by
  have hjson : Json.read (Json.obj notedFields).compact = .ok (.obj notedFields) := by
    with_unfolding_all rfl
  have htext : (Instant.ofParts (-719529) 82800 0).text = "-0001-12-31T23:00:00.000000000Z" := by
    decide
  have htime : Stored.time yearZeroNoted.toRow.createTime = .error (.invalidData
      "timestamp '-0001-12-31T23:00:00.000000000Z': input contains invalid characters") := by
    simp only [Stored.time, yearZeroNoted, Connector.toRow,
      Instant.parseStrict_text (Instant.ofParts (-719529) 82800 0),
      if_neg (by decide : ¬ (Instant.ofParts (-719529) 82800 0).InRange)]
    rw [htext]
    rfl
  have hread : yearZeroNoted.toRow.read .full = .error (.invalidData
      "timestamp '-0001-12-31T23:00:00.000000000Z': input contains invalid characters") := by
    have hdoc : Stored.document yearZeroNoted.toRow.configuration = .ok (.obj notedFields) :=
      Stored.document_compact hjson
    simp [ConnectorRow.read, View.isBasic, hdoc, htime, bind, Except.bind, Functor.map, Except.map]
  have hname : Names.connectorId ("connectors/" ++ yearZeroNoted.id) = .ok yearZeroNoted.id :=
    Names.connectorId_name (by decide) (by decide)
  have hperm : Names.uid ("connectors/" ++ yearZeroNoted.uid.text) = .ok yearZeroNoted.uid :=
    Names.uid_permalink yearZeroNoted.uid
  have hbyId : yearZeroPlane.tables.getConnectorById yearZeroNoted.id notedOwner.permalink
      .destination .full = yearZeroNoted.toRow.read .full :=
    Tables.getConnectorById_row (t := yearZeroPlane.tables) (List.nodup_singleton _)
      (List.mem_singleton_self _) .full
  have hbyUid : yearZeroPlane.tables.lookupConnector yearZeroNoted.uid notedOwner.permalink .full =
      yearZeroNoted.toRow.read .full :=
    Tables.lookupConnector_row (t := yearZeroPlane.tables) (List.nodup_singleton _)
      (List.mem_singleton_self _) .full
  exact ⟨test_run_load_error hname (hbyId.trans hread),
    checkConnector_run_load_error hperm (hbyUid.trans hread)⟩

end Plane

end ConnectorPlane
