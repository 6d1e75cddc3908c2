import ConnectorPlane.Proofs.Json.KeptSecrets
import ConnectorPlane.Proofs.Service.Effects

/-! # What the services hand the workflow engine

`delete`, `connect` and `writeRecords` each end in one submission, made with the options the
dispatcher gives the permalink of the connector the request read, for the request's workflow;
the parameters name the workflow's container by the same id.

* `Json.get?_ofFields`: an object built from members holds the last one given for each key;
  `WorkflowParams.get?_container_name`: so the parameters the engine gets name their container.
* `Engine.start_recorder`, `Plane.submit_recorder`: the recording engine takes a submission in,
  or refuses it and keeps what it holds.
* `Plane.connect_run`, `Plane.writeRecords_run`: the runs of `connect` and `writeRecords` up to
  their submission (`Plane.delete_run` gives the delete's).
* `Submission.NamedFor`, `Recorder.Extends`: a submission named for a connector and a clock
  reading, and a recorder grown by at most one such; `Plane.delete_extends`,
  `Plane.connect_extends`, `Plane.writeRecords_extends`: what each of the three leaves of the
  recorder.
-/

namespace ConnectorPlane

namespace Json

theorem get?_foldl_insert (k : String) : ∀ (ms acc : List (String × Json)),
    Fields.get? (ms.foldl (fun acc p => Fields.insert p.1 p.2 acc) acc) k =
      ((ms.reverse.find? (·.1 == k)).map (·.2)).or (Fields.get? acc k)
  | [], acc => by simp
  | m :: ms, acc => by
    rw [List.foldl_cons, get?_foldl_insert k ms, List.reverse_cons, List.find?_append]
    by_cases h : m.1 = k
    · subst h
      simp [Fields.get?_insert_self]
    · simp [Fields.get?_insert_of_ne h, h]

theorem get?_ofFields (ms : List (String × Json)) (k : String) :
    (ofFields ms).get? k = (ms.reverse.find? (·.1 == k)).map (·.2) := by
  rw [ofFields, get?, get?_foldl_insert]
  simp [Fields.get?]

end Json

namespace WorkflowParams

/-- The container the parameters name. -/
def containerName : WorkflowParams → String
  | .check p => p.containerName
  | .write p => p.containerName
  | .delete p => p.containerName

theorem get?_container_name (ps : WorkflowParams) :
    ps.toJson.get? "container_name" = some (.str ps.containerName) := by
  cases ps <;> simp [toJson, containerName, Json.get?_ofFields]

end WorkflowParams

namespace Engine

theorem start_recorder (r : Recorder) (o : StartOptions) (k : WorkflowKind) (j : Json)
    (runId : String) :
    ∃ r', ((Engine.recorder r).start o k j runId).2 = .recorder r' ∧
      (r'.submissions = r.submissions ∨ r'.submissions = r.submissions ++ [⟨o, k, j⟩]) := by
  cases hf : r.failNext with
  | some m => exact ⟨{ r with failNext := none }, by simp [start, hf], .inl rfl⟩
  | none =>
    exact ⟨{ r with submissions := r.submissions ++ [⟨o, k, j⟩] }, by simp [start, hf],
      .inr rfl⟩

end Engine

namespace Plane

variable {α : Type} {p : Plane}

theorem submit_state (o : StartOptions) (ps : WorkflowParams) :
    ((submit o ps).run.run p).2 = ((startWorkflow o ps.kind ps.toJson).run p).2 := by
  unfold submit
  have hstart : (liftM (startWorkflow o ps.kind ps.toJson) : PlaneM _).run.run p =
      (.ok ((startWorkflow o ps.kind ps.toJson).run p).1,
        ((startWorkflow o ps.kind ps.toJson).run p).2) := rfl
  rw [run_bind_ok hstart]
  cases ((startWorkflow o ps.kind ps.toJson).run p).1 <;> rfl

theorem submit_recorder {r : Recorder} (hp : p.engine = .recorder r) (o : StartOptions)
    (ps : WorkflowParams) :
    ∃ r', ((submit o ps).run.run p).2.engine = .recorder r' ∧
      (r'.submissions = r.submissions ∨
        r'.submissions = r.submissions ++ [⟨o, ps.kind, ps.toJson⟩]) := by
  rw [submit_state]
  have hengine : ((startWorkflow o ps.kind ps.toJson).run p).2.engine =
      (p.engine.start o ps.kind ps.toJson (drawUid.run p).1.text).2 := rfl
  rw [hengine, hp]
  exact Engine.start_recorder r o ps.kind ps.toJson _

theorem state_bind_of_keeps {β : Type} {x : PlaneM α} {f : α → PlaneM β}
    (hf : ∀ a q, ((f a).run.run q).2 = q) : ((x >>= f).run.run p).2 = (x.run.run p).2 := by
  rw [ExceptT.run_bind, StateT.run_bind]
  obtain ⟨r, q⟩ := x.run.run p
  cases r with
  | ok a => exact hf a q
  | error e => rfl

variable (owner : Owner) (type : ConnectorType) (name : String)

/-- **The run of `connect`**: it fails before submitting, or it submits the check of the
connector it loaded by name, with the options the dispatcher gives its permalink; masking the
connector for the answer changes nothing after. -/
theorem connect_run :
    (∃ err, (connect owner type name).run.run p = (.error err, p)) ∨
    ∃ id c d, Names.connectorId name = .ok id ∧
      p.tables.getConnectorById id owner.permalink type .full = .ok c ∧
      p.registry.byUid c.definitionUid = .ok d ∧
      ((connect owner type name).run.run p).2 =
        ((submit (p.dispatcher.options c.permalink .check)
          (.check ⟨owner.permalink, c.permalink, d.image,
            (p.dispatcher.options c.permalink .check).id⟩)).run.run p).2 := by
  cases hid : Names.connectorId name with
  | error err => exact .inl ⟨err, by rw [connect, run_bind_error (run_ofExcept_error hid)]⟩
  | ok id =>
  cases hload : p.tables.getConnectorById id owner.permalink type .full with
  | error err =>
    exact .inl ⟨_, by
      rw [connect, run_bind_ok (run_ofExcept_ok hid), run_bind_error (run_load_error hload)]⟩
  | ok c =>
  cases hdef : p.registry.byUid c.definitionUid with
  | error err =>
    exact .inl ⟨_, by
      rw [connect, run_bind_ok (run_ofExcept_ok hid), run_bind_ok (run_load hload),
        run_bind_ok run_get, run_bind_error (run_ofRegistry_error hdef)]⟩
  | ok d =>
    refine .inr ⟨id, c, d, rfl, hload, hdef, ?_⟩
    rw [connect, run_bind_ok (run_ofExcept_ok hid), run_bind_ok (run_load hload),
      run_bind_ok run_get, run_bind_ok (run_ofRegistry_ok hdef), run_bind_ok run_get]
    refine state_bind_of_keeps fun run q => ?_
    rw [state_bind_of_keeps fun _ _ => rfl, masked_state]

/-- **The run of `writeRecords`**: it fails before submitting, or, for a connected destination
and a valid batch, it reads the clock and submits the write of the batch, with the options the
dispatcher gives the connector's permalink. -/
theorem writeRecords_run (task : ModelTask) (data : Json) :
    (∃ err, (writeRecords owner name task data).run.run p = (.error err, p)) ∨
    ∃ id c b d, Names.connectorId name = .ok id ∧
      p.tables.getConnectorById id owner.permalink .destination .full = .ok c ∧
      c.state = .connected ∧ RecordBatch.ofPayload task data = .ok b ∧
      p.registry.byUid c.definitionUid = .ok d ∧
      (writeRecords owner name task data).run.run p =
        (submit (p.dispatcher.options c.permalink .write)
          (.write ⟨owner.permalink, c.permalink, d.image,
            (p.dispatcher.options c.permalink .write).id, Json.compact b.configuredCatalog,
            b.messages p.clock.read.1.unixMillis⟩)).run.run
          { p with clock := p.clock.read.2 } := by
  cases hid : Names.connectorId name with
  | error err => exact .inl ⟨err, by rw [writeRecords, run_bind_error (run_ofExcept_error hid)]⟩
  | ok id =>
  cases hload : p.tables.getConnectorById id owner.permalink .destination .full with
  | error err =>
    exact .inl ⟨_, by
      rw [writeRecords, run_bind_ok (run_ofExcept_ok hid), run_bind_error (run_load_error hload)]⟩
  | ok c =>
  by_cases hstate : c.state = .connected
  swap
  · refine .inl ⟨.failedPrecondition ("connectors/" ++ id ++ " is " ++ c.state.name ++
      ", not CONNECTED"), ?_⟩
    rw [writeRecords, run_bind_ok (run_ofExcept_ok hid), run_bind_ok (run_load hload)]
    dsimp only
    rw [if_pos hstate, run_bind_error run_fail]
  cases hbatch : RecordBatch.ofPayload task data with
  | error err =>
    refine .inl ⟨err, ?_⟩
    rw [writeRecords, run_bind_ok (run_ofExcept_ok hid), run_bind_ok (run_load hload)]
    dsimp only
    rw [if_neg (not_not.2 hstate), run_bind_error (run_ofExcept_error hbatch)]
  | ok b =>
  cases hdef : p.registry.byUid c.definitionUid with
  | error err =>
    refine .inl ⟨.ofRegistry err, ?_⟩
    rw [writeRecords, run_bind_ok (run_ofExcept_ok hid), run_bind_ok (run_load hload)]
    dsimp only
    rw [if_neg (not_not.2 hstate), run_bind_ok (run_ofExcept_ok hbatch),
      run_bind_ok run_get, run_bind_error (run_ofRegistry_error hdef)]
  | ok d =>
    refine .inr ⟨id, c, b, d, rfl, hload, hstate, rfl, hdef, ?_⟩
    rw [writeRecords, run_bind_ok (run_ofExcept_ok hid), run_bind_ok (run_load hload)]
    dsimp only
    rw [if_neg (not_not.2 hstate), run_bind_ok (run_ofExcept_ok hbatch),
      run_bind_ok run_get, run_bind_ok (run_ofRegistry_ok hdef), run_bind_ok run_now,
      run_bind_ok run_get]

end Plane

/-- A submission named for a connector permalink and a clock reading: its workflow id is the id
the dispatcher gives them for its workflow, and its parameters name the container by that id. -/
structure Submission.NamedFor (s : Submission) (permalink : String) (nanos : Int) : Prop where
  id : s.options.id = workflowId permalink nanos s.kind
  container : s.payload.get? "container_name" = some (.str s.options.id)

/-- What a request leaves of recorder `r`: its submissions, or one more, of workflow `k`, named
for a connector the tables `t` hold at the clock reading `nanos`. -/
def Recorder.Extends (t : Tables) (nanos : Int) (k : WorkflowKind) (r r' : Recorder) : Prop :=
  r'.submissions = r.submissions ∨
    ∃ c s, t.Holds c ∧ s.kind = k ∧ s.NamedFor c.permalink nanos ∧
      r'.submissions = r.submissions ++ [s]

namespace Plane

variable {p : Plane} {r : Recorder}

/-- A submission with the options the dispatcher gives a held connector, whose parameters name
the container by the id, extends the recorder by a submission named for the connector. -/
theorem submit_extends {q : Plane} {t : Tables} {c : Connector} (ps : WorkflowParams)
    (hq : q.engine = .recorder r) (hc : t.Holds c)
    (hname : ps.containerName = (q.dispatcher.options c.permalink ps.kind).id) :
    ∃ r', ((submit (q.dispatcher.options c.permalink ps.kind) ps).run.run q).2.engine =
      .recorder r' ∧ r.Extends t q.dispatcher.nanos ps.kind r' := by
  obtain ⟨r', he, hr | hr⟩ := submit_recorder hq (q.dispatcher.options c.permalink ps.kind) ps
  · exact ⟨r', he, .inl hr⟩
  · refine ⟨r', he, .inr ⟨c, _, hc, rfl, ⟨rfl, ?_⟩, hr⟩⟩
    rw [WorkflowParams.get?_container_name, hname]

variable (owner : Owner) (type : ConnectorType) (name : String)

theorem delete_extends (hp : p.engine = .recorder r) :
    ∃ r', ((delete owner type name).run.run p).2.engine = .recorder r' ∧
      r.Extends p.tables p.dispatcher.nanos .delete r' := by
  obtain ⟨err, h⟩ | ⟨id, c, t, -, hload, -, h⟩ := delete_run owner type name (p := p)
  · exact ⟨r, by rw [h, hp], .inl rfl⟩
  · rw [h]
    exact submit_extends (q := { p with tables := t })
      (.delete ⟨(p.dispatcher.options c.permalink .delete).id⟩) hp
      (Tables.getConnectorById_holds hload).1 rfl

theorem connect_extends (hp : p.engine = .recorder r) :
    ∃ r', ((connect owner type name).run.run p).2.engine = .recorder r' ∧
      r.Extends p.tables p.dispatcher.nanos .check r' := by
  obtain ⟨err, h⟩ | ⟨id, c, d, -, hload, -, h⟩ := connect_run owner type name (p := p)
  · exact ⟨r, by rw [h, hp], .inl rfl⟩
  · rw [h]
    exact submit_extends (.check ⟨owner.permalink, c.permalink, d.image,
      (p.dispatcher.options c.permalink .check).id⟩) hp (Tables.getConnectorById_holds hload).1
      rfl

theorem writeRecords_extends (task : ModelTask) (data : Json) (hp : p.engine = .recorder r) :
    ∃ r', ((writeRecords owner name task data).run.run p).2.engine = .recorder r' ∧
      r.Extends p.tables p.dispatcher.nanos .write r' := by
  obtain ⟨err, h⟩ | ⟨id, c, b, d, -, hload, -, -, -, h⟩ :=
    writeRecords_run owner name task data (p := p)
  · exact ⟨r, by rw [h, hp], .inl rfl⟩
  · rw [h]
    exact submit_extends (q := { p with clock := p.clock.read.2 })
      (.write ⟨owner.permalink, c.permalink, d.image,
        (p.dispatcher.options c.permalink .write).id,
        Json.compact b.configuredCatalog, b.messages p.clock.read.1.unixMillis⟩) hp
      (Tables.getConnectorById_holds hload).1 rfl

end Plane

end ConnectorPlane