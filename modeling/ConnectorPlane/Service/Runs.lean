import ConnectorPlane.Service.Plane
import ConnectorPlane.Text.Blank

/-! # Running workflows

The embedded engine runs a workflow's single task on the parameters it was started with:

* the check task runs the pre-check of the connector's definition on its stored
  configuration and stores the state it gives, `ERROR` when the definition is unknown;
* the write task counts the record lines that are not blank;
* the delete task has nothing to do here.

A task fails when its parameters do not read as the workflow's parameters, or when the check
cannot find the connector; its failure text is then the service's. A run reports `Running`
until its background run ends, `Completed` with the parameters and, if the task succeeded, its
result. A wait that is not zero outlasts the task, so the run ends within it and the waiter takes
it; a wait of zero gives up before the run can end.
-/

namespace ConnectorPlane

namespace Json

/-- The string members of an object in the order named, or the strings of an array holding
exactly that many; extra members of an object are ignored. -/
def stringFields? (names : List String) : Json → Option (List String)
  | .obj fs => names.mapM fun n => (Json.Fields.get? fs n).bind Json.getStr?
  | .arr xs => if xs.length = names.length then xs.mapM Json.getStr? else none
  | _ => none

end Json

/-- Check parameters read from JSON. -/
def CheckParams.ofJson? (j : Json) : Option CheckParams :=
  match j.stringFields? ["owner_permalink", "connector_permalink", "image_name",
      "container_name"] with
  | some [o, c, i, n] => some ⟨o, c, i, n⟩
  | _ => none

/-- Write parameters read from JSON. -/
def WriteParams.ofJson? (j : Json) : Option WriteParams :=
  match j.stringFields? ["owner_permalink", "connector_permalink", "image_name",
      "container_name", "configured_catalog", "messages"] with
  | some [o, c, i, n, cat, m] => some ⟨o, c, i, n, cat, m⟩
  | _ => none

/-- Delete parameters read from JSON. -/
def DeleteParams.ofJson? (j : Json) : Option DeleteParams :=
  match j.stringFields? ["container_name"] with
  | some [n] => some ⟨n⟩
  | _ => none

/-- The number of lines of a text that hold more than white space. -/
def countRecords (messages : String) : Nat :=
  ((messages.toList.splitOn '\n').filter fun line =>
    !(Blank.trim (String.ofList line)).isEmpty).length

/-- A run's id and status. -/
structure RunReport where
  runId : String
  status : RunStatus
deriving Repr

/-- The report as a JSON object. -/
def RunReport.toJson (r : RunReport) : Json :=
  let (status, output) := match r.status with
    | .running => ("Running", Json.null)
    | .completed o => ("Completed", o)
  Json.ofFields [("run_id", .str r.runId), ("status", .str status), ("output", output)]

namespace Plane

/-- The check task: stores and answers the state the pre-check gives the connector's stored
configuration, or `ERROR` when its definition is unknown. -/
def checkConnector (ownerPermalink connectorPermalink : String) : PlaneM ConnectorState := do
  let uid ← ofExcept (Names.uid connectorPermalink)
  let connector ← ofStore ((← tables?).lookupConnector uid ownerPermalink .full)
  let state := match (← get).registry.dispatch connector.definitionUid
      (connector.configuration.getD .null) with
    | .ok connection => connection.test
    | .error _ => .error
  let t ← now
  let change : ConnectorUpdate := { state := some state }
  modify fun p => { p with
    tables := p.tables.updateConnector connector.id ownerPermalink connector.connectorType change t }
  pure state

/-- The check task's output, a failure reported with the service's text. -/
def checkTask (p : CheckParams) : StateM Plane (Except WorkflowError Json) := do
  match ← (checkConnector p.ownerPermalink p.connectorPermalink).run with
  | .ok state => pure (.ok (Json.ofFields [("state", .str state.name)]))
  | .error e => pure (.error (.executionFailed e.message))

/-- The write task's output. -/
def writeTask (p : WriteParams) : Json :=
  Json.ofFields [("records", Json.nat (countRecords p.messages))]

/-- The output of a workflow's task on a payload, if the payload reads as its parameters and
the task succeeds. -/
def runTask (kind : WorkflowKind) (payload : Json) : StateM Plane (Option Json) :=
  match kind with
  | .check =>
    match CheckParams.ofJson? payload with
    | some p => do
      match ← checkTask p with
      | .ok out => pure (some out)
      | .error _ => pure none
    | none => pure none
  | .write => pure ((WriteParams.ofJson? payload).map writeTask)
  | .delete => pure ((DeleteParams.ofJson? payload).map fun _ => Json.null)

/-- The background run of a run: runs its task and records the run completed with its
parameters and, if the task succeeded, its result. -/
def finishRun (run : Run) : StateM Plane Unit := do
  let result ← runTask run.kind run.payload
  let output := Json.ofFields ([("params", run.payload)] ++
    (result.map fun r => [("result", r)]).getD [])
  modify fun p => { p with engine := p.engine.finish run (.completed output) }

/-- Waits for the run of a workflow id and takes it. A wait that is not zero outlasts the run's
task, which ends first; a wait of zero gives up at its first look. -/
def waitRun (workflowId : String) (timeoutMs : Nat) :
    StateM Plane (Except WorkflowError RunReport) := do
  if timeoutMs ≠ 0 then
    if let some run := (← get).engine.run? workflowId then
      if run.status.isRunning then finishRun run
  let found ← modifyGet fun p =>
    let (found, engine) := p.engine.poll workflowId
    (found, { p with engine })
  match found with
  | .missing => pure (.error (.workflowNotFound workflowId))
  | .running => pure (.error (.executionFailed ("timed out waiting for " ++ workflowId)))
  | .taken run => pure (.ok ⟨run.runId, run.status⟩)

/-- The report of a run the engine tracks. -/
def runStatus (p : Plane) (workflowId : String) : Option RunReport :=
  (p.engine.run? workflowId).map fun run => ⟨run.runId, run.status⟩

end Plane

end ConnectorPlane
