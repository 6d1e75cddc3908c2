import ConnectorPlane.Host.Files
import ConnectorPlane.Json.Render
import ConnectorPlane.Workflow.Error
import ConnectorPlane.Workflow.Kind

/-! # Workflow engines

Services hand their workflows to an engine through `Engine.start`. Three engines stand behind
it:

* a recorder keeps every submission it accepts and names its runs `run-1`, `run-2`, … in order;
  it can be told to refuse the next submission with a given message, which it then forgets;
* a disabled engine refuses every submission, naming the workflow and the id;
* the embedded engine runs the registered workflows, single-attempt, for one task queue. It
  refuses, in this order, a workflow that is not registered, another task queue, another retry
  policy, and an id whose run it still tracks. An accepted run is tracked as running until its
  background run ends and records how it ended; a waiter then takes the finished run, and the
  engine forgets it. Once it tracks `maxTrackedRuns` runs, a submission first drops the finished
  ones. Each of these steps holds the run table alone.

A dispatcher gives every submission its id, `<permalink>.<nanoseconds>.<suffix>`, from a clock
that only moves when set, one attempt, and its task queue.
-/

namespace ConnectorPlane

/-- A submission the recorder accepted. -/
structure Submission where
  options : StartOptions
  kind : WorkflowKind
  payload : Json
deriving Repr

/-- The submissions a recorder accepted, oldest first, and a refusal it holds for the next. -/
structure Recorder where
  submissions : List Submission := []
  failNext : Option String := none
deriving Repr

/-- How a tracked run stands. -/
inductive RunStatus where
  | running
  /-- The run's final context. -/
  | completed (output : Json)
deriving Repr

/-- Whether a run has yet to end. -/
def RunStatus.isRunning : RunStatus → Bool
  | .running => true
  | .completed _ => false

/-- A run the embedded engine tracks. -/
structure Run where
  workflowId : String
  runId : String
  kind : WorkflowKind
  payload : Json
  status : RunStatus := .running
deriving Repr

/-- What a waiter finds when it looks at the run table. -/
inductive Poll where
  /-- No run is tracked under the workflow id. -/
  | missing
  /-- The run has not ended: the waiter waits on, or gives up. -/
  | running
  /-- The run had ended: the waiter takes it, and the engine forgets it. -/
  | taken (run : Run)
deriving Repr

/-- The embedded engine: the queue it serves, whether its workflows are registered, the runs it
tracks, and the run ids it has handed out, oldest first. -/
structure Pipeline where
  taskQueue : String
  registered : Bool
  runs : List Run := []
  runIds : List String := []
deriving Repr

/-- What runs submitted workflows. -/
inductive Engine where
  | recorder (r : Recorder)
  | disabled
  | pipeline (p : Pipeline)
deriving Repr

namespace Pipeline

/-- The run tracked under a workflow id. -/
def run? (p : Pipeline) (workflowId : String) : Option Run :=
  p.runs.find? (·.workflowId == workflowId)

/-- The engine without the run of a workflow id. -/
def forget (p : Pipeline) (workflowId : String) : Pipeline :=
  { p with runs := p.runs.filter (·.workflowId != workflowId) }

/-- The number of tracked runs at which a submission drops the finished ones. -/
def maxTrackedRuns : Nat := 1024

/-- The engine without its finished runs, once it tracks `limit` runs. -/
def prune (p : Pipeline) (limit : Nat) : Pipeline :=
  if limit ≤ p.runs.length then { p with runs := p.runs.filter (·.status.isRunning) } else p

/-- Accepts a run under the run id given, or says why not. -/
def start (p : Pipeline) (o : StartOptions) (kind : WorkflowKind) (payload : Json)
    (runId : String) : Except WorkflowError (WorkflowRun × Pipeline) := do
  unless p.registered do throw (.workflowNotFound kind.workflowName)
  if o.taskQueue ≠ p.taskQueue then
    throw (.submissionFailed ("task queue " ++ o.taskQueue ++ " is not served here (expected " ++
      p.taskQueue ++ ")"))
  if o.maximumAttempts ≠ 1 then
    throw (.submissionFailed ("unsupported retry policy: " ++ toString o.maximumAttempts ++
      " attempts (expected 1)"))
  if (p.run? o.id).isSome then throw (.submissionFailed ("workflow already started: " ++ o.id))
  let run : Run := ⟨o.id, runId, kind, payload, .running⟩
  let p := p.prune maxTrackedRuns
  pure (⟨o.id, runId⟩, { p with runs := p.runs ++ [run], runIds := p.runIds ++ [runId] })

/-- The end of a background run: the entry of its workflow id, whatever it held, becomes the run
with the status it ended with. -/
def finish (p : Pipeline) (run : Run) (status : RunStatus) : Pipeline :=
  { p with runs := (p.forget run.workflowId).runs ++ [{ run with status }] }

/-- A waiter's look at the run of a workflow id: a run that has ended is taken and forgotten. -/
def poll (p : Pipeline) (workflowId : String) : Poll × Pipeline :=
  match p.run? workflowId with
  | none => (.missing, p)
  | some run => if run.status.isRunning then (.running, p) else (.taken run, p.forget workflowId)

/-- Opens the embedded engine on its database file, first making the directory above the file;
a failure to make it ends the start-up, naming the directory. -/
def openAt (fs : Files) (path taskQueue : String) (registered : Bool) :
    Except WorkflowError (Pipeline × Files) :=
  let dir := (HostPath.parent? path).getD ""
  match fs.createDirAll dir with
  | .ok fs' => .ok ({ taskQueue, registered }, fs')
  | .error f => .error (.initFailed (dir ++ ": " ++ f.text))

end Pipeline

namespace Engine

/-- Submits a workflow, giving the outcome and the engine after it; `runId` names the run if the
embedded engine accepts it. -/
def start (e : Engine) (o : StartOptions) (kind : WorkflowKind) (payload : Json)
    (runId : String) : Except WorkflowError WorkflowRun × Engine :=
  match e with
  | .recorder r =>
    match r.failNext with
    | some m => (.error (.submissionFailed m), .recorder { r with failNext := none })
    | none =>
      (.ok ⟨o.id, "run-" ++ toString (r.submissions.length + 1)⟩,
        .recorder { r with submissions := r.submissions ++ [⟨o, kind, payload⟩] })
  | .disabled =>
    (.error (.submissionFailed ("workflow engine is disabled (" ++ kind.workflowName ++ " " ++
      o.id ++ ")")), .disabled)
  | .pipeline p =>
    match p.start o kind payload runId with
    | .ok (run, p') => (.ok run, .pipeline p')
    | .error err => (.error err, .pipeline p)

/-- The run the embedded engine tracks under a workflow id. -/
def run? : Engine → String → Option Run
  | .pipeline p, workflowId => p.run? workflowId
  | _, _ => none

/-- The engine without the run of a workflow id. -/
def forget : Engine → String → Engine
  | .pipeline p, workflowId => .pipeline (p.forget workflowId)
  | e, _ => e

/-- The end of a background run of the embedded engine. -/
def finish : Engine → Run → RunStatus → Engine
  | .pipeline p, run, status => .pipeline (p.finish run status)
  | e, _, _ => e

/-- A waiter's look at the run of a workflow id; only the embedded engine tracks runs. -/
def poll : Engine → String → Poll × Engine
  | .pipeline p, workflowId =>
    let (found, p') := p.poll workflowId
    (found, .pipeline p')
  | e, _ => (.missing, e)

/-- The recorder's submissions. -/
def submissions : Engine → List Submission
  | .recorder r => r.submissions
  | _ => []

end Engine

/-- Gives submissions their ids, attempts and queue. -/
structure Dispatcher where
  taskQueue : String
  /-- The reading of the submission clock, in nanoseconds. -/
  nanos : Int
deriving Repr

namespace Dispatcher

/-- How a dispatcher shows itself in diagnostics. -/
def debugText (d : Dispatcher) : String :=
  "Dispatcher \x7b task_queue: " ++ Json.quote d.taskQueue ++ " \x7d"

/-- The options of a submission for a connector. -/
def options (d : Dispatcher) (permalink : String) (kind : WorkflowKind) : StartOptions :=
  ⟨workflowId permalink d.nanos kind, d.taskQueue, 1⟩

end Dispatcher

end ConnectorPlane
