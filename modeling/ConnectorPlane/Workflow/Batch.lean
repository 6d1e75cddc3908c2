import ConnectorPlane.Json.Render
import ConnectorPlane.Service.Error
import ConnectorPlane.Text.Blank
import ConnectorPlane.Request.Metadata

/-! # Model outputs written to a destination

A model task says what kind of output is written: classifications, detections or keypoints.
The records of a write come from the payload member named for the task
(`classification_outputs`, …), which must be an array of objects. They are written under a
catalog of one stream named for the task, as JSON record lines.

`ModelTask.parse?` accepts a task name trimmed, in any ASCII case, with or without a `TASK_`
prefix.
-/

namespace ConnectorPlane

/-- The kind of model output. -/
inductive ModelTask where
  | unspecified
  | classification
  | detection
  | keypoint
deriving DecidableEq, Repr, Inhabited

namespace ModelTask

/-- All tasks. -/
def all : List ModelTask := [.unspecified, .classification, .detection, .keypoint]

/-- The stream the records are written to. -/
def streamName : ModelTask → String
  | .unspecified => "unspecified"
  | .classification => "classification"
  | .detection => "detection"
  | .keypoint => "keypoint"

/-- The payload member holding the records. -/
def rootField (t : ModelTask) : String := t.streamName ++ "_outputs"

/-- Reads a task leniently: trimmed, any ASCII case, one optional `TASK_` prefix. -/
def parse? (s : String) : Option ModelTask :=
  let upper := asciiUpper (Blank.trim s)
  let bare := (upper.dropPrefix? "TASK_").map (·.toString) |>.getD upper
  all.find? (fun t => asciiUpper t.streamName == bare)

end ModelTask

/-- Records to write for a task. -/
structure RecordBatch where
  task : ModelTask
  records : List Json
deriving Repr

namespace RecordBatch

/-- The index of the first record that is not an object. -/
def firstNonObject : List Json → Nat → Option Nat
  | [], _ => none
  | r :: rest, i => if r.isObject then firstNonObject rest (i + 1) else some i

/-- Takes the records of a task out of a payload. -/
def ofPayload (task : ModelTask) (data : Json) : Except ServiceError RecordBatch :=
  let field := task.rootField
  match data.get? field with
  | none => .error (.invalidArgument ("task input array '" ++ field ++ "' is not found in the payload"))
  | some (.arr records) =>
    match firstNonObject records 0 with
    | some i => .error (.invalidArgument ("'" ++ field ++ "[" ++ toString i ++ "]' must be an object"))
    | none => .ok ⟨task, records⟩
  | some _ => .error (.invalidArgument ("'" ++ field ++ "' must be an array"))

/-- The catalog of the one stream the records go to. -/
def configuredCatalog (b : RecordBatch) : Json :=
  Json.ofFields [("streams", .arr [Json.ofFields [
    ("stream", Json.ofFields [("name", .str b.task.streamName),
      ("json_schema", Json.ofFields [("type", .str "object")]),
      ("supported_sync_modes", .arr [.str "full_refresh"])]),
    ("sync_mode", .str "full_refresh"),
    ("destination_sync_mode", .str "append")]])]

/-- One compact JSON record line per record, each ending in a newline. -/
def messages (b : RecordBatch) (emittedAtMillis : Int) : String :=
  String.join (b.records.map fun r =>
    Json.compact (Json.ofFields [("type", .str "RECORD"),
      ("record", Json.ofFields [("stream", .str b.task.streamName), ("data", r),
        ("emitted_at", .num (.int emittedAtMillis))])]) ++ "\n")

end RecordBatch

end ConnectorPlane
