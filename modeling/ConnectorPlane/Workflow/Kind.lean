import ConnectorPlane.Json.Basic

/-! # Workflows

Three workflows act on a connector: a check of its connection, a write of records to it, and the
removal of its container. A submission names its workflow, an id, a task queue and a retry
policy; the id is `<connector permalink>.<submission time in ns>.<suffix>`.

The parameters of each workflow are records written as JSON objects.
-/

namespace ConnectorPlane

/-- The workflows a connector can run. -/
inductive WorkflowKind where
  | check
  | write
  | delete
deriving DecidableEq, Repr, Inhabited

namespace WorkflowKind

/-- All workflows. -/
def all : List WorkflowKind := [.check, .write, .delete]

/-- The registered name of a workflow. -/
def workflowName : WorkflowKind → String
  | .check => "CheckWorkflow"
  | .write => "WriteWorkflow"
  | .delete => "DeleteWorkflow"

/-- The last part of a workflow id. -/
def suffix : WorkflowKind → String
  | .check => "check"
  | .write => "write"
  | .delete => "delete"

/-- The workflow of an exact registered name. -/
def ofWorkflowName? (name : String) : Option WorkflowKind := all.find? (·.workflowName == name)

/-- The workflow of a suffix. -/
def ofSuffix? (s : String) : Option WorkflowKind := all.find? (·.suffix == s)

end WorkflowKind

/-- The id of a submission. -/
def workflowId (permalink : String) (nanos : Int) (kind : WorkflowKind) : String :=
  permalink ++ "." ++ toString nanos ++ "." ++ kind.suffix

/-- Parameters of a connection check. -/
structure CheckParams where
  ownerPermalink : String
  connectorPermalink : String
  imageName : String
  containerName : String
deriving DecidableEq, Repr

/-- Parameters of a write. -/
structure WriteParams where
  ownerPermalink : String
  connectorPermalink : String
  imageName : String
  containerName : String
  /-- The compact JSON of the catalog the records are written under. -/
  configuredCatalog : String
  /-- One JSON record line per record, each ending in a newline. -/
  messages : String
deriving DecidableEq, Repr

/-- Parameters of a container removal. -/
structure DeleteParams where
  containerName : String
deriving DecidableEq, Repr

/-- The parameters of a submission, by workflow. -/
inductive WorkflowParams where
  | check (p : CheckParams)
  | write (p : WriteParams)
  | delete (p : DeleteParams)
deriving DecidableEq, Repr

namespace WorkflowParams

/-- The workflow the parameters are for. -/
def kind : WorkflowParams → WorkflowKind
  | .check _ => .check
  | .write _ => .write
  | .delete _ => .delete

/-- The parameters as a JSON object. -/
def toJson : WorkflowParams → Json
  | .check p => Json.ofFields [("owner_permalink", .str p.ownerPermalink),
      ("connector_permalink", .str p.connectorPermalink), ("image_name", .str p.imageName),
      ("container_name", .str p.containerName)]
  | .write p => Json.ofFields [("owner_permalink", .str p.ownerPermalink),
      ("connector_permalink", .str p.connectorPermalink), ("image_name", .str p.imageName),
      ("container_name", .str p.containerName), ("configured_catalog", .str p.configuredCatalog),
      ("messages", .str p.messages)]
  | .delete p => Json.ofFields [("container_name", .str p.containerName)]

end WorkflowParams

/-- What a submission asks of the engine besides its parameters. -/
structure StartOptions where
  id : String
  taskQueue : String
  maximumAttempts : Nat
deriving DecidableEq, Repr

/-- An accepted submission. -/
structure WorkflowRun where
  workflowId : String
  runId : String
deriving DecidableEq, Repr

/-- The run as a JSON object. -/
def WorkflowRun.toJson (r : WorkflowRun) : Json :=
  Json.ofFields [("workflow_id", .str r.workflowId), ("run_id", .str r.runId)]

end ConnectorPlane
