/-! # Why a workflow operation fails -/

namespace ConnectorPlane

/-- A failed engine start, submission, run or shutdown. -/
inductive WorkflowError where
  | initFailed (detail : String)
  | workflowNotFound (name : String)
  | submissionFailed (detail : String)
  | executionFailed (detail : String)
  | invalidWorkflow (detail : String)
  /-- Parameters that do not read as the workflow's input. -/
  | params (detail : String)
  | runtime (detail : String)
  | shutdownFailed (detail : String)
deriving DecidableEq, Repr

namespace WorkflowError

/-- The variant's name. -/
def kind : WorkflowError → String
  | .initFailed _ => "InitFailed"
  | .workflowNotFound _ => "WorkflowNotFound"
  | .submissionFailed _ => "SubmissionFailed"
  | .executionFailed _ => "ExecutionFailed"
  | .invalidWorkflow _ => "InvalidWorkflow"
  | .params _ => "Params"
  | .runtime _ => "Runtime"
  | .shutdownFailed _ => "ShutdownFailed"

/-- The text shown for a failure. -/
def message : WorkflowError → String
  | .initFailed d => "Engine initialization failed: " ++ d
  | .workflowNotFound n => "Workflow not found: " ++ n
  | .submissionFailed d => "Workflow submission failed: " ++ d
  | .executionFailed d => "Execution failed: " ++ d
  | .invalidWorkflow d => "Invalid workflow: " ++ d
  | .params d => "Invalid workflow parameters: " ++ d
  | .runtime d => "Runtime error: " ++ d
  | .shutdownFailed d => "Shutdown error: " ++ d

end WorkflowError

end ConnectorPlane
