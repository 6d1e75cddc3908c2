import ConnectorPlane.Resource.Name
import ConnectorPlane.Store.Error
import ConnectorPlane.Catalog.Error
import ConnectorPlane.Workflow.Error

/-! # Errors of the connector services

Every failure a caller of the services sees is a `ServiceError`, and each carries an
`ErrorCode` that says how a transport reports it. Failures of the layers below are converted:

* a malformed name or permalink stays one;
* a store's not-found stays not-found, a refused page token becomes an invalid argument, and
  every other store failure hides its detail as an internal error;
* an unknown definition keeps its own variant, a configuration that does not suit its
  definition is an invalid argument, and other registry failures are internal;
* every workflow failure is internal, with its text.
-/

namespace ConnectorPlane

/-- How a failure is reported. -/
inductive ErrorCode where
  | invalidArgument
  | notFound
  | alreadyExists
  | failedPrecondition
  | unauthenticated
  | internal
deriving DecidableEq, Repr

namespace ErrorCode

/-- The code's name. -/
def name : ErrorCode → String
  | .invalidArgument => "INVALID_ARGUMENT"
  | .notFound => "NOT_FOUND"
  | .alreadyExists => "ALREADY_EXISTS"
  | .failedPrecondition => "FAILED_PRECONDITION"
  | .unauthenticated => "UNAUTHENTICATED"
  | .internal => "INTERNAL"

/-- The HTTP status of the code. -/
def httpStatus : ErrorCode → Nat
  | .invalidArgument => 400
  | .unauthenticated => 401
  | .notFound => 404
  | .alreadyExists => 409
  | .failedPrecondition => 412
  | .internal => 500

end ErrorCode

/-- A failure of a service call. -/
inductive ServiceError where
  | malformedName (name : String)
  | malformedPermalink (permalink : String)
  | unauthenticated (detail : String)
  | notFound (what : String)
  | invalidArgument (detail : String)
  | alreadyExists (what : String)
  | failedPrecondition (detail : String)
  | unknownConnectorDefinition (uid : String)
  | config (detail : String)
  | internal (detail : String)
deriving DecidableEq, Repr

namespace ServiceError

/-- The variant's name. -/
def kind : ServiceError → String
  | .malformedName _ => "MalformedName"
  | .malformedPermalink _ => "MalformedPermalink"
  | .unauthenticated _ => "Unauthenticated"
  | .notFound _ => "NotFound"
  | .invalidArgument _ => "InvalidArgument"
  | .alreadyExists _ => "AlreadyExists"
  | .failedPrecondition _ => "FailedPrecondition"
  | .unknownConnectorDefinition _ => "UnknownConnectorDefinition"
  | .config _ => "Config"
  | .internal _ => "Internal"

/-- The text shown for a failure. -/
def message : ServiceError → String
  | .malformedName n => "malformed resource name '" ++ n ++ "'"
  | .malformedPermalink p => "malformed resource permalink '" ++ p ++ "'"
  | .unauthenticated d => "Unauthenticated: " ++ d
  | .notFound w => "Not found: " ++ w
  | .invalidArgument d => "Invalid argument: " ++ d
  | .alreadyExists w => "Already exists: " ++ w
  | .failedPrecondition d => "Failed precondition: " ++ d
  | .unknownConnectorDefinition u => "Unknown connector definition: " ++ u
  | .config d => "Configuration error: " ++ d
  | .internal d => "Internal error: " ++ d

/-- How the failure is reported. -/
def code : ServiceError → ErrorCode
  | .malformedName _ | .malformedPermalink _ | .invalidArgument _ => .invalidArgument
  | .unauthenticated _ => .unauthenticated
  | .notFound _ | .unknownConnectorDefinition _ => .notFound
  | .alreadyExists _ => .alreadyExists
  | .failedPrecondition _ => .failedPrecondition
  | .config _ | .internal _ => .internal

/-- A name or permalink failure. -/
def ofResource : ResourceError → ServiceError
  | .malformedName n => .malformedName n
  | .malformedPermalink p => .malformedPermalink p

/-- A store failure; only not-found and refused tokens keep their detail. -/
def ofStore : StoreError → ServiceError
  | .notFound w => .notFound w
  | .invalidPageToken r => .invalidArgument ("invalid page token: " ++ r)
  | _ => .internal "storage operation failed"

/-- A registry failure. -/
def ofRegistry : RegistryError → ServiceError
  | .unknownDefinition u => .unknownConnectorDefinition u
  | e@(.invalidConfiguration _ _) => .invalidArgument e.message
  | e => .internal e.message

/-- A workflow failure. -/
def ofWorkflow (e : WorkflowError) : ServiceError := .internal e.message

end ServiceError

end ConnectorPlane
