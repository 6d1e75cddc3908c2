import ConnectorPlane.Json.Basic
import ConnectorPlane.Host.Path

/-! # Configuration

The configuration has five optional sections: the database, the catalog, identity, the
pipeline and logging. A missing section means its defaults; a present one takes the defaults
for the fields it leaves out.

* `Config.merge` lets each section of a later layer replace the earlier one whole.
* `Config.validate` checks, in order, that the identity look-up timeout is positive, that an
  HTTP identity backend has a URL, that every static user has a uid and an id, and that the
  pipeline's task queue is named.
* Paths of the database, the pipeline database and the catalog directory are taken as
  configured when absolute, and otherwise joined onto the data directory (with `conduit.db`,
  `pipeline.db` and `catalog` when not configured).
-/

namespace ConnectorPlane

/-- Where owners are looked up. -/
inductive IdentityBackend where
  | static
  | http
deriving DecidableEq, Repr, Inhabited

/-- The lowercase name of a backend. -/
def IdentityBackend.name : IdentityBackend → String
  | .static => "static"
  | .http => "http"

/-- A user known to the static backend. -/
structure StaticUser where
  uid : String
  id : String
deriving DecidableEq, Repr

/-- The `[database]` section. -/
structure DatabaseConfig where
  path : Option String := none
deriving DecidableEq, Repr

/-- The `[catalog]` section. -/
structure CatalogConfig where
  dir : Option String := none
deriving DecidableEq, Repr

/-- The `[identity]` section. -/
structure IdentityConfig where
  lookupTimeoutSecs : Nat := 5
  defaultOwnerId : String := "local-user"
  backend : IdentityBackend := .static
  url : Option String := none
  users : List StaticUser := []
deriving DecidableEq, Repr

/-- The `[pipeline]` section. -/
structure PipelineSection where
  enabled : Bool := true
  database : Option String := none
  taskQueue : String := "connector-backend"
  maxConcurrentTasks : Nat := 4
  taskTimeoutSecs : Nat := 300
  pipelineTimeoutSecs : Nat := 600
deriving DecidableEq, Repr

/-- The `[logging]` section. -/
structure LoggingConfig where
  level : String := "info"
  jsonFile : Bool := true
deriving DecidableEq, Repr

/-- A configuration: each section present or not. -/
structure Config where
  database : Option DatabaseConfig := none
  catalog : Option CatalogConfig := none
  identity : Option IdentityConfig := none
  pipeline : Option PipelineSection := none
  logging : Option LoggingConfig := none
deriving DecidableEq, Repr

/-- Why configuration could not be loaded, saved or accepted. -/
inductive ConfigError where
  | readFile (path detail : String)
  | writeFile (path detail : String)
  | parse (detail : String)
  | serialize (detail : String)
  | invalidValue (field message : String)
deriving DecidableEq, Repr

namespace ConfigError

/-- The variant's name. -/
def kind : ConfigError → String
  | .readFile _ _ => "ReadFile"
  | .writeFile _ _ => "WriteFile"
  | .parse _ => "Parse"
  | .serialize _ => "Serialize"
  | .invalidValue _ _ => "InvalidValue"

/-- The text shown for a failure. -/
def message : ConfigError → String
  | .readFile p d => "failed to read config file '" ++ p ++ "': " ++ d
  | .writeFile p d => "failed to write config file '" ++ p ++ "': " ++ d
  | .parse d => "failed to parse config: " ++ d
  | .serialize d => "failed to serialize config: " ++ d
  | .invalidValue f m => "invalid value for '" ++ f ++ "': " ++ m

end ConfigError

namespace Config

/-- Replaces each section that `other` has. -/
def merge (c other : Config) : Config where
  database := other.database <|> c.database
  catalog := other.catalog <|> c.catalog
  identity := other.identity <|> c.identity
  pipeline := other.pipeline <|> c.pipeline
  logging := other.logging <|> c.logging

/-- The identity section or its defaults. -/
def identityOrDefault (c : Config) : IdentityConfig := c.identity.getD {}

/-- The pipeline section or its defaults. -/
def pipelineOrDefault (c : Config) : PipelineSection := c.pipeline.getD {}

/-- The logging section or its defaults. -/
def loggingOrDefault (c : Config) : LoggingConfig := c.logging.getD {}

/-- Checks the values that loading cannot. -/
def validate (c : Config) : Except ConfigError Unit := do
  let identity := c.identityOrDefault
  if identity.lookupTimeoutSecs = 0 then
    throw (.invalidValue "identity.lookup_timeout_secs" "must be greater than zero")
  if identity.backend = .http ∧ identity.url.isNone then
    throw (.invalidValue "identity.url" "required when identity.backend = \"http\"")
  if identity.users.any (fun u => u.uid.isEmpty || u.id.isEmpty) then
    throw (.invalidValue "identity.users" "every user needs a uid and an id")
  if c.pipelineOrDefault.taskQueue.isEmpty then
    throw (.invalidValue "pipeline.task_queue" "must not be empty")

/-- A configured path, or a default, taken relative to a base unless absolute. -/
def resolvePath (base : String) (configured : Option String) (default : String) : String :=
  HostPath.join base (configured.getD default)

/-- Where the database is. -/
def databasePath (c : Config) (dataDir : String) : String :=
  resolvePath dataDir (c.database.bind (·.path)) "conduit.db"

/-- Where the pipeline database is. -/
def pipelineDatabasePath (c : Config) (dataDir : String) : String :=
  resolvePath dataDir (c.pipeline.bind (·.database)) "pipeline.db"

/-- Where the catalog files are. -/
def catalogDir (c : Config) (dataDir : String) : String :=
  resolvePath dataDir (c.catalog.bind (·.dir)) "catalog"

end Config

/-! ## JSON -/

/-- A JSON integer of a count. -/
private def natJson (n : Nat) : Json := .num (.int n)

/-- The identity section as JSON. -/
def IdentityConfig.toJson (i : IdentityConfig) : Json :=
  Json.ofFields [("lookup_timeout_secs", natJson i.lookupTimeoutSecs),
    ("default_owner_id", .str i.defaultOwnerId), ("backend", .str i.backend.name),
    ("url", Json.optStr i.url),
    ("users", .arr (i.users.map fun u => Json.ofFields [("uid", .str u.uid), ("id", .str u.id)]))]

/-- The pipeline section as JSON. -/
def PipelineSection.toJson (p : PipelineSection) : Json :=
  Json.ofFields [("enabled", .bool p.enabled), ("database", Json.optStr p.database),
    ("task_queue", .str p.taskQueue), ("max_concurrent_tasks", natJson p.maxConcurrentTasks),
    ("task_timeout_secs", natJson p.taskTimeoutSecs),
    ("pipeline_timeout_secs", natJson p.pipelineTimeoutSecs)]

/-- The logging section as JSON. -/
def LoggingConfig.toJson (l : LoggingConfig) : Json :=
  Json.ofFields [("level", .str l.level), ("json_file", .bool l.jsonFile)]

/-- The configuration as JSON; an absent section is `null`. -/
def Config.toJson (c : Config) : Json :=
  let opt {α : Type} (f : α → Json) : Option α → Json
    | some a => f a
    | none => .null
  Json.ofFields [
    ("database", opt (fun d => Json.ofFields [("path", Json.optStr d.path)]) c.database),
    ("catalog", opt (fun d => Json.ofFields [("dir", Json.optStr d.dir)]) c.catalog),
    ("identity", opt IdentityConfig.toJson c.identity),
    ("pipeline", opt PipelineSection.toJson c.pipeline),
    ("logging", opt LoggingConfig.toJson c.logging)]

end ConnectorPlane
