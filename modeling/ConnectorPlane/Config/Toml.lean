import ConnectorPlane.Config.Basic
import ConnectorPlane.Toml.Read
import ConnectorPlane.Toml.Decode
import ConnectorPlane.Toml.Write

/-! # Configuration files

A configuration file is TOML. Each section is a table whose fields are read by name, unknown
keys ignored; counts are non-negative integers, the backend is `static` or `http`, and each
static user needs a `uid` and an `id`. Written back, a configuration lists its present
sections in the order database, catalog, identity, pipeline, logging, each field in its
declared order, an absent optional field left out.
-/

namespace ConnectorPlane

namespace Config

/-- The largest count a field accepts. -/
def countMax : Int := 9223372036854775807

/-- A count. -/
def count (v : TomlValue) : Option Nat := (v.asIntIn? 0 countMax).map Int.toNat

/-- A backend name. -/
def backendOf (v : TomlValue) : Option IdentityBackend :=
  match v with
  | .string "static" => some .static
  | .string "http" => some .http
  | _ => none

/-- A static user. -/
def userOf (v : TomlValue) : Option StaticUser :=
  match v with
  | .table _ => do
    let uid ← (v.get? "uid").bind TomlValue.asString?
    let id ← (v.get? "id").bind TomlValue.asString?
    pure ⟨uid, id⟩
  | _ => none

/-- A section table, read by `read` when present. -/
def section? {α : Type} (doc : TomlValue) (name : String) (read : TomlValue → Except DecodeError α) :
    Except DecodeError (Option α) :=
  match doc.get? name with
  | none => pure none
  | some t@(.table _) => some <$> read t
  | some _ => throw (.invalidValue name)

/-- Reads the identity section. -/
def identityOf (t : TomlValue) : Except DecodeError IdentityConfig := do
  let d : IdentityConfig := {}
  pure {
    lookupTimeoutSecs := ← t.fieldOr "lookup_timeout_secs" count d.lookupTimeoutSecs
    defaultOwnerId := ← t.fieldOr "default_owner_id" TomlValue.asString? d.defaultOwnerId
    backend := ← t.fieldOr "backend" backendOf d.backend
    url := ← t.field? "url" TomlValue.asString?
    users := ← t.fieldOr "users" (fun v => v.asArray?.bind (·.mapM userOf)) d.users }

/-- Reads the pipeline section. -/
def pipelineOf (t : TomlValue) : Except DecodeError PipelineSection := do
  let d : PipelineSection := {}
  pure {
    enabled := ← t.fieldOr "enabled" TomlValue.asBool? d.enabled
    database := ← t.field? "database" TomlValue.asString?
    taskQueue := ← t.fieldOr "task_queue" TomlValue.asString? d.taskQueue
    maxConcurrentTasks := ← t.fieldOr "max_concurrent_tasks" count d.maxConcurrentTasks
    taskTimeoutSecs := ← t.fieldOr "task_timeout_secs" count d.taskTimeoutSecs
    pipelineTimeoutSecs := ← t.fieldOr "pipeline_timeout_secs" count d.pipelineTimeoutSecs }

/-- Reads a configuration from its TOML document. -/
def ofTomlValue (doc : TomlValue) : Except DecodeError Config := do
  pure {
    database := ← section? doc "database" fun t => do
      pure { path := ← t.field? "path" TomlValue.asString? }
    catalog := ← section? doc "catalog" fun t => do
      pure { dir := ← t.field? "dir" TomlValue.asString? }
    identity := ← section? doc "identity" identityOf
    pipeline := ← section? doc "pipeline" pipelineOf
    logging := ← section? doc "logging" fun t => do
      let d : LoggingConfig := {}
      pure { level := ← t.fieldOr "level" TomlValue.asString? d.level
             jsonFile := ← t.fieldOr "json_file" TomlValue.asBool? d.jsonFile } }

/-- Reads a configuration from TOML text. -/
def ofToml (text : String) : Except ConfigError Config :=
  match TomlValue.read text with
  | .error _ => throw (.parse "TOML parse error")
  | .ok doc => match ofTomlValue doc with
    | .ok c => pure c
    | .error _ => throw (.parse "TOML parse error")

/-- Present optional fields only. -/
def optField (k : String) : Option String → List (String × TomlValue)
  | some v => [(k, .string v)]
  | none => []

/-- The configuration as a TOML table in declared order. -/
def toTomlValue (c : Config) : List (String × TomlValue) :=
  let sect {α : Type} (k : String) (f : α → List (String × TomlValue)) :
      Option α → List (String × TomlValue)
    | some a => [(k, .table (f a))]
    | none => []
  sect "database" (fun d => optField "path" d.path) c.database ++
  sect "catalog" (fun d => optField "dir" d.dir) c.catalog ++
  sect "identity" (fun i =>
    [("lookup_timeout_secs", .integer i.lookupTimeoutSecs),
     ("default_owner_id", .string i.defaultOwnerId),
     ("backend", .string i.backend.name)] ++ optField "url" i.url ++
    [("users", .array (i.users.map fun u => .table [("uid", .string u.uid), ("id", .string u.id)]))])
    c.identity ++
  sect "pipeline" (fun p =>
    [("enabled", .boolean p.enabled)] ++ optField "database" p.database ++
    [("task_queue", .string p.taskQueue), ("max_concurrent_tasks", .integer p.maxConcurrentTasks),
     ("task_timeout_secs", .integer p.taskTimeoutSecs),
     ("pipeline_timeout_secs", .integer p.pipelineTimeoutSecs)]) c.pipeline ++
  sect "logging" (fun l => [("level", .string l.level), ("json_file", .boolean l.jsonFile)]) c.logging

/-- The TOML text of a configuration. -/
def toToml (c : Config) : String := TomlValue.writeDocument c.toTomlValue

end Config

end ConnectorPlane
