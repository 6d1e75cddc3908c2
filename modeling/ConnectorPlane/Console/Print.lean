import ConnectorPlane.Config.Basic
import ConnectorPlane.Connector.Record
import ConnectorPlane.Json.Record
import ConnectorPlane.Store.Listing
import ConnectorPlane.Workflow.Kind

/-! # What the program prints

Records are printed as text for people, or as JSON with `--json`:

* a definition: its name and type, then `title`, `image`, `uid`, `docs` when it has a
  documentation link, and its pretty spec when asked for;
* a connector: its name and state, then `type`, `uid`, `description` when set, `created` (RFC
  3339 with `+00:00`) and its compact configuration when the view carries one;
* a submitted run: `Submitted <workflow id>` and `run <run id>`;
* after a list, a blank line, the total, and the token of the next page when there is one.

As JSON, a record keeps its declared field order and writes times in RFC 3339 with `Z`; a
record inside a wrapper object (a page, a connector with its run) is sorted like any JSON value.
-/

namespace ConnectorPlane

namespace Console

/-- The lines describing a definition; `verbose` adds its spec. -/
def definitionText (d : Definition) (verbose : Bool) : String :=
  d.name ++ "  " ++ d.connectorType.name ++ "\n" ++
  "  title:  " ++ d.title ++ "\n" ++
  "  image:  " ++ d.image ++ "\n" ++
  "  uid:    " ++ d.uid.text ++ "\n" ++
  (if d.documentationUrl.isEmpty then "" else "  docs:   " ++ d.documentationUrl ++ "\n") ++
  (match verbose, d.spec with
   | true, some spec => "  spec:   " ++ Json.pretty spec ++ "\n"
   | _, _ => "")

/-- The lines describing a connector. -/
def connectorText (c : Connector) : String :=
  c.name ++ "  " ++ c.state.name ++ "\n" ++
  "  type:       " ++ c.connectorType.name ++ "\n" ++
  "  uid:        " ++ c.uid.text ++ "\n" ++
  (if c.description.isEmpty then "" else "  description: " ++ c.description ++ "\n") ++
  "  created:    " ++ c.createTime.textAuto ++ "\n" ++
  (match c.configuration with
   | some j => "  configuration: " ++ Json.compact j ++ "\n"
   | none => "")

/-- The lines describing a submitted run. -/
def runText (r : WorkflowRun) : String :=
  "Submitted " ++ r.workflowId ++ "\n  run " ++ r.runId ++ "\n"

/-- The lines after a list: the total and the next page's token, if any. -/
def pageFooter (total : Nat) (nextPageToken : String) : String :=
  "\ntotal: " ++ toString total ++ "\n" ++
    (if nextPageToken.isEmpty then "" else "next page: --page-token " ++ nextPageToken ++ "\n")

/-- A time as a JSON record field. -/
def timeShown (t : Instant) : Shown := .text t.textAutoZ

/-- An optional JSON document as a record field. -/
def docShown : Option Json → Shown
  | some v => .doc v
  | none => .doc .null

/-- A definition as a record. -/
def definitionShown (d : Definition) : Shown :=
  .record [("uid", .text d.uid.text), ("id", .text d.id), ("title", .text d.title),
    ("connector_type", .text d.connectorType.name), ("docker_repository", .text d.dockerRepository),
    ("docker_image_tag", .text d.dockerImageTag), ("documentation_url", .text d.documentationUrl),
    ("spec", docShown d.spec), ("create_time", timeShown d.createTime),
    ("update_time", timeShown d.updateTime)]

/-- A connector as a record. -/
def connectorShown (c : Connector) : Shown :=
  .record [("uid", .text c.uid.text), ("id", .text c.id), ("owner", .text c.owner),
    ("connector_definition_uid", .text c.definitionUid.text),
    ("connector_type", .text c.connectorType.name), ("description", .text c.description),
    ("configuration", docShown c.configuration), ("state", .text c.state.name),
    ("tombstone", .doc (.bool c.tombstone)), ("create_time", timeShown c.createTime),
    ("update_time", timeShown c.updateTime)]

/-- A submitted run as a record. -/
def runShown (r : WorkflowRun) : Shown :=
  .record [("workflow_id", .text r.workflowId), ("run_id", .text r.runId)]

/-- A page as the JSON object a list prints: its items under `key`, sorted. -/
def pageJson {α : Type} (key : String) (shown : α → Shown) (p : Page α) : Json :=
  Json.ofFields [(key, .arr (p.items.map fun a => (shown a).toJson)),
    ("total_size", Json.nat p.totalSize), ("next_page_token", .str p.nextPageToken)]

/-- An optional text as a record field. -/
def optShown : Option String → Shown
  | some s => .text s
  | none => .doc .null

/-- A count as a record field. -/
def countShown (n : Nat) : Shown := .doc (Json.nat n)

/-- The configuration as a record, sections in declared order and `null` when absent. -/
def configShown (c : Config) : Shown :=
  let part {β : Type} (f : β → Shown) : Option β → Shown
    | some b => f b
    | none => .doc .null
  .record [
    ("database", part (fun d => .record [("path", optShown d.path)]) c.database),
    ("catalog", part (fun d => .record [("dir", optShown d.dir)]) c.catalog),
    ("identity", part (fun i => .record [
        ("lookup_timeout_secs", countShown i.lookupTimeoutSecs),
        ("default_owner_id", .text i.defaultOwnerId), ("backend", .text i.backend.name),
        ("url", optShown i.url),
        ("users", .list (i.users.map fun u => .record [("uid", .text u.uid), ("id", .text u.id)]))])
      c.identity),
    ("pipeline", part (fun p => .record [
        ("enabled", .doc (.bool p.enabled)), ("database", optShown p.database),
        ("task_queue", .text p.taskQueue), ("max_concurrent_tasks", countShown p.maxConcurrentTasks),
        ("task_timeout_secs", countShown p.taskTimeoutSecs),
        ("pipeline_timeout_secs", countShown p.pipelineTimeoutSecs)]) c.pipeline),
    ("logging", part (fun l => .record [("level", .text l.level),
        ("json_file", .doc (.bool l.jsonFile))]) c.logging)]

end Console

end ConnectorPlane
