import ConnectorPlane.Cli.Parse

/-! # The program's commands

The command line has three groups, each with its subcommands:

* `definitions list|get|lookup` browses the catalog of one connector type;
* `connectors create|list|get|lookup|update|rename|delete|connect|disconnect|test|write`
  manages the caller's connectors of one type;
* `config show|which|init|path` shows and starts configuration.

`-t`/`--type` (default `destination`) picks the type for the first two groups and every
subcommand below them. `-v`/`--verbose`, `--json`, `--owner-id` and `--owner-uid` are accepted
everywhere; the owner options also come from `CONDUIT_OWNER_ID` and `CONDUIT_OWNER_UID`.

`Invocation.ofParsed` turns what was read into an `Action` with typed values.
-/

namespace ConnectorPlane

namespace Console

open Cli

/-- An option taking a value, known by its long name. -/
def option (id long valueName help : String) : Arg :=
  { id, shape := .option valueName, long := some long, help }

/-- A required positional argument. -/
def positional (id valueName help : String) : Arg :=
  { id, shape := .positional valueName, help, required := true }

/-- The connector type option of the first two groups. -/
def typeArg : Arg :=
  { option "type" "type" "CONNECTOR_TYPE" "Connector type: source, destination, blockchain, ai" with
    short := some 't', global := true, default := some "destination", kind := .connectorType }

/-- The page size option. -/
def pageSizeArg : Arg :=
  { option "page_size" "page-size" "PAGE_SIZE" "Page size (0 for the default, at most 100)" with
    default := some "0", kind := .count }

/-- The page token option. -/
def pageTokenArg : Arg :=
  { option "page_token" "page-token" "PAGE_TOKEN" "Token from a previous page" with default := some "" }

/-- The view option, with its default. -/
def viewArg (default : String) : Arg :=
  { option "view" "view" "VIEW" "basic or full" with default := some default, kind := .view }

/-- The connector name argument. -/
def connectorNameArg : Arg := positional "name" "NAME" "Connector id or `connectors/<id>`"

/-- The definition option of `create`. -/
def definitionArg : Arg :=
  { option "definition" "definition" "DEFINITION" "Definition id or `connector-definitions/<id>`" with
    short := some 'd', required := true }

/-- The program's options, accepted by every command. -/
def rootArgs : List Arg :=
  [{ id := "verbose", shape := .flag, short := some 'v', long := some "verbose",
     help := "Enable verbose output", global := true },
   { id := "json", shape := .flag, long := some "json", help := "Output as JSON (for scripting)",
     global := true },
   { option "owner_id" "owner-id" "OWNER_ID" "Owner ID sent with the request" with
     env := some "CONDUIT_OWNER_ID", global := true },
   { option "owner_uid" "owner-uid" "OWNER_UID"
       "Owner UID sent with the request (takes precedence over --owner-id)" with
     env := some "CONDUIT_OWNER_UID", global := true }]

/-- The subcommands of `definitions`. -/
def definitionCommands : List Command :=
  [⟨["definitions", "list"], "List connector definitions", [pageSizeArg, pageTokenArg, viewArg "basic"]⟩,
   ⟨["definitions", "get"], "Show a connector definition by id or name",
     [positional "name" "NAME" "Definition id or `connector-definitions/<id>`", viewArg "full"]⟩,
   ⟨["definitions", "lookup"], "Show a connector definition by permalink",
     [positional "permalink" "PERMALINK" "`connector-definitions/<uid>`", viewArg "full"]⟩]

/-- The subcommands of `connectors`. -/
def connectorCommands : List Command :=
  let named (sub about : String) : Command := ⟨["connectors", sub], about, [connectorNameArg]⟩
  [⟨["connectors", "create"], "Create a connector",
     [positional "id" "ID" "Connector id", definitionArg,
      { option "config" "config" "CONFIG" "Configuration as a JSON object" with
        short := some 'c', default := some "\x7b\x7d" },
      { option "description" "description" "DESCRIPTION" "Free-form description" with
        default := some "" }]⟩,
   ⟨["connectors", "list"], "List connectors", [pageSizeArg, pageTokenArg, viewArg "basic"]⟩,
   ⟨["connectors", "get"], "Show a connector by id or name", [connectorNameArg, viewArg "full"]⟩,
   ⟨["connectors", "lookup"], "Show a connector by permalink",
     [positional "permalink" "PERMALINK" "`connectors/<uid>`", viewArg "full"]⟩,
   ⟨["connectors", "update"], "Update description and/or configuration",
     [connectorNameArg, option "description" "description" "DESCRIPTION" "New description",
      { option "config" "config" "CONFIG" "Configuration merge patch as a JSON object" with
        short := some 'c' }]⟩,
   ⟨["connectors", "rename"], "Change a connector's id",
     [connectorNameArg, positional "new_id" "NEW_ID" "New id"]⟩,
   named "delete" "Delete a connector",
   named "connect" "Check connectivity and record the resulting state",
   named "disconnect" "Mark a connector disconnected",
   named "test" "Run the connection pre-check without recording the result",
   ⟨["connectors", "write"], "Write a batch of model outputs through a destination",
     [connectorNameArg,
      { option "task" "task" "TASK" "unspecified, classification, detection, keypoint" with
        default := some "unspecified", kind := .task },
      { option "data" "data" "DATA" "Payload as JSON" with conflictsWith := ["data_file"] },
      { option "data_file" "data-file" "DATA_FILE" "Read the payload from a file" with
        kind := .path }]⟩]

/-- The subcommands of `config`. -/
def configCommands : List Command :=
  [⟨["config", "show"], "Show the resolved configuration", []⟩,
   ⟨["config", "which"], "Show which config files are loaded and their precedence", []⟩,
   ⟨["config", "init"], "Initialize a config file with defaults",
     [{ id := "local", shape := .flag, long := some "local",
        help := "Create project-local config (./conduit.toml) instead of user config" }]⟩,
   ⟨["config", "path"], "Show configuration and data paths", []⟩]

/-- The program's command tree. -/
def grammar : Grammar where
  name := "conduit"
  version := "0.0.0"
  commands :=
    [⟨[], "Conduit - connector control plane", rootArgs⟩,
     ⟨["definitions"], "Browse the connector definition catalog", [typeArg]⟩,
     ⟨["connectors"], "Manage connectors", [typeArg]⟩,
     ⟨["config"], "Configuration management", []⟩] ++
    definitionCommands ++ connectorCommands ++ configCommands

/-- What the program was asked to do. -/
inductive Action where
  | listDefinitions (type : ConnectorType) (pageSize : Nat) (pageToken : String) (view : View)
  | getDefinition (type : ConnectorType) (name : String) (view : View)
  | lookupDefinition (permalink : String) (view : View)
  | createConnector (type : ConnectorType) (id definition config description : String)
  | listConnectors (type : ConnectorType) (pageSize : Nat) (pageToken : String) (view : View)
  | getConnector (type : ConnectorType) (name : String) (view : View)
  | lookupConnector (type : ConnectorType) (permalink : String) (view : View)
  | updateConnector (type : ConnectorType) (name : String) (description config : Option String)
  | renameConnector (type : ConnectorType) (name newId : String)
  | deleteConnector (type : ConnectorType) (name : String)
  | connectConnector (type : ConnectorType) (name : String)
  | disconnectConnector (type : ConnectorType) (name : String)
  | testConnector (type : ConnectorType) (name : String)
  | writeRecords (type : ConnectorType) (name : String) (task : ModelTask)
      (data dataFile : Option String)
  | showConfig
  | whichConfig
  | initConfig (projectLocal : Bool)
  | configPaths
deriving Repr

/-- An action with the options every command accepts. -/
structure Invocation where
  action : Action
  verbose : Bool
  json : Bool
  ownerId : Option String
  ownerUid : Option String
deriving Repr

namespace Invocation

/-- The action the subcommands taken name, with the values read for it. -/
def actionOf (p : Parsed) : Option Action := do
  let type := (ConnectorType.parse? (p.text "type")).getD .destination
  let view := (readView (p.text "view")).getD .basic
  let count := ((readCount (p.text "page_size")).toOption).getD 0
  match p.path with
  | ["definitions", "list"] => pure (.listDefinitions type count (p.text "page_token") view)
  | ["definitions", "get"] => pure (.getDefinition type (p.text "name") view)
  | ["definitions", "lookup"] => pure (.lookupDefinition (p.text "permalink") view)
  | ["connectors", "create"] =>
    pure (.createConnector type (p.text "id") (p.text "definition") (p.text "config")
      (p.text "description"))
  | ["connectors", "list"] => pure (.listConnectors type count (p.text "page_token") view)
  | ["connectors", "get"] => pure (.getConnector type (p.text "name") view)
  | ["connectors", "lookup"] => pure (.lookupConnector type (p.text "permalink") view)
  | ["connectors", "update"] =>
    pure (.updateConnector type (p.text "name") (p.value? "description") (p.value? "config"))
  | ["connectors", "rename"] => pure (.renameConnector type (p.text "name") (p.text "new_id"))
  | ["connectors", "delete"] => pure (.deleteConnector type (p.text "name"))
  | ["connectors", "connect"] => pure (.connectConnector type (p.text "name"))
  | ["connectors", "disconnect"] => pure (.disconnectConnector type (p.text "name"))
  | ["connectors", "test"] => pure (.testConnector type (p.text "name"))
  | ["connectors", "write"] =>
    pure (.writeRecords type (p.text "name") ((ModelTask.parse? (p.text "task")).getD .unspecified)
      (p.value? "data") (p.value? "data_file"))
  | ["config", "show"] => pure .showConfig
  | ["config", "which"] => pure .whichConfig
  | ["config", "init"] => pure (.initConfig (p.flag "local"))
  | ["config", "path"] => pure .configPaths
  | _ => none

/-- The invocation a command line that was read makes. -/
def ofParsed (p : Parsed) : Option Invocation := do
  let action ← actionOf p
  pure ⟨action, p.flag "verbose", p.flag "json", p.value? "owner_id", p.value? "owner_uid"⟩

end Invocation

end Console

end ConnectorPlane
