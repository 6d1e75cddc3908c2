import ConnectorPlane.Console.Commands
import ConnectorPlane.Console.Print
import ConnectorPlane.Console.Session
import ConnectorPlane.Json.Read
import ConnectorPlane.Service.Connectors

/-! # The catalog and connector commands

Each command calls one service operation in a session and prints its result, as text or, with
`--json`, as JSON. Connector commands first resolve the caller from the owner options (the uid
before the id) and the configured default owner. A bare name is taken within its collection:
`sink` means `connectors/sink`, `http` means `connector-definitions/http`.

`connect` and `write` wait for their run when the engine runs in the session; `connect` then
prints the connector as the check left it. `write` takes its payload from `--data` or from the
file `--data-file` names, and only for destinations.
-/

namespace ConnectorPlane

namespace Console

open Session

/-- A name within its collection: kept when it has a `/`, else put under `collection/`. -/
def resourceName (collection name : String) : String :=
  if name.contains '/' then name else collection ++ "/" ++ name

/-- The metadata the owner options put on a request: the uid first, then the id. -/
def ownerMetadata (inv : Invocation) : Metadata :=
  let withUid := match inv.ownerUid with
    | some uid => (Metadata.ofList []).append headerOwnerUid uid
    | none => Metadata.ofList []
  match inv.ownerId with
  | some id => withUid.append headerOwnerId id
  | none => withUid

/-- A JSON object given on the command line, `label` naming where it came from. -/
def parseObject (label raw : String) : Except Failure Json :=
  match Json.read raw with
  | .error e => .error ⟨label ++ " is not valid JSON", [e.message]⟩
  | .ok v => if v.isObject then .ok v else .error (.plain (label ++ " must be a JSON object"))

/-- Ends with a failure, or goes on with the value. -/
def Session.orFail {α : Type} : Except Failure α → SessionM α
  | .ok a => pure a
  | .error f => throw f

/-- Prints a record as JSON, fields in declared order. -/
def sayShown (s : Shown) : SessionM Unit := say (s.pretty ++ "\n")

/-- Prints a JSON value. -/
def sayJson (v : Json) : SessionM Unit := say (Json.pretty v ++ "\n")

/-- Runs a catalog command. -/
def runDefinitions (inv : Invocation) : SessionM Unit :=
  match inv.action with
  | .listDefinitions type pageSize pageToken view => do
    let page ← onPlane (Plane.listDefinitions type pageSize pageToken view)
    if inv.json then sayJson (pageJson "connector_definitions" definitionShown page)
    else
      if page.items.isEmpty then say ("No " ++ type.name ++ " connector definitions\n")
      for d in page.items do say (definitionText d inv.verbose ++ "\n")
      say (pageFooter page.totalSize page.nextPageToken)
  | .getDefinition type name view => do
    let d ← onPlane (Plane.getDefinition type (resourceName "connector-definitions" name) view)
    if inv.json then sayShown (definitionShown d) else say (definitionText d true)
  | .lookupDefinition permalink view => do
    let d ← onPlane (Plane.lookupDefinition permalink view)
    if inv.json then sayShown (definitionShown d) else say (definitionText d true)
  | _ => pure ()

/-- Prints a connector as a record or as text. -/
def sayConnector (inv : Invocation) (c : Connector) : SessionM Unit :=
  if inv.json then sayShown (connectorShown c) else say (connectorText c)

/-- The payload of `write`: `--data`, else the text of the file `--data-file` names. -/
def payloadText (data dataFile : Option String) (files : Files) (cwd : String) :
    Except Failure String :=
  match data, dataFile with
  | some raw, _ => .ok raw
  | none, some path =>
    match files.readText (HostPath.join cwd path) with
    | .ok text => .ok text
    | .error f => .error ⟨"reading " ++ path, [f.text]⟩
  | none, none => .error (.plain "one of --data or --data-file is required")

/-- Runs a connector command for the owner; `files` and `cwd` are where `--data-file` is read. -/
def runConnectors (inv : Invocation) (files : Files) (cwd : String) : SessionM Unit := do
  let owner ← Session.owner (ownerMetadata inv)
  match inv.action with
  | .createConnector type id definition config description => do
    let configuration ← orFail (parseObject "--config" config)
    let c ← onPlane (Plane.create owner type id (resourceName "connector-definitions" definition)
      description configuration)
    if inv.json then sayShown (connectorShown c)
    else say ("Created " ++ c.name ++ "\n" ++ connectorText c)
  | .listConnectors type pageSize pageToken view => do
    let page ← onPlane (Plane.list owner type pageSize pageToken view)
    if inv.json then sayJson (pageJson "connectors" connectorShown page)
    else
      if page.items.isEmpty then say ("No " ++ type.name ++ " connectors\n")
      for c in page.items do say (connectorText c ++ "\n")
      say (pageFooter page.totalSize page.nextPageToken)
  | .getConnector type name view => do
    sayConnector inv (← onPlane (Plane.getConnector owner type (resourceName "connectors" name) view))
  | .lookupConnector type permalink view => do
    sayConnector inv (← onPlane (Plane.lookup owner type permalink view))
  | .updateConnector type name description config => do
    let name := resourceName "connectors" name
    let configuration ← match config with
      | some raw => some <$> orFail (parseObject "--config" raw)
      | none => pure none
    let c ← onPlane (Plane.update owner type name description configuration)
    if inv.json then sayShown (connectorShown c)
    else say ("Updated " ++ c.name ++ "\n" ++ connectorText c)
  | .renameConnector type name newId => do
    let name := resourceName "connectors" name
    let c ← onPlane (Plane.rename owner type name newId)
    if inv.json then sayShown (connectorShown c)
    else say ("Renamed " ++ name ++ " -> " ++ c.name ++ "\n")
  | .deleteConnector type name => do
    let name := resourceName "connectors" name
    let run ← onPlane (Plane.delete owner type name)
    if inv.json then sayShown (runShown run)
    else
      say ("Deleted " ++ name ++ "\n")
      if inv.verbose then say (runText run)
  | .connectConnector type name => do
    let name := resourceName "connectors" name
    let (_, run) ← onPlane (Plane.connect owner type name)
    wait run
    let c ← onPlane (Plane.getConnector owner type name .basic)
    if inv.json then
      sayJson (Json.ofFields [("connector", (connectorShown c).toJson),
        ("workflow", (runShown run).toJson)])
    else say (runText run ++ connectorText c)
  | .disconnectConnector type name => do
    sayConnector inv (← onPlane (Plane.disconnect owner type (resourceName "connectors" name)))
  | .testConnector type name => do
    let name := resourceName "connectors" name
    let state ← onPlane (Plane.test owner type name)
    if inv.json then sayJson (Json.ofFields [("state", .str state.name)])
    else say (name ++ "  " ++ state.name ++ "\n")
  | .writeRecords type name task data dataFile => do
    if type ≠ .destination then throw (.plain "write is only supported for destination connectors")
    let raw ← orFail (payloadText data dataFile files cwd)
    let payload ← orFail (parseObject "payload" raw)
    let run ← onPlane (Plane.writeRecords owner (resourceName "connectors" name) task payload)
    wait run
    if inv.json then sayShown (runShown run) else say (runText run)
  | _ => pure ()

end Console

end ConnectorPlane
