import ConnectorPlane.Json.MergePatch
import ConnectorPlane.Service.Plane
import ConnectorPlane.Workflow.Batch

/-! # The connector service

An owner's connectors, addressed by `connectors/<id>` within a connector type, or by the
permalink `connectors/<uid>`. Every connector a service returns has its definition's
credentials masked.

* `create` checks, in this order: the id, that the configuration is an object, the definition's
  name, that the registry has the definition for the type, and that the owner has no connector
  of that id and type. A new connector is disconnected.
* `update` patches the stored configuration with the given one, after dropping the masked
  credentials the caller sent back unchanged; an update that sets nothing is refused.
* `rename` keeps the uid; `disconnect` sets the state; `test` runs the pre-check of the
  definition without storing its result.
* `delete`, `connect` and `write` hand a workflow to the engine: a delete removes the row
  first, so that it stays removed when the submission fails; a connect leaves the state to the
  check it submits; a write needs a connected destination and a valid batch of records.
-/

namespace ConnectorPlane

namespace Plane

/-- Creates a connector of a registered definition; it starts disconnected. -/
def create (owner : Owner) (type : ConnectorType) (id definitionName description : String)
    (configuration : Json) : PlaneM Connector := do
  ofExcept (ConnectorId.check id)
  unless configuration.isObject do
    fail (.invalidArgument "configuration must be an object")
  let definitionId ← ofExcept (Names.definitionId definitionName)
  let some definition := (← get).registry.byId? definitionId type
    | fail (.notFound (type.name ++ " connector definition '" ++ definitionId ++ "'"))
  let uid ← newConnectorUid
  let t ← now
  let connector : Connector :=
    { uid, id, owner := owner.permalink, definitionUid := definition.uid
      connectorType := definition.connectorType, description
      configuration := some configuration, state := .disconnected, tombstone := false
      createTime := t, updateTime := t }
  if (← find id owner.permalink type).isSome then
    fail (.alreadyExists ("connectors/" ++ id))
  insertConnector connector
  masked connector

/-- A page of the owner's connectors of a type. -/
def list (owner : Owner) (type : ConnectorType) (pageSize : Nat) (pageToken : String)
    (view : View) : PlaneM (Page Connector) := do
  let page ← ofStore ((← tables?).listConnectors owner.permalink type pageSize pageToken view)
  pure { page with items := ← page.items.mapM masked }

/-- The owner's connector a name gives. -/
def getConnector (owner : Owner) (type : ConnectorType) (name : String) (view : View) :
    PlaneM Connector := do
  let id ← ofExcept (Names.connectorId name)
  masked (← load id owner type view)

/-- The owner's connector a permalink gives. -/
def lookup (owner : Owner) (type : ConnectorType) (permalink : String) (view : View) :
    PlaneM Connector := do
  let uid ← ofExcept (Names.uid permalink)
  masked (← ofStore ((← tables?).getConnectorByUid uid owner.permalink type view))

/-- Sets a description and patches the configuration; answers the connector as stored. -/
def update (owner : Owner) (type : ConnectorType) (name : String) (description : Option String)
    (configuration : Option Json) : PlaneM Connector := do
  let id ← ofExcept (Names.connectorId name)
  let existing ← load id owner type .full
  let configuration ← match configuration with
    | none => pure none
    | some patch => do
      unless patch.isObject do
        fail (.invalidArgument "configuration must be an object")
      let patch ← ofRegistry ((← get).registry.strip existing.definitionUid patch)
      pure (some ((existing.configuration.getD (.obj [])).mergePatch patch))
  let change : ConnectorUpdate := { description, configuration }
  if change.isEmpty then
    fail (.invalidArgument "update carries no fields")
  let t ← now
  modify fun p => { p with tables := p.tables.updateConnector id owner.permalink type change t }
  masked (← load id owner type .full)

/-- Gives a connector a new id. -/
def rename (owner : Owner) (type : ConnectorType) (name newId : String) : PlaneM Connector := do
  let id ← ofExcept (Names.connectorId name)
  ofExcept (ConnectorId.check newId)
  let _ ← load id owner type .basic
  if id ≠ newId then
    if (← find newId owner.permalink type).isSome then
      fail (.alreadyExists ("connectors/" ++ newId))
  let t ← now
  write (·.renameConnector id owner.permalink type newId t)
  masked (← load newId owner type .full)

/-- Removes a connector and submits the removal of its container. -/
def delete (owner : Owner) (type : ConnectorType) (name : String) : PlaneM WorkflowRun := do
  let id ← ofExcept (Names.connectorId name)
  let connector ← load id owner type .basic
  write (·.deleteConnector id owner.permalink type)
  let options := (← get).dispatcher.options connector.permalink .delete
  submit options (.delete ⟨options.id⟩)

/-- Submits a check of a connector's connection. -/
def connect (owner : Owner) (type : ConnectorType) (name : String) :
    PlaneM (Connector × WorkflowRun) := do
  let id ← ofExcept (Names.connectorId name)
  let connector ← load id owner type .full
  let definition ← ofRegistry ((← get).registry.byUid connector.definitionUid)
  let options := (← get).dispatcher.options connector.permalink .check
  let run ← submit options
    (.check ⟨owner.permalink, connector.permalink, definition.image, options.id⟩)
  pure (← masked connector, run)

/-- Marks a connector disconnected. -/
def disconnect (owner : Owner) (type : ConnectorType) (name : String) : PlaneM Connector := do
  let id ← ofExcept (Names.connectorId name)
  let _ ← load id owner type .basic
  let t ← now
  let change : ConnectorUpdate := { state := some .disconnected }
  modify fun p => { p with tables := p.tables.updateConnector id owner.permalink type change t }
  masked (← load id owner type .full)

/-- The state the pre-check of a connector's definition gives its configuration. -/
def test (owner : Owner) (type : ConnectorType) (name : String) : PlaneM ConnectorState := do
  let id ← ofExcept (Names.connectorId name)
  let connector ← load id owner type .full
  let connection ← ofRegistry ((← get).registry.dispatch connector.definitionUid
    (connector.configuration.getD .null))
  pure connection.test

/-- Submits a batch of model outputs to a connected destination. -/
def writeRecords (owner : Owner) (name : String) (task : ModelTask) (data : Json) :
    PlaneM WorkflowRun := do
  let id ← ofExcept (Names.connectorId name)
  let connector ← load id owner .destination .full
  if connector.state ≠ .connected then
    fail (.failedPrecondition ("connectors/" ++ id ++ " is " ++ connector.state.name ++
      ", not CONNECTED"))
  let batch ← ofExcept (RecordBatch.ofPayload task data)
  let definition ← ofRegistry ((← get).registry.byUid connector.definitionUid)
  let t ← now
  let options := (← get).dispatcher.options connector.permalink .write
  submit options (.write ⟨owner.permalink, connector.permalink, definition.image, options.id,
    Json.compact batch.configuredCatalog, batch.messages t.unixMillis⟩)

end Plane

end ConnectorPlane
