import ConnectorPlane.Connector.Record
import ConnectorPlane.Json.Read
import ConnectorPlane.Json.Render
import ConnectorPlane.Store.Error
import ConnectorPlane.Time.Rfc3339

/-! # Stored rows

A row holds what the database keeps. Times are kept as fixed-width text, nine fraction digits
and `Z`, so that for the years 0 to 9999 the order of the texts is the order of the times;
documents are kept as compact JSON text. Reading a row back parses both again: a time whose year
needs a sign or a fifth digit is written but does not read back, and such a row is reported as
invalid data when it is read.

The basic view reads neither the specification of a definition nor the configuration of a
connector.
-/

namespace ConnectorPlane

/-- A definition as the definitions table keeps it. -/
structure DefinitionRow where
  uid : Uuid
  id : String
  title : String
  connectorType : ConnectorType
  dockerRepository : String
  dockerImageTag : String
  documentationUrl : String
  /-- The specification's JSON text; absent when the definition has none. -/
  spec : Option String
  createTime : String
  updateTime : String
deriving Repr

/-- A connector as the connectors table keeps it. -/
structure ConnectorRow where
  uid : Uuid
  id : String
  owner : String
  definitionUid : Uuid
  connectorType : ConnectorType
  description : String
  /-- The configuration's JSON text; an absent configuration is kept as `{}`. -/
  configuration : String
  state : ConnectorState
  tombstone : Bool
  createTime : String
  updateTime : String
deriving Repr

namespace Stored

/-- Reads a stored time back. -/
def time (s : String) : Except StoreError Instant :=
  match Instant.parseStrict s with
  | .ok t => .ok t
  | .error f => .error (.invalidData ("timestamp '" ++ s ++ "': " ++ f.text))

/-- Reads a stored document back. -/
def document (s : String) : Except StoreError Json :=
  match Json.read s with
  | .ok v => .ok v
  | .error e => .error (.serialization e.message)

end Stored

/-- The row that keeps a definition. -/
def Definition.toRow (d : Definition) : DefinitionRow :=
  { uid := d.uid, id := d.id, title := d.title, connectorType := d.connectorType
    dockerRepository := d.dockerRepository, dockerImageTag := d.dockerImageTag
    documentationUrl := d.documentationUrl, spec := d.spec.map Json.compact
    createTime := d.createTime.text, updateTime := d.updateTime.text }

/-- The row that keeps a connector. -/
def Connector.toRow (c : Connector) : ConnectorRow :=
  { uid := c.uid, id := c.id, owner := c.owner, definitionUid := c.definitionUid
    connectorType := c.connectorType, description := c.description
    configuration := (c.configuration.getD (.obj [])).compact, state := c.state
    tombstone := c.tombstone, createTime := c.createTime.text, updateTime := c.updateTime.text }

/-- Reads a definition back in a view: the specification first, then the two times. -/
def DefinitionRow.read (r : DefinitionRow) (view : View) : Except StoreError Definition := do
  let spec ← if view.isBasic then pure none else r.spec.mapM Stored.document
  let createTime ← Stored.time r.createTime
  let updateTime ← Stored.time r.updateTime
  pure { uid := r.uid, id := r.id, title := r.title, connectorType := r.connectorType
         dockerRepository := r.dockerRepository, dockerImageTag := r.dockerImageTag
         documentationUrl := r.documentationUrl, spec, createTime, updateTime }

/-- Reads a connector back in a view: the configuration first, then the two times. -/
def ConnectorRow.read (r : ConnectorRow) (view : View) : Except StoreError Connector := do
  let configuration ← if view.isBasic then pure none else some <$> Stored.document r.configuration
  let createTime ← Stored.time r.createTime
  let updateTime ← Stored.time r.updateTime
  pure { uid := r.uid, id := r.id, owner := r.owner, definitionUid := r.definitionUid
         connectorType := r.connectorType, description := r.description, configuration
         state := r.state, tombstone := r.tombstone, createTime, updateTime }

end ConnectorPlane
