import ConnectorPlane.Connector.Kind
import ConnectorPlane.Json.Basic
import ConnectorPlane.Time.Instant
import ConnectorPlane.Uuid

/-! # Connector definitions, connectors and owners

A definition describes a kind of connector a catalog offers: its image and the specification
its configurations follow. A connector is an owner's configured instance of a definition. Both
are named `<collection>/<id>` and reached permanently as `<collection>/<uid>`.
-/

namespace ConnectorPlane

/-- A connector definition from a catalog. -/
structure Definition where
  uid : Uuid
  id : String
  title : String
  connectorType : ConnectorType
  dockerRepository : String
  dockerImageTag : String
  documentationUrl : String
  /-- The specification; absent when not given or not read. -/
  spec : Option Json
  createTime : Instant
  updateTime : Instant
deriving Repr

namespace Definition

/-- `connector-definitions/<id>`. -/
def name (d : Definition) : String := "connector-definitions/" ++ d.id

/-- `connector-definitions/<uid>`. -/
def permalink (d : Definition) : String := "connector-definitions/" ++ d.uid.text

/-- `<repository>:<tag>`. -/
def image (d : Definition) : String := d.dockerRepository ++ ":" ++ d.dockerImageTag

end Definition

/-- An owner's connector. -/
structure Connector where
  uid : Uuid
  id : String
  owner : String
  definitionUid : Uuid
  connectorType : ConnectorType
  description : String
  /-- The configuration; absent when not read. -/
  configuration : Option Json
  state : ConnectorState
  tombstone : Bool
  createTime : Instant
  updateTime : Instant
deriving Repr

namespace Connector

/-- `connectors/<id>`. -/
def name (c : Connector) : String := "connectors/" ++ c.id

/-- `connectors/<uid>`. -/
def permalink (c : Connector) : String := "connectors/" ++ c.uid.text

end Connector

/-- The fields an update sets; an absent field is left as it is. -/
structure ConnectorUpdate where
  description : Option String := none
  configuration : Option Json := none
  state : Option ConnectorState := none
  tombstone : Option Bool := none
deriving Repr

/-- Whether an update sets nothing. -/
def ConnectorUpdate.isEmpty (u : ConnectorUpdate) : Bool :=
  u.description.isNone && u.configuration.isNone && u.state.isNone && u.tombstone.isNone

/-- The user a connector belongs to. -/
structure Owner where
  uid : Uuid
  id : String
deriving DecidableEq, Repr

/-- `users/<uid>`. -/
def Owner.permalink (o : Owner) : String := "users/" ++ o.uid.text

end ConnectorPlane
