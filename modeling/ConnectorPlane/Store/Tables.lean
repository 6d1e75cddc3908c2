import ConnectorPlane.Store.Listing
import ConnectorPlane.Store.Row

/-! # The connector store

Two tables: definitions, keyed by uid and unique in (id, type); connectors, keyed by uid and
unique in (id, owner, type). Every operation is a function of the tables; a write that would
break a uniqueness rule leaves them unchanged and names the rule it would break, as the
database words it.

* Upserting a definition inserts it, or rewrites the definition of the same uid in place,
  keeping that definition's creation time.
* Creating a connector checks (id, owner, type) before the uid.
* Updating and renaming touch the connector of (id, owner, type), if there is one, and stamp it
  with the time given; matching none is not an error. Deleting one that is not there is.
-/

namespace ConnectorPlane

/-- Whether a connector row is the one of (id, owner, type). -/
def ConnectorRow.isAt (id owner : String) (type : ConnectorType) (r : ConnectorRow) : Bool :=
  r.id == id && r.owner == owner && r.connectorType == type

/-- A connector row with an update's fields set and a new update time. -/
def ConnectorRow.apply (u : ConnectorUpdate) (now : Instant) (r : ConnectorRow) : ConnectorRow :=
  { r with description := u.description.getD r.description
           configuration := (u.configuration.map Json.compact).getD r.configuration
           state := u.state.getD r.state
           tombstone := u.tombstone.getD r.tombstone
           updateTime := now.text }

/-- The definitions and connectors of a store. -/
structure Tables where
  definitions : List DefinitionRow := []
  connectors : List ConnectorRow := []
deriving Repr, Inhabited

namespace Tables

/-- The database's words for a second definition of one (id, type). -/
def definitionClash : StoreError :=
  .database "UNIQUE constraint failed: connector_definitions.id, connector_definitions.connector_type"

/-- The database's words for a second connector of one (id, owner, type). -/
def connectorClash : StoreError :=
  .database "UNIQUE constraint failed: connectors.id, connectors.owner, connectors.connector_type"

/-- The database's words for a second connector of one uid. -/
def connectorUidClash : StoreError :=
  .database "UNIQUE constraint failed: connectors.uid"

/-- Where a definition row stands in a listing. -/
def definitionPosition (r : DefinitionRow) : Position := ⟨r.createTime, r.uid.text⟩

/-- Where a connector row stands in a listing. -/
def connectorPosition (r : ConnectorRow) : Position := ⟨r.createTime, r.uid.text⟩

/-- Inserts a definition, or rewrites the definition of its uid keeping its creation time. -/
def upsertDefinition (t : Tables) (d : Definition) : Except StoreError Tables :=
  let row := d.toRow
  if t.definitions.any (fun r => r.uid != row.uid && r.id == row.id &&
      r.connectorType == row.connectorType) then .error definitionClash
  else if t.definitions.any (·.uid == row.uid) then
    .ok { t with definitions := t.definitions.map fun r =>
      if r.uid == row.uid then { row with createTime := r.createTime } else r }
  else .ok { t with definitions := t.definitions ++ [row] }

/-- A page of the definitions of a type. -/
def listDefinitions (t : Tables) (type : ConnectorType) (pageSize : Nat) (token : String)
    (view : View) : Except StoreError (Page Definition) :=
  listPage (t.definitions.filter (·.connectorType == type)) definitionPosition (·.read view)
    (fun d => ⟨d.createTime, d.uid⟩) pageSize token

/-- The definition of an id and type. -/
def getDefinitionById (t : Tables) (id : String) (type : ConnectorType) (view : View) :
    Except StoreError Definition :=
  match t.definitions.find? (fun r => r.id == id && r.connectorType == type) with
  | some r => r.read view
  | none => .error (.notFound ("connector definition '" ++ id ++ "'"))

/-- The definition of a uid, of any type. -/
def getDefinitionByUid (t : Tables) (uid : Uuid) (view : View) : Except StoreError Definition :=
  match t.definitions.find? (·.uid == uid) with
  | some r => r.read view
  | none => .error (.notFound ("connector definition '" ++ uid.text ++ "'"))

/-- Inserts a connector. -/
def createConnector (t : Tables) (c : Connector) : Except StoreError Tables :=
  let row := c.toRow
  if t.connectors.any (ConnectorRow.isAt row.id row.owner row.connectorType) then
    .error connectorClash
  else if t.connectors.any (·.uid == row.uid) then .error connectorUidClash
  else .ok { t with connectors := t.connectors ++ [row] }

/-- A page of an owner's connectors of a type. -/
def listConnectors (t : Tables) (owner : String) (type : ConnectorType) (pageSize : Nat)
    (token : String) (view : View) : Except StoreError (Page Connector) :=
  listPage (t.connectors.filter fun r => r.owner == owner && r.connectorType == type)
    connectorPosition (·.read view) (fun c => ⟨c.createTime, c.uid⟩) pageSize token

/-- The first connector row that `p` picks, read in a view; `what` names it when none does. -/
def findConnector (t : Tables) (p : ConnectorRow → Bool) (what : String) (view : View) :
    Except StoreError Connector :=
  match t.connectors.find? p with
  | some r => r.read view
  | none => .error (.notFound ("connector '" ++ what ++ "'"))

/-- An owner's connector of an id and type. -/
def getConnectorById (t : Tables) (id owner : String) (type : ConnectorType) (view : View) :
    Except StoreError Connector :=
  t.findConnector (ConnectorRow.isAt id owner type) id view

/-- An owner's connector of a uid and type. -/
def getConnectorByUid (t : Tables) (uid : Uuid) (owner : String) (type : ConnectorType)
    (view : View) : Except StoreError Connector :=
  t.findConnector (fun r => r.uid == uid && r.owner == owner && r.connectorType == type)
    uid.text view

/-- An owner's connector of a uid, of any type. -/
def lookupConnector (t : Tables) (uid : Uuid) (owner : String) (view : View) :
    Except StoreError Connector :=
  t.findConnector (fun r => r.uid == uid && r.owner == owner) uid.text view

/-- Sets the fields an update carries on the connector of (id, owner, type). -/
def updateConnector (t : Tables) (id owner : String) (type : ConnectorType)
    (u : ConnectorUpdate) (now : Instant) : Tables :=
  { t with connectors := t.connectors.map fun r =>
      if r.isAt id owner type then r.apply u now else r }

/-- Gives the connector of (id, owner, type) a new id. -/
def renameConnector (t : Tables) (id owner : String) (type : ConnectorType) (newId : String)
    (now : Instant) : Except StoreError Tables :=
  match t.connectors.find? (ConnectorRow.isAt id owner type) with
  | none => .ok t
  | some found =>
    if t.connectors.any (fun r => r.uid != found.uid && r.isAt newId owner type) then
      .error connectorClash
    else .ok { t with connectors := t.connectors.map fun r =>
      if r.uid == found.uid then { r with id := newId, updateTime := now.text } else r }

/-- Removes the connector of (id, owner, type). -/
def deleteConnector (t : Tables) (id owner : String) (type : ConnectorType) :
    Except StoreError Tables :=
  if t.connectors.any (ConnectorRow.isAt id owner type) then
    .ok { t with connectors := t.connectors.filter fun r => !r.isAt id owner type }
  else .error (.notFound ("connector '" ++ id ++ "'"))

end Tables

end ConnectorPlane
