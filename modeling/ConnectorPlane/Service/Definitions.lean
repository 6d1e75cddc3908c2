import ConnectorPlane.Service.Plane

/-! # The definition service

Connector definitions come from the registry. Seeding writes every registered definition to
the store, in the registry's order; the store then answers listings and reads by name
(`connector-definitions/<id>`, within a connector type) or by permalink (any type).
-/

namespace ConnectorPlane

namespace Plane

/-- Writes every registered definition to the store and counts them. A failure ends the seeding
and keeps the definitions written before it. -/
def seed : PlaneM Nat := do
  let definitions := (← get).registry.definitions
  for d in definitions do
    upsertDefinition d
  pure definitions.length

/-- A page of the definitions of a type. -/
def listDefinitions (type : ConnectorType) (pageSize : Nat) (pageToken : String) (view : View) :
    PlaneM (Page Definition) := do
  ofStore ((← tables?).listDefinitions type pageSize pageToken view)

/-- The definition a name gives, within a type. -/
def getDefinition (type : ConnectorType) (name : String) (view : View) : PlaneM Definition := do
  let id ← ofExcept (Names.definitionId name)
  ofStore ((← tables?).getDefinitionById id type view)

/-- The definition a permalink gives, whatever its type. -/
def lookupDefinition (permalink : String) (view : View) : PlaneM Definition := do
  let uid ← ofExcept (Names.uid permalink)
  ofStore ((← tables?).getDefinitionByUid uid view)

end Plane

end ConnectorPlane
