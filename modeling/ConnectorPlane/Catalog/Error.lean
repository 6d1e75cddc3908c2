import ConnectorPlane.Connector.Kind
import ConnectorPlane.Uuid

/-! # Why a catalog or registry operation fails -/

namespace ConnectorPlane

/-- A failed catalog load, registry build or registry look-up. -/
inductive RegistryError where
  /-- No definition has this uid. -/
  | unknownDefinition (uid : String)
  /-- Two families declare the same uid. -/
  | duplicateUid (uid : Uuid) (first second : FamilyKind)
  /-- One kind of connector declares an id twice. -/
  | duplicateId (id : String) (type : ConnectorType)
  /-- A catalog file could not be read. -/
  | readCatalog (path detail : String)
  /-- A catalog file is not a valid catalog. -/
  | invalidCatalog (path detail : String)
  /-- A configuration does not suit its definition. -/
  | invalidConfiguration (definition detail : String)
deriving DecidableEq, Repr

namespace RegistryError

/-- The variant's name. -/
def kind : RegistryError → String
  | .unknownDefinition _ => "UnknownDefinition"
  | .duplicateUid _ _ _ => "DuplicateUid"
  | .duplicateId _ _ => "DuplicateId"
  | .readCatalog _ _ => "ReadCatalog"
  | .invalidCatalog _ _ => "InvalidCatalog"
  | .invalidConfiguration _ _ => "InvalidConfiguration"

/-- The text shown for a failure. -/
def message : RegistryError → String
  | .unknownDefinition u => "unknown connector definition '" ++ u ++ "'"
  | .duplicateUid u a b =>
    "connector definition uid " ++ u.text ++ " is declared by both " ++ a.name ++ " and " ++ b.name
  | .duplicateId i t => "connector definition id '" ++ i ++ "' is declared twice for " ++ t.name
  | .readCatalog p d => "failed to read catalog '" ++ p ++ "': " ++ d
  | .invalidCatalog p d => "invalid catalog '" ++ p ++ "': " ++ d
  | .invalidConfiguration d m => "invalid configuration for '" ++ d ++ "': " ++ m

end RegistryError

end ConnectorPlane
