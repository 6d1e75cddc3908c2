/-! # Why a store operation fails

Each failure names its cause; `StoreError.message` is the text shown for it.
-/

namespace ConnectorPlane

/-- A failed store operation. -/
inductive StoreError where
  /-- The database refused a statement, with its own explanation. -/
  | database (detail : String)
  /-- The database file could not be reached. -/
  | io (path detail : String)
  /-- A document could not be written or read as JSON. -/
  | serialization (detail : String)
  /-- No row matched. -/
  | notFound (what : String)
  /-- A page token was refused. -/
  | invalidPageToken (reason : String)
  /-- A stored row holds a value that cannot be read back. -/
  | invalidData (detail : String)
deriving DecidableEq, Repr

namespace StoreError

/-- The variant's name. -/
def kind : StoreError → String
  | .database _ => "Database"
  | .io _ _ => "Io"
  | .serialization _ => "Serialization"
  | .notFound _ => "NotFound"
  | .invalidPageToken _ => "InvalidPageToken"
  | .invalidData _ => "InvalidData"

/-- The text shown for a failure. -/
def message : StoreError → String
  | .database d => "Database error: " ++ d
  | .io p d => "IO error at " ++ p ++ ": " ++ d
  | .serialization d => "Serialization error: " ++ d
  | .notFound w => "Not found: " ++ w
  | .invalidPageToken r => "Invalid page token: " ++ r
  | .invalidData d => "Invalid data: " ++ d

end StoreError

end ConnectorPlane
