import ConnectorPlane.Text.Blank
import ConnectorPlane.Request.Metadata

/-! # Kinds of connectors, their states and views

A connector moves data from a source, to a destination, from a blockchain, or through an AI
model. Its state says whether its last check succeeded. A view says how much of a record a
read returns: `basic` leaves out specifications and configurations.

`ConnectorType.parse?` accepts a type name after trimming white space and ignoring ASCII case,
with or without one `CONNECTOR_TYPE_` prefix; `ConnectorState.parse?` accepts only the exact
uppercase names.
-/

namespace ConnectorPlane

/-- What a connector connects to. -/
inductive ConnectorType where
  | source
  | destination
  | blockchain
  | ai
deriving DecidableEq, Repr, Inhabited

namespace ConnectorType

/-- All kinds. -/
def all : List ConnectorType := [.source, .destination, .blockchain, .ai]

/-- The uppercase name. -/
def name : ConnectorType → String
  | .source => "SOURCE"
  | .destination => "DESTINATION"
  | .blockchain => "BLOCKCHAIN"
  | .ai => "AI"

/-- The kind of an exact uppercase name. -/
def ofName? (s : String) : Option ConnectorType := all.find? (·.name == s)

/-- Reads a kind leniently: trimmed, any ASCII case, one optional `CONNECTOR_TYPE_` prefix. -/
def parse? (s : String) : Option ConnectorType :=
  let upper := asciiUpper (Blank.trim s)
  let bare := (upper.dropPrefix? "CONNECTOR_TYPE_").map (·.toString) |>.getD upper
  ofName? bare

end ConnectorType

/-- Whether a connector works. -/
inductive ConnectorState where
  | unspecified
  | disconnected
  | connected
  | error
deriving DecidableEq, Repr, Inhabited

namespace ConnectorState

/-- All states. -/
def all : List ConnectorState := [.unspecified, .disconnected, .connected, .error]

/-- The uppercase name. -/
def name : ConnectorState → String
  | .unspecified => "UNSPECIFIED"
  | .disconnected => "DISCONNECTED"
  | .connected => "CONNECTED"
  | .error => "ERROR"

/-- The state of an exact uppercase name. -/
def parse? (s : String) : Option ConnectorState := all.find? (·.name == s)

end ConnectorState

/-- How much of a record a read returns. -/
inductive View where
  | basic
  | full
deriving DecidableEq, Repr, Inhabited

namespace View

/-- The uppercase name. -/
def name : View → String
  | .basic => "BASIC"
  | .full => "FULL"

/-- Whether specifications and configurations are left out. -/
def isBasic : View → Bool
  | .basic => true
  | .full => false

/-- The view of an exact uppercase name. -/
def ofName? (s : String) : Option View := [View.basic, .full].find? (·.name == s)

end View

/-- A family of connector definitions, one per catalog file. -/
inductive FamilyKind where
  | destination
  | source
  | blockchain
  | ai
deriving DecidableEq, Repr, Inhabited

namespace FamilyKind

/-- The families in registration order. -/
def order : List FamilyKind := [.destination, .source, .blockchain, .ai]

/-- The position in registration order. -/
def rank : FamilyKind → Nat
  | .destination => 0
  | .source => 1
  | .blockchain => 2
  | .ai => 3

/-- The kind of connector a family defines. -/
def connectorType : FamilyKind → ConnectorType
  | .destination => .destination
  | .source => .source
  | .blockchain => .blockchain
  | .ai => .ai

/-- The lowercase name. -/
def name : FamilyKind → String
  | .destination => "destination"
  | .source => "source"
  | .blockchain => "blockchain"
  | .ai => "ai"

/-- The family of a lowercase name. -/
def ofName? (s : String) : Option FamilyKind := order.find? (·.name == s)

/-- The catalog file of a family. -/
def catalogFile (k : FamilyKind) : String := k.name ++ ".toml"

end FamilyKind

end ConnectorPlane
