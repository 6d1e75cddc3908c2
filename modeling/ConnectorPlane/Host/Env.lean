/-! # Environment variables

A process sees a set of named variables, each holding a text. A variable set to the empty text
is still set; the places that treat an empty value as unset say so. When `HOME` is unset or
empty, the home directory falls back to the account's entry in the password database.
-/

namespace ConnectorPlane

/-- The variables a process sees, each name at most once, and the home directory of its
account. -/
structure Environment where
  vars : List (String × String) := []
  accountHome : Option String := none
deriving Repr, Inhabited

namespace Environment

/-- The value of a variable. -/
def get? (e : Environment) (name : String) : Option String :=
  (e.vars.find? (·.1 == name)).map (·.2)

/-- The value of a variable that is set and not empty. -/
def nonEmpty? (e : Environment) (name : String) : Option String :=
  (e.get? name).filter (!·.isEmpty)

/-- The environment with a variable set. -/
def set (e : Environment) (name value : String) : Environment :=
  { e with vars := e.vars.filter (·.1 != name) ++ [(name, value)] }

/-- The environment without a variable. -/
def unset (e : Environment) (name : String) : Environment :=
  { e with vars := e.vars.filter (·.1 != name) }

/-- The home directory: `HOME` when set and not empty, else the account's. -/
def home? (e : Environment) : Option String :=
  e.nonEmpty? "HOME" <|> e.accountHome

end Environment

end ConnectorPlane
