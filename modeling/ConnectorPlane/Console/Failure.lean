import ConnectorPlane.Catalog.Error
import ConnectorPlane.Config.Basic
import ConnectorPlane.Service.Error
import ConnectorPlane.Store.Error
import ConnectorPlane.Workflow.Error

/-! # Failures as the program reports them

A failure is a message with the chain of causes beneath it, the nearest first. It is written to
standard error as `Error: <message>`; when there are causes, a blank line and `Caused by:`
follow, then each cause on its own line: a single cause indented by four spaces, several
numbered from 0, the number right-aligned in five places and followed by `: `. Further lines of
a cause keep the indentation of its first.

The causes of a failure come from where it arose: a store that cannot reach its directory names
the operating system's words; a database that refuses to open adds its own words and its
numbered result code.
-/

namespace ConnectorPlane

/-- A failure: its message and the causes beneath it, nearest first. -/
structure Failure where
  message : String
  causes : List String := []
deriving Repr

namespace Failure

/-- A text right-aligned in `width` places. -/
def alignRight (width : Nat) (s : String) : String :=
  String.ofList (List.replicate (width - s.length) ' ') ++ s

/-- A cause's lines: the first after `lead`, the others after `width` spaces. -/
def indented (lead : String) (width : Nat) (cause : String) : String :=
  match cause.splitOn "\n" with
  | [] => lead
  | first :: rest =>
    lead ++ first ++ String.join (rest.map fun l => "\n" ++ String.ofList (List.replicate width ' ') ++ l)

/-- The text written for a failure, ending in a newline. -/
def render (f : Failure) : String :=
  let chain := match f.causes with
    | [] => ""
    | [c] => "\n\nCaused by:\n" ++ indented "    " 4 c
    | cs => "\n\nCaused by:" ++ String.join (cs.zipIdx.map fun (c, i) =>
        "\n" ++ indented (alignRight 5 (toString i) ++ ": ") 7 c)
  "Error: " ++ f.message ++ chain ++ "\n"

/-- A failure with a message of its own above an earlier failure. -/
def within (message : String) (f : Failure) : Failure :=
  ⟨message, f.message :: f.causes⟩

/-- A failure with no causes. -/
def plain (message : String) : Failure := ⟨message, []⟩

end Failure

/-- The database's own words for a result code it reports. -/
def databaseCode (detail : String) : List String :=
  if detail == "unable to open database file" then ["Error code 14: Unable to open the database file"]
  else if detail == "file is not a database" then
    ["Error code 26: File opened that is not a database file"]
  else []

/-- A store failure with its causes. -/
def StoreError.toFailure : StoreError → Failure
  | e@(.io _ detail) => ⟨e.message, [detail]⟩
  | e@(.database detail) => ⟨e.message, detail :: databaseCode detail⟩
  | e => .plain e.message

/-- A registry failure with its causes. -/
def RegistryError.toFailure : RegistryError → Failure
  | e@(.readCatalog _ detail) | e@(.invalidCatalog _ detail) => ⟨e.message, [detail]⟩
  | e => .plain e.message

/-- A service failure: its message alone. -/
def ServiceError.toFailure (e : ServiceError) : Failure := .plain e.message

/-- A workflow failure: its message alone. -/
def WorkflowError.toFailure (e : WorkflowError) : Failure := .plain e.message

/-- A configuration failure with its causes. -/
def ConfigError.toFailure : ConfigError → Failure
  | e@(.readFile _ detail) | e@(.writeFile _ detail) => ⟨e.message, [detail]⟩
  | e => .plain e.message

end ConnectorPlane
