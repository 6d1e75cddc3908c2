/-! # Command-line grammars

A grammar is a tree of commands, each with the arguments it accepts:

* a *flag* (`--json`) is set by being given;
* an *option* (`--type <CONNECTOR_TYPE>`) takes one value, given after it, after `=`, or, for a
  short name, right after the letter;
* a *positional* argument (`<ID>`) takes the next free place among the words that are neither.

An argument declared *global* is also accepted by every command below the one that declares
it. Every command also accepts `-h`/`--help` and `-V`/`--version`, and a command with
subcommands has a `help` subcommand.

Help lists options by their display order, which is their place among the non-positional
arguments of the command that declares them, then by their short letter (lowercase first) or
long name. Help and version come last.
-/

namespace ConnectorPlane

namespace Cli

/-- How a value given to an argument is read. -/
inductive ValueKind where
  /-- Any text. -/
  | text
  /-- A file path, which cannot be empty. -/
  | path
  /-- A count from 0 to 2^32 - 1. -/
  | count
  /-- A connector type. -/
  | connectorType
  /-- A view of a record. -/
  | view
  /-- A kind of model output. -/
  | task
deriving DecidableEq, Repr

/-- What an argument looks like on the command line. -/
inductive ArgShape where
  | flag
  | option (valueName : String)
  | positional (valueName : String)
deriving DecidableEq, Repr

/-- An argument a command accepts. -/
structure Arg where
  /-- The name its value is kept under. -/
  id : String
  shape : ArgShape
  short : Option Char := none
  long : Option String := none
  help : String
  default : Option String := none
  /-- The environment variable that gives the value when the command line does not. -/
  env : Option String := none
  required : Bool := false
  global : Bool := false
  kind : ValueKind := .text
  /-- Arguments that cannot be given with this one. -/
  conflictsWith : List String := []
  /-- Display order in help; set from the declaring command. -/
  order : Nat := 0
deriving Repr

namespace Arg

/-- Whether the argument is positional. -/
def isPositional (a : Arg) : Bool :=
  match a.shape with
  | .positional _ => true
  | _ => false

/-- Whether the argument takes a value after its name. -/
def isOption (a : Arg) : Bool :=
  match a.shape with
  | .option _ => true
  | _ => false

/-- The display order given for help and version. -/
def lastOrder : Nat := 999

/-- The help flag. -/
def helpFlag : Arg :=
  { id := "help", shape := .flag, short := some 'h', long := some "help", help := "Print help",
    order := lastOrder }

/-- The version flag. -/
def versionFlag : Arg :=
  { id := "version", shape := .flag, short := some 'V', long := some "version",
    help := "Print version", order := lastOrder }

/-- How the argument is named in messages: `--type <CONNECTOR_TYPE>`, `--json`, `<ID>`. -/
def display (a : Arg) : String :=
  let name := match a.long, a.short with
    | some l, _ => "--" ++ l
    | none, some c => "-" ++ c.toString
    | none, none => ""
  match a.shape with
  | .flag => name
  | .option v => name ++ " <" ++ v ++ ">"
  | .positional v => "<" ++ v ++ ">"

end Arg

/-- A command: its path of names below the root, what it is for, and its own arguments in the
order declared. -/
structure Command where
  path : List String
  about : String
  args : List Arg
deriving Repr

/-- A program's commands, the root (with the empty path) among them, parents before children
and siblings in the order they are listed in help. -/
structure Grammar where
  name : String
  version : String
  commands : List Command
deriving Repr

/-- The description of the `help` subcommand. -/
def helpAbout : String := "Print this message or the help of the given subcommand(s)"

namespace Grammar

/-- The command at a path. -/
def command? (g : Grammar) (path : List String) : Option Command :=
  g.commands.find? (·.path == path)

/-- The names of the subcommands of a path, in order; `help` is added last when there are
any. -/
def childNames (g : Grammar) (path : List String) : List String :=
  let names := g.commands.filterMap fun c =>
    match c.path.splitAt path.length with
    | (pre, [n]) => if pre == path then some n else none
    | _ => none
  if names.isEmpty then [] else names ++ ["help"]

/-- The subcommands of a path with their descriptions, in order. -/
def children (g : Grammar) (path : List String) : List (String × String) :=
  (g.childNames path).map fun n =>
    (n, ((g.command? (path ++ [n])).map (·.about)).getD helpAbout)

/-- Whether a command has subcommands. -/
def hasChildren (g : Grammar) (path : List String) : Bool := !(g.childNames path).isEmpty

/-- A command's own arguments with their display order: the place of each among the
non-positional ones. -/
def ownArgs (c : Command) : List Arg :=
  (c.args.foldl (fun (acc : List Arg × Nat) a =>
    if a.isPositional then (acc.1 ++ [a], acc.2)
    else (acc.1 ++ [{ a with order := acc.2 }], acc.2 + 1)) ([], 0)).1

/-- The global arguments in force at a path: those of each command on the way, nearest
first, that the nearer ones do not already declare. -/
def globalsAt (g : Grammar) (path : List String) : List Arg :=
  let own := ((g.command? path).map fun c => (ownArgs c).filter (·.global)).getD []
  match path with
  | [] => own
  | x :: xs =>
    let above := globalsAt g (x :: xs).dropLast
    own ++ above.filter fun a => !own.any (·.id == a.id)
termination_by path.length
decreasing_by simp

/-- Every argument a command accepts, help and version included: its own, then those global
above it, then help and version. -/
def argsAt (g : Grammar) (path : List String) : List Arg :=
  let own := ((g.command? path).map ownArgs).getD []
  let above := if path.isEmpty then [] else globalsAt g path.dropLast
  own ++ above.filter (fun a => !own.any (·.id == a.id)) ++ [Arg.helpFlag, Arg.versionFlag]

/-- The words that name a command: the program's name and its path. -/
def binName (g : Grammar) (path : List String) : String :=
  " ".intercalate (g.name :: path)

/-- The name a command gives itself in its version line. -/
def displayName (g : Grammar) (path : List String) : String :=
  "-".intercalate (g.name :: path)

end Grammar

end Cli

end ConnectorPlane
