import ConnectorPlane.Cli.Grammar
import ConnectorPlane.Host.Env

/-! # Usage lines and help pages

A command's usage line names it, marks `[OPTIONS]` when it has an option that is neither
required nor help or version, lists its required options and then its required positional
arguments, and ends in `<COMMAND>` when a subcommand must follow. A usage line made for an
error names instead the required arguments and those given, without `[OPTIONS]`.

A help page gives the command's description, its usage line, and up to three sections:
`Commands:` (subcommands with their descriptions, `help` last), `Arguments:` (positional
arguments) and `Options:` (the others, in display order). Each section aligns its
descriptions two spaces after its widest entry, counting an option's short name as four
characters (`-t, `) whether it has one or not. A description is followed by the environment
variable that can give the value, with the value it has, and by the default value, quoted when
empty or holding white space.
-/

namespace ConnectorPlane

namespace Cli

/-- `n` spaces. -/
def spaces (n : Nat) : String := String.ofList (List.replicate n ' ')

/-- Where an option sorts among those of its display order: its short letter in lowercase
followed by `0` for a lowercase letter and `1` otherwise, or its long name. -/
def sortKey (a : Arg) : String :=
  match a.short, a.long with
  | some c, _ => c.toLower.toString ++ (if c.isLower then "0" else "1")
  | none, some l => l
  | none, none => "\x7b" ++ a.id

/-- Whether option `a` is listed before option `b`. -/
def listedBefore (a b : Arg) : Bool :=
  a.order < b.order || (a.order == b.order && decide (sortKey a ≤ sortKey b))

/-- The text of a value as help quotes it. -/
def quoteValue (v : String) : String :=
  if v.isEmpty || v.any Char.isWhitespace then
    "\"" ++ String.join (v.toList.map fun c =>
      if c = '"' then "\\\"" else if c = '\\' then "\\\\" else c.toString) ++ "\""
  else v

/-- What help adds after an argument's description. -/
def extras (env : Environment) (a : Arg) : List String :=
  let envPart := a.env.map fun n => "[env: " ++ n ++ "=" ++ (env.get? n).getD "" ++ "]"
  let defaultPart := match a.shape, a.default with
    | .flag, _ => none
    | _, some d => some ("[default: " ++ quoteValue d ++ "]")
    | _, none => none
  envPart.toList ++ defaultPart.toList

/-- An argument's description with its extras. -/
def described (env : Environment) (a : Arg) : String :=
  " ".intercalate ((if a.help.isEmpty then [] else [a.help]) ++ extras env a)

/-- How an option is written in its help line, after its short name: `--type <TYPE>`. -/
def longSpec (a : Arg) : String :=
  let name := match a.long, a.short with
    | some l, _ => "--" ++ l
    | none, some c => "-" ++ c.toString
    | none, none => ""
  match a.shape with
  | .option v => name ++ " <" ++ v ++ ">"
  | _ => name

/-- The help lines of options. -/
def optionLines (env : Environment) (opts : List Arg) : List String :=
  let width := (opts.map fun a => (longSpec a).length).foldl max 0
  let sorted := opts.mergeSort listedBefore
  sorted.map fun a =>
    let shortPart := match a.short, a.long with
      | some c, some _ => "-" ++ c.toString ++ ", "
      | none, some _ => "    "
      | _, none => ""
    "  " ++ shortPart ++ longSpec a ++ spaces (width + 2 - (longSpec a).length) ++ described env a

/-- Help lines of names with descriptions, aligned. -/
def alignedLines (entries : List (String × String)) : List String :=
  let width := (entries.map (·.1.length)).foldl max 0
  entries.map fun (n, d) => "  " ++ n ++ spaces (width + 2 - n.length) ++ d

/-- Arguments by id as messages list them: options in the order of the ids, then positional
arguments in their own order. -/
def displayOrder (args : List Arg) (ids : List String) : List String :=
  let picked := ids.eraseDups.filterMap fun i => args.find? (·.id == i)
  (picked.filter fun a => !a.isPositional).map Arg.display ++
    (args.filter fun a => a.isPositional && ids.contains a.id).map Arg.display

namespace Grammar

/-- The required arguments of a command, in the order declared. -/
def requiredAt (g : Grammar) (path : List String) : List Arg :=
  (g.argsAt path).filter (·.required)

/-- Required options, then positional arguments in their order, as usage lists them: `incl`
names arguments to list besides the required ones. -/
def usageArgs (g : Grammar) (path : List String) (incl : List String) : List String :=
  displayOrder (g.argsAt path) ((g.requiredAt path).map (·.id) ++ incl)

/-- Whether usage marks `[OPTIONS]`. -/
def needsOptionsTag (g : Grammar) (path : List String) : Bool :=
  (g.argsAt path).any fun a =>
    !a.isPositional && !a.required && a.id != "help" && a.id != "version"

/-- The usage line a help page shows. -/
def usage (g : Grammar) (path : List String) : String :=
  " ".intercalate ([g.binName path] ++ (if g.needsOptionsTag path then ["[OPTIONS]"] else []) ++
    g.usageArgs path [] ++ (if g.hasChildren path then ["<COMMAND>"] else []))

/-- The usage line an error shows, naming the arguments in `used`. -/
def usageFor (g : Grammar) (path : List String) (used : List String) : String :=
  if used.isEmpty then g.usage path
  else " ".intercalate ([g.binName path] ++ g.usageArgs path used ++
    (if g.hasChildren path then ["<COMMAND>"] else []))

/-- The help page of a command. -/
def helpPage (g : Grammar) (env : Environment) (path : List String) : String :=
  let about := ((g.command? path).map (·.about)).getD ""
  let args := g.argsAt path
  let positionals := args.filter (·.isPositional)
  let options := args.filter fun a => !a.isPositional
  let sections :=
    (if g.hasChildren path then ["Commands:\n" ++ "\n".intercalate (alignedLines (g.children path))]
     else []) ++
    (if positionals.isEmpty then []
     else ["Arguments:\n" ++ "\n".intercalate (alignedLines (positionals.map fun a =>
       (a.display, described env a)))]) ++
    (if options.isEmpty then [] else ["Options:\n" ++ "\n".intercalate (optionLines env options)])
  about ++ "\n\nUsage: " ++ g.usage path ++ "\n\n" ++ "\n\n".intercalate sections ++ "\n"

/-- The help page of the `help` subcommand of a command. -/
def helpCommandPage (g : Grammar) (path : List String) : String :=
  helpAbout ++ "\n\nUsage: " ++ g.binName path ++ " help [COMMAND]...\n\nArguments:\n" ++
    "  [COMMAND]...  Print help for the subcommand(s)\n"

/-- The version line of a command. -/
def versionLine (g : Grammar) (path : List String) : String :=
  g.displayName path ++ " " ++ g.version ++ "\n"

end Grammar

end Cli

end ConnectorPlane
