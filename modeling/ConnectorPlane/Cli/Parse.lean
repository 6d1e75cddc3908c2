import ConnectorPlane.Cli.Help
import ConnectorPlane.Cli.Suggest
import ConnectorPlane.Connector.Kind
import ConnectorPlane.Workflow.Batch

/-! # Reading a command line

The words after the program's name are read from left to right against the grammar:

* a word that names a subcommand of the current command (before a `--`) moves to it; the rest
  of the words belong to it, and it is checked before the command above it settles its own
  last option;
* `--` makes every later word a value;
* `--name`, `--name=value`, `-x`, `-xvalue`, `-x=value` and clusters of short flags (`-vx`) name
  arguments; an option without an attached value takes the next word, whatever it looks like
  unless it starts with `-` or names a subcommand;
* other words fill the positional arguments in order.

An option's value is read (and may be refused) when the next argument is taken or the words
end. When the words end, arguments not given take their environment variable when it is set,
then their default. The command is then checked: a command with subcommands that got none shows
its help when nothing at all was given, and is an error otherwise; then no two conflicting
arguments may be given, and every required one must be.

A value given at several levels (a global argument) is taken from the strongest source
(command line over environment over default), the deepest level among equals.
-/

namespace ConnectorPlane

namespace Cli

/-- Where an argument's value came from, weakest first. -/
inductive Source where
  | default
  | environment
  | commandLine
deriving DecidableEq, Repr

/-- The strength of a source. -/
def Source.rank : Source → Nat
  | .default => 0
  | .environment => 1
  | .commandLine => 2

/-- A value an argument holds; a flag that is set holds `true`. -/
structure Setting where
  id : String
  value : String
  source : Source
deriving Repr

/-- Why the words do not make a command. Each carries the usage line it shows, if any. -/
inductive UsageError where
  /-- A word where a subcommand was expected, with the similar subcommand names. -/
  | unknownSubcommand (word : String) (similar : List String) (usage : String)
  /-- A word no argument takes: a similar option, one of a subcommand named later, and whether
  to suggest passing it as a value. -/
  | unexpectedArgument (word : String) (similar : Option String)
      (elsewhere : Option (String × String)) (asValue : Bool) (usage : String)
  /-- A subcommand's name after `--`. -/
  | escapedSubcommand (word : String) (usage : String)
  /-- A value attached to a flag. -/
  | unexpectedValue (value arg usage : String)
  /-- A value its argument refuses, with the reason. -/
  | invalidValue (value arg reason : String)
  /-- An option without its value. -/
  | missingValue (arg : String)
  /-- Arguments given together that exclude each other. -/
  | conflict (arg : String) (others : List String) (usage : String)
  /-- An argument given twice. -/
  | repeated (arg usage : String)
  /-- Required arguments not given. -/
  | missingRequired (args : List String) (usage : String)
  /-- A command that needs a subcommand, with the names it knows. -/
  | missingSubcommand (command : String) (names : List String) (usage : String)
deriving Repr

namespace UsageError

/-- A name between single quotes. -/
def quoted (s : String) : String := "'" ++ s ++ "'"

/-- The first line of the message, with the lists that belong to it. -/
def message : UsageError → String
  | .unknownSubcommand w _ _ => "unrecognized subcommand " ++ quoted w
  | .unexpectedArgument w _ _ _ _ | .escapedSubcommand w _ => "unexpected argument " ++ quoted w ++ " found"
  | .unexpectedValue v a _ =>
    "unexpected value " ++ quoted v ++ " for " ++ quoted a ++ " found; no more were expected"
  | .invalidValue v a r => "invalid value " ++ quoted v ++ " for " ++ quoted a ++ ": " ++ r
  | .missingValue a => "a value is required for " ++ quoted a ++ " but none was supplied"
  | .conflict a [o] _ => "the argument " ++ quoted a ++ " cannot be used with " ++ quoted o
  | .conflict a os _ =>
    "the argument " ++ quoted a ++ " cannot be used with:" ++ String.join (os.map ("\n  " ++ ·))
  | .repeated a _ => "the argument " ++ quoted a ++ " cannot be used multiple times"
  | .missingRequired as _ =>
    "the following required arguments were not provided:" ++ String.join (as.map ("\n  " ++ ·))
  | .missingSubcommand c ns _ =>
    quoted c ++ " requires a subcommand but one was not provided\n  [subcommands: " ++
      ", ".intercalate ns ++ "]"

/-- The tip naming similar names of a kind. -/
def similarTip (what : String) : List String → List String
  | [] => []
  | [n] => ["a similar " ++ what ++ " exists: " ++ quoted n]
  | ns => ["some similar " ++ what ++ "s exist: " ++ ", ".intercalate (ns.map quoted)]

/-- The tips shown after the message. -/
def tips : UsageError → List String
  | .unknownSubcommand _ similar _ => similarTip "subcommand" similar
  | .unexpectedArgument w similar elsewhere asValue _ =>
    similarTip "argument" similar.toList ++
      (if asValue then ["to pass " ++ quoted w ++ " as a value, use " ++ quoted ("-- " ++ w)]
       else []) ++
      (elsewhere.map fun (sub, flag) => quoted (sub ++ " " ++ flag) ++ " exists").toList
  | .escapedSubcommand w _ =>
    ["subcommand " ++ quoted w ++ " exists; to use it, remove the " ++ quoted "--" ++ " before it"]
  | _ => []

/-- The usage line shown, if any. -/
def usage? : UsageError → Option String
  | .unknownSubcommand _ _ u | .unexpectedArgument _ _ _ _ u | .escapedSubcommand _ u
  | .unexpectedValue _ _ u | .conflict _ _ u | .repeated _ u | .missingRequired _ u
  | .missingSubcommand _ _ u => some u
  | .invalidValue .. | .missingValue _ => none

/-- The whole text written for the error. -/
def render (e : UsageError) : String :=
  "error: " ++ e.message ++
    (if e.tips.isEmpty then "" else "\n" ++ String.join (e.tips.map ("\n  tip: " ++ ·))) ++
    ((e.usage?.map ("\n\nUsage: " ++ ·)).getD "") ++
    "\n\nFor more information, try '--help'.\n"

end UsageError

/-- Why reading stops before a command runs. -/
inductive Stop where
  /-- Help or version was asked for: the text goes to standard output. -/
  | show (text : String)
  /-- Nothing was given to a command that needs a subcommand: its help goes to standard error. -/
  | helpInstead (text : String)
  /-- The words are wrong. -/
  | fail (e : UsageError)
deriving Repr

namespace Stop

/-- Whether the text goes to standard output. -/
def toStdout : Stop → Bool
  | .show _ => true
  | _ => false

/-- The text written. -/
def text : Stop → String
  | .show t | .helpInstead t => t
  | .fail e => e.render

/-- The exit status. -/
def exitCode : Stop → Nat
  | .show _ => 0
  | _ => 2

end Stop

/-- A command line that was read: the subcommands taken and the values held at each level, the
program's own first. -/
structure Parsed where
  path : List String
  levels : List (List Setting)
deriving Repr

namespace Parsed

/-- The value an argument holds, from the strongest source, the deepest level among equals. -/
def value? (p : Parsed) (id : String) : Option String :=
  let pick (acc : Option Setting) (level : List Setting) : Option Setting :=
    match level.find? (·.id == id), acc with
    | some s, some a => if a.source.rank > s.source.rank then some a else some s
    | some s, none => some s
    | none, _ => acc
  (p.levels.foldl pick none).map (·.value)

/-- Whether a flag is set. -/
def flag (p : Parsed) (id : String) : Bool := p.value? id == some "true"

/-- The value of an argument, or the empty text. -/
def text (p : Parsed) (id : String) : String := (p.value? id).getD ""

end Parsed

/-- The digits of a decimal integer with an optional sign, read as a signed 64-bit integer:
the reason it cannot be one, in the first place it shows. -/
def readInt64 (s : String) : Except String Int :=
  let cs := s.toList
  let (negative, digits) := match cs with
    | '-' :: r => (true, r)
    | '+' :: r => (false, r)
    | r => (false, r)
  let limit : Nat := if negative then Nat.pow 2 63 else Nat.pow 2 63 - 1
  let step (acc : Nat) (c : Char) : Except String Nat :=
    if !c.isDigit then .error "invalid digit found in string"
    else
      let v := acc * 10 + (c.toNat - '0'.toNat)
      if v > limit then
        .error (if negative then "number too small to fit in target type"
          else "number too large to fit in target type")
      else .ok v
  if cs.isEmpty then .error "cannot parse integer from empty string"
  else if digits.isEmpty then .error "invalid digit found in string"
  else (digits.foldlM step 0).map fun n => if negative then -(n : Int) else n

/-- The largest count. -/
def maxCount : Nat := Nat.pow 2 32 - 1

/-- Reads a count from 0 to 2^32 - 1, or says why it is not one. -/
def readCount (s : String) : Except String Nat := do
  let v ← readInt64 s
  if v < 0 || v > maxCount then
    throw (toString v ++ " is not in 0..=" ++ toString maxCount)
  pure v.toNat

/-- Reads a view name in any ASCII case: `basic`, `view_basic`, `full` or `view_full`. -/
def readView (s : String) : Option View :=
  match s.toLower with
  | "basic" | "view_basic" => some .basic
  | "full" | "view_full" => some .full
  | _ => none

/-- Why an argument refuses a value, if it does. -/
def refusal (a : Arg) (v : String) : Option UsageError :=
  let invalid (r : String) := some (UsageError.invalidValue v a.display r)
  match a.kind with
  | .text => none
  | .path => if v.isEmpty then some (.missingValue a.display) else none
  | .count =>
    match readCount v with
    | .ok _ => none
    | .error r => invalid r
  | .connectorType =>
    if (ConnectorType.parse? v).isSome then none
    else invalid ("unknown connector type '" ++ v ++
      "' (expected source, destination, blockchain, or ai)")
  | .view => if (readView v).isSome then none else invalid ("unknown view '" ++ v ++ "' (expected basic or full)")
  | .task => if (ModelTask.parse? v).isSome then none else invalid ("unknown task '" ++ v ++ "'")

/-- What has been read at one command. -/
structure LevelState where
  /-- The values held, in the order taken. -/
  settings : List Setting := []
  /-- The arguments given on the command line or by the environment, in the order taken. -/
  given : List String := []
  /-- The argument whose value is still to be read, with the value once it is there. -/
  pending : Option (Arg × Option String) := none
  /-- How many positional arguments are filled. -/
  position : Nat := 0
  /-- Whether a `--` was passed. -/
  escaped : Bool := false
deriving Repr

section Reading

variable (g : Grammar) (env : Environment) (path : List String)

/-- Reads the pending argument's value: it must be there, its argument must not have been given
before, and the argument must accept it. Gives the state after the attempt and the error, if
any; an argument whose value is refused still counts as given. -/
def settle (st : LevelState) : LevelState × Option UsageError :=
  match st.pending with
  | none => (st, none)
  | some (a, none) => ({ st with pending := none }, some (.missingValue a.display))
  | some (a, some v) =>
    let st := { st with pending := none }
    if st.given.contains a.id then
      ({ st with given := st.given.erase a.id, settings := st.settings.filter (·.id != a.id) },
        some (.repeated a.display (g.usage path)))
    else
      let st := { st with given := st.given ++ [a.id] }
      match refusal a v with
      | some e => (st, some e)
      | none => ({ st with settings := st.settings ++ [⟨a.id, v, .commandLine⟩] }, none)

/-- Reads the pending argument's value, stopping at an error. -/
def settled (st : LevelState) : Except Stop LevelState :=
  match settle g path st with
  | (st, none) => .ok st
  | (_, some e) => .error (.fail e)

/-- Takes a flag: help and version stop reading; others are set once. -/
def takeFlag (st : LevelState) (a : Arg) : Except Stop LevelState := do
  let st ← settled g path st
  if a.id == "help" then throw (.show (g.helpPage env path))
  if a.id == "version" then throw (.show (g.versionLine path))
  if st.given.contains a.id then throw (.fail (.repeated a.display (g.usage path)))
  pure { st with given := st.given ++ [a.id], settings := st.settings ++ [⟨a.id, "true", .commandLine⟩] }

/-- Takes an option with its value. -/
def takeValue (st : LevelState) (a : Arg) (v : String) : Except Stop LevelState := do
  let st ← settled g path st
  settled g path { st with pending := some (a, some v) }

/-- Takes an option whose value is the next word. -/
def awaitValue (st : LevelState) (a : Arg) : Except Stop LevelState := do
  let st ← settled g path st
  pure { st with pending := some (a, none) }

/-- Whether the command has positional arguments. -/
def hasPositionals : Bool := (g.argsAt path).any (·.isPositional)

/-- The error for a long option the command does not know: the most similar long name it
knows, or else one of a subcommand named later among the words. -/
def unknownLong (st : LevelState) (name : String) (rest : List String) : UsageError :=
  let args := g.argsAt path
  let here := (similarNames name (args.filterMap (·.long))).getLast?
  let later := ((g.childNames path).filter (· != "help")).filterMap fun c =>
    match rest.findIdx? (· == c),
      (similarNames name ((g.argsAt (path ++ [c])).filterMap (·.long))).getLast? with
    | some i, some f => some (i, c, "--" ++ f)
    | _, _ => none
  let nearest := later.foldl (fun best x =>
    match best with
    | some b => if x.1 < b.1 then some x else some b
    | none => some x) none
  let elsewhere := if here.isSome then none else nearest.map fun x => x.2
  let suggestedId := here.bind fun f => (args.find? (·.long == some f)).map (·.id)
  .unexpectedArgument ("--" ++ name) (here.map ("--" ++ ·)) elsewhere
    (here.isNone && elsewhere.isNone && hasPositionals g path)
    (g.usageFor path (st.given ++ suggestedId.toList))

/-- Takes `--name` or `--name=value`. -/
def takeLong (st : LevelState) (name : String) (value? : Option String) (rest : List String) :
    Except Stop LevelState :=
  match (g.argsAt path).find? (·.long == some name) with
  | some a =>
    match a.isOption, value? with
    | true, some v => takeValue g path st a v
    | true, none => awaitValue g path st a
    | false, some v => .error (.fail (.unexpectedValue v a.display (g.usageFor path (st.given ++ [a.id]))))
    | false, none => takeFlag g env path st a
  | none => .error (.fail (unknownLong g path st name rest))

/-- Takes a cluster of short names: flags, and at most one option, last, whose value is the
rest of the word (after an optional `=`) or the next word. -/
def takeShorts (st : LevelState) : List Char → Except Stop LevelState
  | [] => .ok st
  | c :: more =>
    match (g.argsAt path).find? (·.short == some c) with
    | some a =>
      if a.isOption then
        match more with
        | [] => awaitValue g path st a
        | '=' :: v => takeValue g path st a (String.ofList v)
        | v => takeValue g path st a (String.ofList v)
      else do
        let st ← takeFlag g env path st a
        takeShorts st more
    | none =>
      .error (.fail (.unexpectedArgument ("-" ++ c.toString) none none
        (!st.escaped && hasPositionals g path) (g.usage path)))

/-- Takes a word that is a value: the pending option's, or the next positional argument's. -/
def takeWord (st : LevelState) (w : String) : Except Stop LevelState :=
  match st.pending with
  | some (a, none) => .ok { st with pending := some (a, some w) }
  | _ =>
    match ((g.argsAt path).filter (·.isPositional))[st.position]? with
    | some a => do
      let st ← settled g path st
      pure { st with pending := some (a, some w), position := st.position + 1 }
    | none =>
      if st.escaped && (g.childNames path).contains w then
        .error (.fail (.escapedSubcommand w (g.usage path)))
      else if g.hasChildren path then
        .error (.fail (.unknownSubcommand w (similarNames w (g.childNames path)) (g.usage path)))
      else .error (.fail (.unexpectedArgument w none none false (g.usage path)))

/-- Gives every argument not yet given the value of its environment variable, when set. -/
def addEnvironment (st : LevelState) : Except Stop LevelState :=
  (g.argsAt path).foldlM (fun st a =>
    match a.env.bind env.get? with
    | some v =>
      if st.settings.any (·.id == a.id) then pure st
      else match refusal a v with
        | some e => throw (.fail e)
        | none => pure { st with given := st.given ++ [a.id],
                                 settings := st.settings ++ [⟨a.id, v, .environment⟩] }
    | none => pure st) st

/-- Gives every argument that still has no value its default. -/
def addDefaults (st : LevelState) : LevelState :=
  (g.argsAt path).foldl (fun st a =>
    match a.default with
    | some d =>
      if st.settings.any (·.id == a.id) then st
      else { st with settings := st.settings ++ [⟨a.id, d, .default⟩] }
    | none => st) st

/-- The arguments given with `id` that it excludes or that exclude it. -/
def conflictsOf (st : LevelState) (a : Arg) : List String :=
  let args := g.argsAt path
  st.given.filter fun o =>
    o != a.id && (a.conflictsWith.contains o ||
      ((args.find? (·.id == o)).map (·.conflictsWith.contains a.id)).getD false)

/-- Checks a command once its words are read: a subcommand where one is needed, no two
arguments that exclude each other, and every required argument. -/
def validate (st : LevelState) (hasChild : Bool) : Except Stop Unit := do
  let args := g.argsAt path
  if !hasChild && g.hasChildren path then
    if st.given.isEmpty then throw (.helpInstead (g.helpPage env path))
    throw (.fail (.missingSubcommand (g.binName path) (g.childNames path) (g.usage path)))
  for id in st.given do
    match args.find? (·.id == id) with
    | some a =>
      let others := conflictsOf g path st a
      if !others.isEmpty then
        let shown := (others.filterMap fun o => (args.find? (·.id == o)).map Arg.display).eraseDups
        throw (.fail (.conflict a.display shown
          (g.usageFor path (st.given.filter fun i => !others.contains i))))
    | none => pure ()
  let missing := ((g.requiredAt path).filter fun a => !st.given.contains a.id).map (·.id)
  if !missing.isEmpty then
    throw (.fail (.missingRequired (displayOrder args missing)
      (g.usageFor path (st.given ++ missing))))

/-- Ends a command's reading: reads the pending value, adds environment values and defaults,
checks the command, and puts its values above those of the subcommand taken, if any. -/
def finish (st : LevelState) (child : Option Parsed) : Except Stop Parsed := do
  let st ← settled g path st
  let st ← addEnvironment g env path st
  let st := addDefaults g path st
  validate g env path st child.isSome
  match child with
  | some c => pure ⟨c.path, st.settings :: c.levels⟩
  | none => pure ⟨path, [st.settings]⟩

end Reading

/-- The help page that `help` followed by subcommand names asks for. -/
def helpWalk (g : Grammar) (env : Environment) (path : List String) : List String → Stop
  | [] => .show (g.helpPage env path)
  | w :: rest =>
    if !(g.childNames path).contains w then .fail (.unknownSubcommand w [] (g.usage path))
    else if w == "help" then
      match rest with
      | [] => .show (g.helpCommandPage path)
      | x :: _ => .fail (.unknownSubcommand x [] (g.binName path ++ " help [COMMAND]..."))
    else helpWalk g env (path ++ [w]) rest

/-- Splits the text after `--` at its first `=`. -/
def splitLong (body : String) : String × Option String :=
  match body.splitOn "=" with
  | name :: v :: more => (name, some ("=".intercalate (v :: more)))
  | _ => (body, none)

/-- Reads the words given to the command at `path`. -/
def parseFrom (g : Grammar) (env : Environment) (path : List String) (st : LevelState) :
    List String → Except Stop Parsed
  | [] => finish g env path st none
  | w :: rest =>
    if !st.escaped && (g.childNames path).contains w then
      if w == "help" then .error (helpWalk g env path rest)
      else match parseFrom g env (path ++ [w]) {} rest with
        | .ok child => finish g env path st (some child)
        | .error s => .error s
    else
      let next : Except Stop LevelState :=
        if st.escaped then takeWord g path st w
        else if w == "--" then .ok { st with escaped := true }
        else if w.startsWith "--" then
          let (name, value?) := splitLong (w.drop 2).toString
          takeLong g env path st name value? rest
        else if w.startsWith "-" && w.length > 1 then takeShorts g env path st (w.toList.drop 1)
        else takeWord g path st w
      match next with
      | .ok st => parseFrom g env path st rest
      | .error s => .error s

/-- Reads a command line: the words after the program's name. -/
def Grammar.parse (g : Grammar) (env : Environment) (words : List String) : Except Stop Parsed :=
  parseFrom g env [] {} words

end Cli

end ConnectorPlane
