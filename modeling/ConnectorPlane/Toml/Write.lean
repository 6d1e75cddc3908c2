import ConnectorPlane.Toml.Value
import ConnectorPlane.Json.Render

/-! # Writing TOML documents

A document is written table by table, depth first, in the order of its keys. A table's header
`[path]` is written when the table holds a plain value or holds nothing at all; a table that
holds only other tables needs none. Every non-empty array whose items are all tables is
written as an array of tables, one `[[path]]` section per item. Headers after the first piece
of output are preceded by a blank line.

Within a table each plain value is one line `key = value`. Strings are written in double quotes
with `\b`, `\t`, `\n`, `\f`, `\r`, `\"` and `\\` escaped and other control characters as
`\uXXXX`; a string with a backslash and no control characters other than tab and line feed, no
run of three single quotes and not ending in one, is written as a literal string instead
(between `'''` when it holds a single quote or a line feed). An array of two or more items puts
each on its own indented line, with a trailing comma.
-/

namespace ConnectorPlane

namespace TomlWriter

/-- Whether a value is written as a section rather than on a line. -/
def isSection : TomlValue → Bool
  | .table _ => true
  | .array (x :: xs) => (x :: xs).all fun
    | .table _ => true
    | _ => false
  | _ => false

/-- Whether a character may stand in a bare key. -/
def isBareChar (c : Char) : Bool :=
  ('A' ≤ c && c ≤ 'Z') || ('a' ≤ c && c ≤ 'z') || ('0' ≤ c && c ≤ '9') || c = '_' || c = '-'

/-- Four uppercase hex digits. -/
def hex4 (n : Nat) : String :=
  String.ofList ((List.range 4).reverse.map fun i =>
    let d := n / Nat.pow 16 i % 16
    if d < 10 then Char.ofNat (48 + d) else Char.ofNat (55 + d))

/-- A double-quoted string; line feeds are kept when `multiline`. -/
def basicQuoted (s : String) (multiline : Bool) : String :=
  let body := s.toList.map fun c =>
    if c.toNat = 8 then "\\b"
    else if c = '\t' then "\\t"
    else if c = '\n' then (if multiline then "\n" else "\\n")
    else if c.toNat = 12 then "\\f"
    else if c = '\r' then "\\r"
    else if c = '"' then "\\\""
    else if c = '\\' then "\\\\"
    else if c.toNat ≤ 0x1F ∨ c.toNat = 0x7F then "\\u" ++ hex4 c.toNat
    else c.toString
  let q := if multiline then "\"\"\"" else "\""
  q ++ (if multiline then "\n" else "") ++ String.join body ++ q

/-- The longest run of single quotes in a text. -/
def longestQuoteRun (cs : List Char) : Nat :=
  (cs.foldl (fun (acc : Nat × Nat) c =>
    if c = '\'' then (max acc.1 (acc.2 + 1), acc.2 + 1) else (acc.1, 0)) (0, 0)).1

/-- A string in the form the writer prefers. -/
def quoteString (s : String) : String :=
  let cs := s.toList
  let multiline := cs.contains '\n'
  let prettyOk :=
    cs.contains '\\' && longestQuoteRun cs < 3 &&
      cs.all (fun c => c = '\t' || c = '\n' || c.toNat > 0x1F) &&
      !(cs.contains '\'' && cs.getLast? = some '\'')
  if prettyOk then
    if multiline then "'''\n" ++ s ++ "'''"
    else if cs.contains '\'' then "'''" ++ s ++ "'''"
    else "'" ++ s ++ "'"
  else basicQuoted s multiline

/-- A key, bare when it can be. -/
def keyText (k : String) : String :=
  if !k.isEmpty && k.toList.all isBareChar then k else basicQuoted k false

/-- Doubles are written positionally with their shortest digits, keeping `.0` when whole;
`inf` and `nan` carry a sign when negative. -/
def floatFormat : DoubleFormat := ⟨100000, -100000, false⟩

/-- The text of a double. -/
def floatText (bits : UInt64) : String :=
  let negative := bits.toNat ≥ Nat.pow 2 63
  match Double.decode bits with
  | .infinite _ => if negative then "-inf" else "inf"
  | .nan => if negative then "-nan" else "nan"
  | _ => Json.renderDouble floatFormat bits

mutual

/-- A value on one line (or, for long arrays, an indented block). -/
def valueText : TomlValue → String
  | .string s => quoteString s
  | .integer n => toString n
  | .float bits => floatText bits
  | .boolean b => if b then "true" else "false"
  | .datetime d => d.text
  | .array items =>
    let ts := itemsText items
    if ts.length ≤ 1 then "[" ++ ", ".intercalate ts ++ "]"
    else "[" ++ String.join (ts.map fun t => "\n    " ++ t ++ ",") ++ "\n]"
  | .table entries => "\x7b " ++ ", ".intercalate (entriesText entries) ++ " \x7d"

/-- The items of an array. -/
def itemsText : List TomlValue → List String
  | [] => []
  | v :: vs => valueText v :: itemsText vs

/-- The members of an inline table. -/
def entriesText : List (String × TomlValue) → List String
  | [] => []
  | (k, v) :: rest => (keyText k ++ " = " ++ valueText v) :: entriesText rest

end

/-- A header path. -/
def pathText (path : List String) : String := ".".intercalate (path.map keyText)

/-- The sections of a table at a path, depth first; `first` says whether nothing has been
written yet. Returns the text and the new `first`. -/
def tableText (fuel : Nat) (path : List String) (isArrayItem : Bool)
    (entries : List (String × TomlValue)) (first : Bool) : String × Bool :=
  match fuel with
  | 0 => ("", first)
  | fuel + 1 =>
    let plain := entries.filter fun p => !isSection p.2
    let lines := String.join (plain.map fun p => keyText p.1 ++ " = " ++ valueText p.2 ++ "\n")
    let (headerText, first) :=
      if path.isEmpty then ("", if plain.isEmpty then first else false)
      else if isArrayItem then
        ((if first then "" else "\n") ++ "[[" ++ pathText path ++ "]]\n", false)
      else if !plain.isEmpty || entries.isEmpty then
        ((if first then "" else "\n") ++ "[" ++ pathText path ++ "]\n", false)
      else ("", first)
    entries.foldl (fun (acc : String × Bool) p =>
      match p.2 with
      | .table es =>
        let (t, f) := tableText fuel (path ++ [p.1]) false es acc.2
        (acc.1 ++ t, f)
      | .array items =>
        if isSection p.2 then
          items.foldl (fun (acc : String × Bool) item =>
            match item with
            | .table es =>
              let (t, f) := tableText fuel (path ++ [p.1]) true es acc.2
              (acc.1 ++ t, f)
            | _ => acc) acc
        else acc
      | _ => acc) (headerText ++ lines, first)

end TomlWriter

namespace TomlValue

/-- The document text of a table. -/
def writeDocument (entries : List (String × TomlValue)) : String :=
  (TomlWriter.tableText 64 [] false entries true).1

end TomlValue

end ConnectorPlane
