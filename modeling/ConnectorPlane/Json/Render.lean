import ConnectorPlane.Json.Basic
import ConnectorPlane.Decimal.Shortest

/-! # Writing JSON text

The compact form writes no blanks; the pretty form puts each member and item on its own line,
indented by two spaces per level, with `": "` after a key. Empty arrays and objects stay
`[]` and `{}`.

Strings escape the quote, the backslash and the control characters below U+0020 (as `\b`,
`\t`, `\n`, `\f`, `\r` or `\u00xx` in lowercase hex); everything else is written as is.

A double is written with its shortest digits (`Decimal.shortest`). `DoubleFormat.json` says
where positional notation ends: while the decimal point falls within the first sixteen
places, the number is positional and keeps a `.0` when it is whole; closer to zero than
`0.0000d` or larger than sixteen digits it is `d.ddde±x`, the exponent's sign always
written.
-/

namespace ConnectorPlane

/-- How a double is laid out once its digits are known. -/
structure DoubleFormat where
  /-- The largest decimal-point position that is still written positionally. -/
  maxPoint : Int
  /-- The smallest decimal-point position that is still written positionally. -/
  minPoint : Int
  /-- Whether a positive exponent carries a `+`. -/
  plusSign : Bool

/-- The layout of doubles in JSON text. -/
def DoubleFormat.json : DoubleFormat := ⟨16, -4, true⟩

namespace Json

/-- The decimal digits of a natural number. -/
def natDigits (n : Nat) : String := toString n

/-- `n` zeros. -/
def zeros (n : Nat) : String := String.ofList (List.replicate n '0')

/-- Lays out the digits `ds` of `ds · 10^k` (no trailing zeros) by the format `f`. -/
def layoutDigits (f : DoubleFormat) (ds : String) (k : Int) : String :=
  let n : Int := ds.length
  let point := n + k
  if 0 ≤ k ∧ point ≤ f.maxPoint then
    ds ++ zeros k.toNat ++ ".0"
  else if 0 < point ∧ point ≤ f.maxPoint then
    let cs := ds.toList
    String.ofList (cs.take point.toNat) ++ "." ++ String.ofList (cs.drop point.toNat)
  else if f.minPoint ≤ point ∧ point ≤ 0 then
    "0." ++ zeros (-point).toNat ++ ds
  else
    let cs := ds.toList
    let head := String.ofList (cs.take 1)
    let tail := String.ofList (cs.drop 1)
    let mant := if tail.isEmpty then head else head ++ "." ++ tail
    let x := point - 1
    let sign := if x < 0 then "-" else if f.plusSign then "+" else ""
    mant ++ "e" ++ sign ++ toString x.natAbs

/-- The text of a double given by its bits; non-finite values are `null`. -/
def renderDouble (f : DoubleFormat) (bits : UInt64) : String :=
  match Double.decode bits with
  | .zero neg => if neg then "-0.0" else "0.0"
  | .finite neg m e halved =>
    let (d, k) := Decimal.shortest m e halved
    (if neg then "-" else "") ++ layoutDigits f (natDigits d) k
  | _ => "null"

/-- The text of a number. -/
def renderNumber : Number → String
  | .int v => toString v
  | .float bits => renderDouble DoubleFormat.json bits

/-- A lowercase hex digit. -/
def hexDigit (n : Nat) : Char :=
  if n < 10 then Char.ofNat (48 + n) else Char.ofNat (87 + n)

/-- The escaped form of one character inside a string literal. -/
def escapeChar (c : Char) : List Char :=
  if c = '"' then ['\\', '"']
  else if c = '\\' then ['\\', '\\']
  else if c = '\n' then ['\\', 'n']
  else if c = '\r' then ['\\', 'r']
  else if c = '\t' then ['\\', 't']
  else if c.toNat = 8 then ['\\', 'b']
  else if c.toNat = 12 then ['\\', 'f']
  else if c.toNat < 32 then
    ['\\', 'u', '0', '0', hexDigit (c.toNat / 16), hexDigit (c.toNat % 16)]
  else [c]

/-- A string literal with its quotes. -/
def quote (s : String) : String :=
  String.ofList ('"' :: (s.toList.flatMap escapeChar ++ ['"']))

/-- The compact text of a value. -/
def compact : Json → String
  | .null => "null"
  | .bool b => if b then "true" else "false"
  | .num n => renderNumber n
  | .str s => quote s
  | .arr items => "[" ++ ",".intercalate (go items) ++ "]"
  | .obj fields => "\x7b" ++ ",".intercalate (goFields fields) ++ "\x7d"
where
  go : List Json → List String
    | [] => []
    | x :: xs => compact x :: go xs
  goFields : List (String × Json) → List String
    | [] => []
    | (k, v) :: rest => (quote k ++ ":" ++ compact v) :: goFields rest

/-- Two spaces per level. -/
def indent (level : Nat) : String := String.ofList (List.replicate (2 * level) ' ')

/-- The pretty text of a value at an indentation level. -/
def prettyAt (level : Nat) : Json → String
  | .arr [] => "[]"
  | .obj [] => "\x7b\x7d"
  | .arr items =>
    "[\n" ++ ",\n".intercalate (go items) ++ "\n" ++ indent level ++ "]"
  | .obj fields =>
    "\x7b\n" ++ ",\n".intercalate (goFields fields) ++ "\n" ++ indent level ++ "\x7d"
  | v => compact v
where
  go : List Json → List String
    | [] => []
    | x :: xs => (indent (level + 1) ++ prettyAt (level + 1) x) :: go xs
  goFields : List (String × Json) → List String
    | [] => []
    | (k, v) :: rest =>
      (indent (level + 1) ++ quote k ++ ": " ++ prettyAt (level + 1) v) :: goFields rest

/-- The pretty text of a value. -/
def pretty (v : Json) : String := prettyAt 0 v

end Json

end ConnectorPlane
