import ConnectorPlane.Json.Basic

/-! # TOML values

A TOML document is a table of keys to values: strings, 64-bit integers, doubles, booleans,
date-times, arrays and tables. A date-time has a date, a time of day, or both, and an offset
only when it has both.

`TomlValue.toJson` gives the JSON document of a value: a double that is not finite becomes
`null`, and a date-time becomes an object whose one member, `$__toml_private_datetime`, holds its
text. That text writes the date as `YYYY-MM-DD`, a `T` before the time, the time as `hh:mm:ss`
with its fraction's digits up to the last nonzero one, and the offset as `Z` or `±hh:mm`.
-/

namespace ConnectorPlane

/-- A calendar date as written in TOML. -/
structure TomlDate where
  year : Nat
  month : Nat
  day : Nat
deriving DecidableEq, Repr

/-- A time of day as written in TOML. -/
structure TomlTime where
  hour : Nat
  minute : Nat
  second : Nat
  nanosecond : Nat
deriving DecidableEq, Repr

/-- The offset of a date-time: `Z`, or minutes east of UTC. -/
inductive TomlOffset where
  | utc
  | minutes (m : Int)
deriving DecidableEq, Repr

/-- A TOML date-time: an offset or local date-time, a local date, or a local time. -/
structure TomlDatetime where
  date : Option TomlDate
  time : Option TomlTime
  offset : Option TomlOffset
deriving DecidableEq, Repr

/-- A TOML value. Tables keep their keys in the order written. -/
inductive TomlValue where
  | string (s : String)
  | integer (n : Int)
  | float (bits : UInt64)
  | boolean (b : Bool)
  | datetime (d : TomlDatetime)
  | array (items : List TomlValue)
  | table (entries : List (String × TomlValue))
deriving Repr, Inhabited

namespace TomlDatetime

/-- `n` in decimal, zero-padded to `width`. -/
def pad (width n : Nat) : String :=
  let s := toString n
  String.ofList (List.replicate (width - s.length) '0') ++ s

/-- The fraction digits of a nanosecond count, without trailing zeros. -/
def fractionText (nano : Nat) : String :=
  String.ofList ((pad 9 nano).toList.reverse.dropWhile (· = '0')).reverse

/-- The text of a time of day. -/
def timeText (t : TomlTime) : String :=
  pad 2 t.hour ++ ":" ++ pad 2 t.minute ++ ":" ++ pad 2 t.second ++
    (if t.nanosecond = 0 then "" else "." ++ fractionText t.nanosecond)

/-- The text of an offset. -/
def offsetText : TomlOffset → String
  | .utc => "Z"
  | .minutes m =>
    (if m < 0 then "-" else "+") ++ pad 2 (m.natAbs / 60) ++ ":" ++ pad 2 (m.natAbs % 60)

/-- The text of a date-time. -/
def text (d : TomlDatetime) : String :=
  let dateText := match d.date with
    | some x => pad 4 x.year ++ "-" ++ pad 2 x.month ++ "-" ++ pad 2 x.day
    | none => ""
  let time := match d.time with
    | some t => (if d.date.isSome then "T" else "") ++ timeText t
    | none => ""
  let off := match d.offset with
    | some o => offsetText o
    | none => ""
  dateText ++ time ++ off

end TomlDatetime

namespace TomlValue

/-- The name under which a date-time appears in its JSON document. -/
def datetimeKey : String := "$__toml_private_datetime"

/-- Whether a double's bits are finite. -/
def isFiniteBits (bits : UInt64) : Bool := (bits.toNat / Nat.pow 2 52) % Nat.pow 2 11 != 2047

/-- The JSON document of a value. -/
def toJson : TomlValue → Json
  | .string s => .str s
  | .integer n => .num (.int n)
  | .float bits => if isFiniteBits bits then .num (.float bits) else .null
  | .boolean b => .bool b
  | .datetime d => Json.ofFields [(datetimeKey, .str d.text)]
  | .array items => .arr (go items)
  | .table entries => Json.ofFields (goFields entries)
where
  go : List TomlValue → List Json
    | [] => []
    | v :: vs => toJson v :: go vs
  goFields : List (String × TomlValue) → List (String × Json)
    | [] => []
    | (k, v) :: rest => (k, toJson v) :: goFields rest

/-- The value under a key of a table. -/
def get? : TomlValue → String → Option TomlValue
  | .table entries, key => (entries.find? (·.1 == key)).map (·.2)
  | _, _ => none

end TomlValue

end ConnectorPlane
