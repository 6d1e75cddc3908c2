import ConnectorPlane.Toml.Value

/-! # Reading records out of TOML tables

A record is read from a table by its field names: other keys are ignored, a missing field takes
its default or is an error, and a value of the wrong type is an error. Integers must fit the
field's range; strings, booleans and lists must be exactly that.
-/

namespace ConnectorPlane

/-- Why a table does not hold a record. -/
inductive DecodeError where
  /-- A required field is missing. -/
  | missingField (name : String)
  /-- A value has the wrong type or is out of range. -/
  | invalidValue (name : String)
deriving DecidableEq, Repr

namespace TomlValue

/-- A string. -/
def asString? : TomlValue → Option String
  | .string s => some s
  | _ => none

/-- A boolean. -/
def asBool? : TomlValue → Option Bool
  | .boolean b => some b
  | _ => none

/-- An integer within `[lo, hi]`. -/
def asIntIn? (lo hi : Int) : TomlValue → Option Int
  | .integer n => if lo ≤ n ∧ n ≤ hi then some n else none
  | _ => none

/-- A list of strings. -/
def asStrings? : TomlValue → Option (List String)
  | .array items => items.mapM asString?
  | _ => none

/-- The entries of a table. -/
def asTable? : TomlValue → Option (List (String × TomlValue))
  | .table es => some es
  | _ => none

/-- The items of an array. -/
def asArray? : TomlValue → Option (List TomlValue)
  | .array items => some items
  | _ => none

/-- A field read by `read`, or `none` when the table does not have it. -/
def field? {α : Type} (t : TomlValue) (name : String) (read : TomlValue → Option α) :
    Except DecodeError (Option α) :=
  match t.get? name with
  | none => pure none
  | some v => match read v with
    | some a => pure (some a)
    | none => throw (.invalidValue name)

/-- A field read by `read`, with a default when missing. -/
def fieldOr {α : Type} (t : TomlValue) (name : String) (read : TomlValue → Option α) (d : α) :
    Except DecodeError α := do
  pure ((← field? t name read).getD d)

/-- A required field read by `read`. -/
def field {α : Type} (t : TomlValue) (name : String) (read : TomlValue → Option α) :
    Except DecodeError α := do
  match ← field? t name read with
  | some a => pure a
  | none => throw (.missingField name)

end TomlValue

end ConnectorPlane
