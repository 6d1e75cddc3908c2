import ConnectorPlane.Json.Render

/-! # Records as the program writes them

A record written as JSON lists its fields in the order they are declared, unlike a JSON value,
whose members are sorted. `Shown` holds such output: records, lists of them, and JSON values
(documents, names, numbers) inside them. `Shown.pretty` lays it out like `Json.pretty`, fields
in declared order; `Shown.toJson` gives the JSON value, every record sorted, for output that
passes records through a JSON value first.
-/

namespace ConnectorPlane

/-- Output made of records in declared field order, lists, and JSON values. -/
inductive Shown where
  /-- A JSON value, written as it is. -/
  | doc (value : Json)
  /-- A record: fields in declared order. -/
  | record (fields : List (String × Shown))
  /-- A list. -/
  | list (items : List Shown)
deriving Repr, Inhabited

namespace Shown

/-- A text value. -/
def text (s : String) : Shown := .doc (.str s)

/-- The pretty text at an indentation level: two spaces per level, as `Json.prettyAt`. -/
def prettyAt (level : Nat) : Shown → String
  | .doc v => Json.prettyAt level v
  | .record [] => "\x7b\x7d"
  | .list [] => "[]"
  | .record fields =>
    "\x7b\n" ++ ",\n".intercalate (goFields fields) ++ "\n" ++ Json.indent level ++ "\x7d"
  | .list items => "[\n" ++ ",\n".intercalate (go items) ++ "\n" ++ Json.indent level ++ "]"
where
  go : List Shown → List String
    | [] => []
    | x :: xs => (Json.indent (level + 1) ++ prettyAt (level + 1) x) :: go xs
  goFields : List (String × Shown) → List String
    | [] => []
    | (k, v) :: rest =>
      (Json.indent (level + 1) ++ Json.quote k ++ ": " ++ prettyAt (level + 1) v) :: goFields rest

/-- The pretty text. -/
def pretty (s : Shown) : String := prettyAt 0 s

/-- The JSON value: records become objects with sorted members. -/
def toJson : Shown → Json
  | .doc v => v
  | .record fields => Json.ofFields (goFields fields)
  | .list items => .arr (go items)
where
  go : List Shown → List Json
    | [] => []
    | x :: xs => toJson x :: go xs
  goFields : List (String × Shown) → List (String × Json)
    | [] => []
    | (k, v) :: rest => (k, toJson v) :: goFields rest

end Shown

end ConnectorPlane
