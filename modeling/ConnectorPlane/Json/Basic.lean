/-! # JSON documents

Configuration documents, specifications and every answer of the control plane are JSON
values. A number is either an integer that fits a 64-bit word (signed or unsigned) or a
double, kept as its bit pattern so that values compare structurally. Objects list their
members once each, in increasing key order: that is the order in which every object is
written out, and the order in which credential paths are visited.

* `Json.Fields.insert`, `Json.Fields.get?` and `Json.Fields.erase` keep members sorted and
  unique; `Json.ofFields` builds an object from any list, the last member of a key winning.
-/

namespace ConnectorPlane

/-- A JSON number: an integer within the 64-bit range, or a double by its bits. -/
inductive Number where
  /-- An integer in `[-2^63, 2^64)`. -/
  | int (value : Int)
  /-- A double, stored as its IEEE 754 bit pattern. -/
  | float (bits : UInt64)
deriving DecidableEq, Repr, Inhabited

/-- A JSON value. Object members are sorted by key and unique. -/
inductive Json where
  | null
  | bool (value : Bool)
  | num (value : Number)
  | str (value : String)
  | arr (items : List Json)
  | obj (fields : List (String × Json))
deriving Repr, Inhabited

namespace Number

/-- The double a number denotes when arithmetic needs one. -/
def toFloat : Number → Float
  | .int v => if v < 0 then -(Float.ofNat v.natAbs) else Float.ofNat v.toNat
  | .float bits => Float.ofBits bits

/-- Integers compare by value, doubles by bits. -/
def beq : Number → Number → Bool
  | .int a, .int b => a == b
  | .float a, .float b => a == b
  | _, _ => false

end Number

namespace Json

/-- Whether a value is an object. -/
def isObject : Json → Bool
  | .obj _ => true
  | _ => false

/-- Structural equality. -/
def beq : Json → Json → Bool
  | .null, .null => true
  | .bool a, .bool b => a == b
  | .num a, .num b => a.beq b
  | .str a, .str b => a == b
  | .arr as, .arr bs => items as bs
  | .obj as, .obj bs => fields as bs
  | _, _ => false
where
  items : List Json → List Json → Bool
    | [], [] => true
    | a :: as, b :: bs => beq a b && items as bs
    | _, _ => false
  fields : List (String × Json) → List (String × Json) → Bool
    | [], [] => true
    | (k, a) :: as, (l, b) :: bs => k == l && beq a b && fields as bs
    | _, _ => false

instance : BEq Json := ⟨beq⟩

namespace Fields

/-- The value stored under a key. -/
def get? (fs : List (String × Json)) (key : String) : Option Json :=
  (fs.find? (fun p => p.1 == key)).map (·.2)

/-- Inserts a member at its sorted place, replacing the member of the same key. -/
def insert (key : String) (value : Json) : List (String × Json) → List (String × Json)
  | [] => [(key, value)]
  | (k, v) :: rest =>
    if key < k then (key, value) :: (k, v) :: rest
    else if key = k then (key, value) :: rest
    else (k, v) :: insert key value rest

/-- Removes the member of a key. -/
def erase (key : String) (fs : List (String × Json)) : List (String × Json) :=
  fs.filter (fun p => p.1 != key)

/-- Whether a key has a member. -/
def contains (fs : List (String × Json)) (key : String) : Bool :=
  fs.any (fun p => p.1 == key)

end Fields

/-- An object from members in any order; a later member of a key replaces an earlier one. -/
def ofFields (members : List (String × Json)) : Json :=
  .obj (members.foldl (fun acc p => Fields.insert p.1 p.2 acc) [])

/-- The member of an object under a key. -/
def get? : Json → String → Option Json
  | .obj fs, key => Fields.get? fs key
  | _, _ => none

/-- A string value. -/
def getStr? : Json → Option String
  | .str s => some s
  | _ => none

/-- An array value. -/
def getArr? : Json → Option (List Json)
  | .arr xs => some xs
  | _ => none

/-- An integer value. -/
def getInt? : Json → Option Int
  | .num (.int v) => some v
  | _ => none

/-- A boolean value. -/
def getBool? : Json → Option Bool
  | .bool b => some b
  | _ => none

/-- A natural number as a JSON integer. -/
def nat (n : Nat) : Json := .num (.int n)

/-- An optional string, `null` when absent. -/
def optStr : Option String → Json
  | some s => .str s
  | none => .null

end Json

end ConnectorPlane
