import ConnectorPlane.Service.Error

/-! # Connector ids

A connector id is one to 63 bytes: a lowercase ASCII letter, then lowercase letters, digits
and hyphens, not ending in a hyphen. Any other byte, a non-ASCII one included, makes it
invalid.
-/

namespace ConnectorPlane

namespace ConnectorId

/-- Whether a byte may stand inside an id. -/
def isIdByte (b : UInt8) : Bool :=
  (97 ≤ b.toNat && b.toNat ≤ 122) || (48 ≤ b.toNat && b.toNat ≤ 57) || b.toNat = 45

/-- Whether a text is a valid connector id. -/
def isValid (id : String) : Bool :=
  let bytes := id.toUTF8.toList
  match bytes.head? with
  | some b =>
    97 ≤ b.toNat && b.toNat ≤ 122 && bytes.length ≤ 63 && bytes.all isIdByte &&
      bytes.getLast? != some 45
  | none => false

/-- Accepts a valid id and refuses any other with the pattern it must match. -/
def check (id : String) : Except ServiceError Unit :=
  if isValid id then .ok ()
  else .error (.invalidArgument
    ("connector id '" ++ id ++ "' must match ^[a-z]([a-z0-9-]\x7b0,61\x7d[a-z0-9])?$"))

end ConnectorId

end ConnectorPlane
