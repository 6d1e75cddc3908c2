/-! # Request metadata

The headers of a request, as a map from lowercase key to the values given for it, in the order
given. Keys are compared without regard to ASCII case. A key has a *single* value when exactly
one non-empty value was given.

Two headers say who is calling: `jwt-sub` carries an authenticated user's uid and `owner-id`
an owner's id.
-/

namespace ConnectorPlane

/-- The header carrying the caller's uid. -/
def headerOwnerUid : String := "jwt-sub"

/-- The header carrying the caller's owner id. -/
def headerOwnerId : String := "owner-id"

/-- Lowercases the ASCII letters of a text. -/
def asciiLower (s : String) : String := String.map Char.toLower s

/-- Uppercases the ASCII letters of a text. -/
def asciiUpper (s : String) : String := String.map Char.toUpper s

/-- Headers by lowercase key, keys sorted, values in the order given. -/
structure Metadata where
  entries : List (String × List String) := []
deriving Repr, Inhabited

namespace Metadata

/-- Adds a value under a key. -/
def append (m : Metadata) (key value : String) : Metadata :=
  let k := asciiLower key
  ⟨go k m.entries⟩
where
  go (k : String) : List (String × List String) → List (String × List String)
    | [] => [(k, [value])]
    | (k', vs) :: rest =>
      if k < k' then (k, [value]) :: (k', vs) :: rest
      else if k = k' then (k', vs ++ [value]) :: rest
      else (k', vs) :: go k rest

/-- Metadata from key-value pairs, appended in order. -/
def ofList (pairs : List (String × String)) : Metadata :=
  pairs.foldl (fun m p => m.append p.1 p.2) {}

/-- All values of a key. -/
def getAll (m : Metadata) (key : String) : List String :=
  ((m.entries.find? (fun p => p.1 == asciiLower key)).map (·.2)).getD []

/-- The value of a key given exactly once and not empty. -/
def single (m : Metadata) (key : String) : Option String :=
  match m.getAll key with
  | [v] => if v.isEmpty then none else some v
  | _ => none

/-- Whether a key has any value. -/
def contains (m : Metadata) (key : String) : Bool := !(m.getAll key).isEmpty

/-- Names the default owner when no owner id is given; an empty default names none. -/
def withDefaultOwner (m : Metadata) (ownerId : String) : Metadata :=
  if !ownerId.isEmpty && !m.contains headerOwnerId then m.append headerOwnerId ownerId else m

end Metadata

end ConnectorPlane
