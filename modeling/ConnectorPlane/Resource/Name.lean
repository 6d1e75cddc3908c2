/-! # Resource names and permalinks

A resource is named `<collection>/<id>` and reached permanently as `<collection>/<uid>`.
Names may be nested (`users/alice/connectors/abc`); the collection is the segment before the
last `/`, and the id or uid the segment after it.
-/

namespace ConnectorPlane

/-- A name or permalink that cannot be taken apart. -/
inductive ResourceError where
  | malformedName (name : String)
  | malformedPermalink (permalink : String)
deriving DecidableEq, Repr

namespace ResourceError

/-- The variant's name. -/
def kind : ResourceError → String
  | .malformedName _ => "MalformedName"
  | .malformedPermalink _ => "MalformedPermalink"

/-- The message of the error. -/
def message : ResourceError → String
  | .malformedName n => "malformed resource name '" ++ n ++ "'"
  | .malformedPermalink n => "malformed resource permalink '" ++ n ++ "'"

end ResourceError

namespace Resource

/-- The text before the last `/`, if there is one. -/
def beforeLastSlash (s : String) : Option String :=
  let cs := s.toList
  if cs.contains '/' then
    some (String.ofList (cs.reverse.dropWhile (· ≠ '/')).reverse.dropLast)
  else none

/-- The text after the last `/`, or all of it. -/
def lastSegment (s : String) : String :=
  String.ofList (s.toList.reverse.takeWhile (· ≠ '/')).reverse

/-- The collection of a name: the segment before the last `/`, which must not be empty. -/
def collection (name : String) : Except ResourceError String :=
  match beforeLastSlash name with
  | none => .error (.malformedName name)
  | some pre =>
    if pre.isEmpty then .error (.malformedName name)
    else
      let c := lastSegment pre
      if c.isEmpty then .error (.malformedName name) else .ok c

/-- The id at the end of a name, which must not be empty. -/
def id (name : String) : Except ResourceError String :=
  let s := lastSegment name
  if s.isEmpty then .error (.malformedName name) else .ok s

/-- The uid at the end of a permalink, which must not be empty. -/
def uid (permalink : String) : Except ResourceError String :=
  let s := lastSegment permalink
  if s.isEmpty then .error (.malformedPermalink permalink) else .ok s

end Resource

end ConnectorPlane
