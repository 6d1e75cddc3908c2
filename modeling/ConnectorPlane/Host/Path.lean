/-! # File paths

Paths are texts whose parts are separated by `/`; a path is absolute when it starts with `/`.
Joining a relative path onto a base puts one `/` between them unless the base is empty or
already ends in one, and keeps both as written: `/data` joined with `` is `/data/`, and
`..` stays a part of its own. An absolute path joined onto anything replaces it.
-/

namespace ConnectorPlane

namespace HostPath

/-- Whether a path starts at the root. -/
def isAbsolute (p : String) : Bool := p.startsWith "/"

/-- `base` followed by `p`; an absolute `p` replaces `base`. -/
def join (base p : String) : String :=
  if isAbsolute p then p
  else if base.isEmpty || base.endsWith "/" then base ++ p
  else base ++ "/" ++ p

/-- The non-empty parts of a path other than `.`, in order. -/
def parts (p : String) : List String :=
  (p.splitOn "/").filter fun s => !s.isEmpty && s != "."

/-- The path without its last part: `none` for the root or a path with no parts. -/
def parent? (p : String) : Option String :=
  let ps := parts p
  if ps.isEmpty then none
  else
    let pre := String.intercalate "/" ps.dropLast
    some (if isAbsolute p then "/" ++ pre else pre)

/-- Whether a path can only name a directory: it ends in `/`, or its last part is `.` or `..`. -/
def namesDirectory (p : String) : Bool :=
  p.endsWith "/" || p.endsWith "/." || p.endsWith "/.." || p == "." || p == ".."

/-- The last part of a path, unless it is `..` or there is none. -/
def fileName? (p : String) : Option String :=
  match (parts p).getLast? with
  | some ".." => none
  | other => other

end HostPath

end ConnectorPlane
