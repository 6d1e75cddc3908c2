import ConnectorPlane.Host.Path
import ConnectorPlane.Store.Tables
import ConnectorPlane.Text.Utf8

/-! # The file tree

The files the program reads and writes, as a tree of places named by their parts from the
root. A place holds a directory, a file of bytes, or a database, whose tables stand for the
pages of its file. The root is always a directory.

Looking a path up walks its parts from the root: the first part that is missing fails with
`notFound`, the first that is a file where a directory is needed with `notADirectory`; `..`
steps back out of a directory the walk has reached, so what precedes it must exist. A path
ending in `/`, `.` or `..` names a directory: reading a file through it fails with
`notADirectory`, and writing through it with `isADirectory`. This is what the operating system
reports, and its wording is `IoFault.text`.

`Files.createDirAll` makes a directory and any missing ones above it, and succeeds when the
directory is already there; a file in the way fails it.
-/

namespace ConnectorPlane

/-- Why a file operation failed. -/
inductive IoFault where
  | notFound
  | notADirectory
  | isADirectory
  | alreadyExists
  | invalidUtf8
deriving DecidableEq, Repr

/-- The operating system's words for a fault. -/
def IoFault.text : IoFault → String
  | .notFound => "No such file or directory (os error 2)"
  | .notADirectory => "Not a directory (os error 20)"
  | .isADirectory => "Is a directory (os error 21)"
  | .alreadyExists => "File exists (os error 17)"
  | .invalidUtf8 => "stream did not contain valid UTF-8"

/-- What a place of the tree holds. -/
inductive Node where
  | directory
  | file (bytes : List UInt8)
  | database (tables : Tables)
deriving Repr

namespace HostPath

/-- The parts of a path from the root: `.` dropped, `..` taking back the part before it. -/
def resolve (p : String) : List String :=
  ((p.splitOn "/").foldl (fun acc s =>
    if s.isEmpty || s == "." then acc
    else if s == ".." then acc.dropLast
    else acc ++ [s]) [])

end HostPath

/-- A file tree: the places other than the root, by their parts. -/
structure Files where
  nodes : List (List String × Node) := []
deriving Repr, Inhabited

namespace Files

/-- What a place holds, the root being a directory. -/
def node? (fs : Files) (parts : List String) : Option Node :=
  if parts.isEmpty then some .directory else (fs.nodes.find? (·.1 == parts)).map (·.2)

/-- Checks that every place above `parts` is a directory, walking down from the root. -/
def checkAbove (fs : Files) (parts : List String) : Except IoFault Unit :=
  go [] parts.dropLast
where
  go (done : List String) : List String → Except IoFault Unit
    | [] => .ok ()
    | p :: rest =>
      let here := done ++ [p]
      match fs.node? here with
      | some .directory => go here rest
      | some _ => .error .notADirectory
      | none => .error .notFound

/-- The place a part leads to from `here`: `.` stays, `..` goes up, a name goes down. -/
def stepTo (here : List String) (part : String) : List String :=
  if part == "." then here else if part == ".." then here.dropLast else here ++ [part]

/-- The place a path names, walking its parts from `here`: every part but the last must lead
to a directory. -/
def walk (fs : Files) (here : List String) : List String → Except IoFault (List String)
  | [] => .ok here
  | [last] => .ok (stepTo here last)
  | part :: rest =>
    let next := stepTo here part
    match fs.node? next with
    | some .directory => fs.walk next rest
    | some _ => .error .notADirectory
    | none => .error .notFound

/-- The place a path names, from the root. -/
def place (fs : Files) (path : String) : Except IoFault (List String) :=
  fs.walk [] ((path.splitOn "/").filter (!·.isEmpty))

/-- What a path holds. -/
def lookup (fs : Files) (path : String) : Except IoFault Node := do
  match fs.node? (← fs.place path) with
  | some .directory => pure .directory
  | some n => if HostPath.namesDirectory path then throw .notADirectory else pure n
  | none => throw .notFound

/-- Whether a path can be looked up. -/
def exists? (fs : Files) (path : String) : Bool := (fs.lookup path).toBool

/-- Whether a path is a directory. -/
def isDir (fs : Files) (path : String) : Bool :=
  match fs.lookup path with
  | .ok .directory => true
  | _ => false

/-- The tree with `parts` holding `n`. -/
def put (fs : Files) (parts : List String) (n : Node) : Files :=
  if fs.nodes.any (·.1 == parts) then
    ⟨fs.nodes.map fun e => if e.1 == parts then (parts, n) else e⟩
  else ⟨fs.nodes ++ [(parts, n)]⟩

/-- Makes one directory; the places above it must be directories already. -/
def mkdirParts (fs : Files) (parts : List String) : Except IoFault Files := do
  fs.checkAbove parts
  match fs.node? parts with
  | some _ => throw .alreadyExists
  | none => pure (fs.put parts .directory)

/-- Makes the directory of `parts` given in reverse, and those above it as needed. -/
def createDirAllRev (fs : Files) : List String → Except IoFault Files
  | [] => .ok fs
  | last :: above =>
    let parts := (last :: above).reverse
    match fs.mkdirParts parts with
    | .ok fs' => .ok fs'
    | .error f =>
      if fs.node? parts matches some .directory then .ok fs
      else if f ≠ .notFound then .error f
      else do
        let fs' ← fs.createDirAllRev above
        match fs'.mkdirParts parts with
        | .ok fs'' => pure fs''
        | .error f' => if fs'.node? parts matches some .directory then pure fs' else throw f'

/-- Makes a directory and any missing ones above it. -/
def createDirAll (fs : Files) (path : String) : Except IoFault Files :=
  fs.createDirAllRev (HostPath.resolve path).reverse

/-- Writes a file, replacing what it held; its directory must exist. -/
def writeFile (fs : Files) (path : String) (bytes : List UInt8) : Except IoFault Files := do
  let parts ← fs.place path
  if HostPath.namesDirectory path then throw .isADirectory
  match fs.node? parts with
  | some .directory => throw .isADirectory
  | _ => pure (fs.put parts (.file bytes))

/-- The bytes of a file; a database's pages are not readable as bytes here. -/
def readBytes (fs : Files) (path : String) : Except IoFault (Option (List UInt8)) := do
  match ← fs.lookup path with
  | .directory => throw .isADirectory
  | .file bytes => pure (some bytes)
  | .database _ => pure none

/-- The text of a file, which must be UTF-8. -/
def readText (fs : Files) (path : String) : Except IoFault String := do
  match ← fs.readBytes path with
  | some bytes => (Utf8.decode bytes).elim (throw .invalidUtf8) pure
  | none => throw .invalidUtf8

end Files

end ConnectorPlane
