import ConnectorPlane.Host.Files

/-! # Opening a store

A repository keeps its tables in memory or in a database file. Opening one at a file first
makes the directory above the file when it is missing, and reports a failure to make it as an
input-output error on that directory. The file itself may be absent or empty, and then opens
as an empty store; a directory, a place under a file, or a file of other bytes cannot be opened
as a database.

Closing a repository writes its tables back to its file, so that opening the file again finds
them; a repository in memory leaves nothing behind.
-/

namespace ConnectorPlane

/-- Where a repository keeps its tables. -/
inductive Medium where
  | memory
  | file (path : String)
deriving DecidableEq, Repr

/-- An open repository. -/
structure Repository where
  medium : Medium
  tables : Tables
deriving Repr

namespace Repository

/-- How a repository shows itself in diagnostics. -/
def summary : String := "SqliteRepository { .. }"

/-- The database's words for a place it cannot open. -/
def cannotOpen : StoreError := .database "unable to open database file"

/-- The database's words for a file that holds something else. -/
def notADatabase : StoreError := .database "file is not a database"

/-- Makes the directory above a database file when it is missing; a relative path is taken
from the working directory `cwd` and reported as written. -/
def prepareDirectory (fs : Files) (cwd path : String) : Except StoreError Files :=
  match HostPath.parent? path with
  | some dir =>
    let place := HostPath.join cwd dir
    if dir.isEmpty || fs.exists? place then .ok fs
    else match fs.createDirAll place with
      | .ok fs' => .ok fs'
      | .error f => .error (.io dir f.text)
  | none => .ok fs

/-- The tables in a database file, creating the file when it is absent or empty. -/
def openFile (fs : Files) (cwd path : String) : Except StoreError (Tables × Files) := do
  let fs ← prepareDirectory fs cwd path
  let parts := HostPath.resolve (HostPath.join cwd path)
  match fs.checkAbove parts, fs.node? parts with
  | .error _, _ => throw cannotOpen
  | .ok _, none => pure ({}, fs.put parts (.database {}))
  | .ok _, some .directory => throw cannotOpen
  | .ok _, some (.file []) => pure ({}, fs.put parts (.database {}))
  | .ok _, some (.file _) => throw notADatabase
  | .ok _, some (.database t) => pure (t, fs)

/-- Opens the repository in a database file named from the working directory `cwd`. -/
def openIn (fs : Files) (cwd path : String) : Except StoreError (Repository × Files) := do
  let (t, fs') ← openFile fs cwd path
  pure (⟨.file (HostPath.join cwd path), t⟩, fs')

/-- Opens a repository on a medium. -/
def openOn (fs : Files) : Medium → Except StoreError (Repository × Files)
  | .memory => .ok (⟨.memory, {}⟩, fs)
  | .file path => openIn fs "/" path

/-- Writes the tables back to the repository's file. -/
def close (r : Repository) (fs : Files) : Files :=
  match r.medium with
  | .memory => fs
  | .file path => fs.put (HostPath.resolve path) (.database r.tables)

/-- Closes a repository and opens its medium again. -/
def reopen (r : Repository) (fs : Files) : Except StoreError (Repository × Files) :=
  openOn (r.close fs) r.medium

/-- Runs a write on the tables. -/
def write (r : Repository) (f : Tables → Except StoreError Tables) :
    Except StoreError Repository :=
  (f r.tables).map fun t => { r with tables := t }

end Repository

end ConnectorPlane
