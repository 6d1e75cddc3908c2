import ConnectorPlane.Console.Failure
import ConnectorPlane.Host.Env
import ConnectorPlane.Host.Files
import ConnectorPlane.Time.Clock

/-! # Running the program as a process

A process runs on a host: the files it reads and writes, its environment, its working
directory, the wall clock, and the seed of the random values it draws. While it runs it writes
to standard output and standard error; it ends with an exit status. A failure ends it early but
keeps what it already changed and wrote.
-/

namespace ConnectorPlane

namespace Console

/-- The machine a process runs on. -/
structure Host where
  files : Files
  env : Environment
  cwd : String
  clock : Clock
  /-- The seed of the random values the process draws. -/
  seed : Nat
deriving Repr

/-- What a process leaves behind it: its exit status and what it wrote. -/
structure Transcript where
  exit : Nat
  stdout : String
  stderr : String
deriving Repr

/-- A running process: its host and what it has written so far. -/
structure Process where
  host : Host
  out : String := ""
  err : String := ""
deriving Repr

/-- Steps of a process; a failure ends it and keeps what was done. -/
abbrev ProcessM := ExceptT Failure (StateM Process)

namespace Process

/-- Writes to standard output. -/
def say (s : String) : ProcessM Unit := modify fun p => { p with out := p.out ++ s }

/-- Writes to standard error. -/
def warn (s : String) : ProcessM Unit := modify fun p => { p with err := p.err ++ s }

/-- The host. -/
def currentHost : ProcessM Host := return (← get).host

/-- Changes the host. -/
def setHost (h : Host) : ProcessM Unit := modify fun p => { p with host := h }

/-- Replaces the files. -/
def setFiles (fs : Files) : ProcessM Unit := modify fun p => { p with host := { p.host with files := fs } }

/-- Ends with a failure, or goes on with the value. -/
def orFail {α : Type} : Except Failure α → ProcessM α
  | .ok a => pure a
  | .error f => throw f

/-- Runs a process to its end: exit status 0 when it succeeds, 1 with the failure written to
standard error when it fails. -/
def finish (m : ProcessM Unit) (h : Host) : Transcript × Host :=
  let (r, p) := m.run.run ⟨h, "", ""⟩
  match r with
  | .ok () => (⟨0, p.out, p.err⟩, p.host)
  | .error f => (⟨1, p.out, p.err ++ f.render⟩, p.host)

end Process

end Console

end ConnectorPlane
