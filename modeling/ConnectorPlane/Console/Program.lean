import ConnectorPlane.Console.Actions
import ConnectorPlane.Console.Settings

/-! # The program

A run reads its words first: help, the version and usage errors end it there, with exit status
0 for help and the version and 2 otherwise. It then loads the configuration layers and checks
them, and runs the command: the configuration commands on the configuration alone, the others
in a session. It exits with 0, or with 1 after writing its failure to standard error.
-/

namespace ConnectorPlane

namespace Console

open Process

/-- The program once its words are read. -/
def program (inv : Invocation) : ProcessM Unit := do
  let h ← currentHost
  let loaded := Config.discover h.files h.cwd h.env
  Process.orFail (loaded.config.validate.mapError ConfigError.toFailure)
  match inv.action with
  | .showConfig | .whichConfig | .initConfig _ | .configPaths => runConfig inv loaded
  | .listDefinitions .. | .getDefinition .. | .lookupDefinition .. =>
    Session.within loaded.config (runDefinitions inv)
  | _ => Session.within loaded.config (runConnectors inv h.files h.cwd)

/-- Runs the program with the words after its name on a host: what it leaves and the host
after it. -/
def run (args : List String) (h : Host) : Transcript × Host :=
  match grammar.parse h.env args with
  | .error stop =>
    let (out, err) := if stop.toStdout then (stop.text, "") else ("", stop.text)
    (⟨stop.exitCode, out, err⟩, h)
  | .ok parsed =>
    match Invocation.ofParsed parsed with
    | some inv => finish (program inv) h
    | none => (⟨0, "", ""⟩, h)

end Console

end ConnectorPlane
