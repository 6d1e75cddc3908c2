import ConnectorPlane.Console.Program

/-! # The command-line entry point

Runs the program on the machine it is started on: the environment variables it reads, the
working directory, and the configuration and catalog files it may read, copied into a file
tree. What it writes to its two streams is printed, regular files it created or changed are
written back, and its exit status is returned.
-/

open ConnectorPlane Console

/-- The environment variables the program reads. -/
def readVariables : List String :=
  ["CONDUIT_CONFIG_DIR", "CONDUIT_DATA_DIR", "CONDUIT_OWNER_ID", "CONDUIT_OWNER_UID", "HOME",
    "XDG_CONFIG_HOME", "XDG_DATA_HOME"]

/-- Copies a file of the machine into the tree, when there is one. -/
def copyIn (fs : Files) (path : String) : IO Files := do
  try
    let bytes ← IO.FS.readBinFile path
    match (fs.createDirAll ((HostPath.parent? path).getD "/")).bind (·.writeFile path bytes.toList) with
    | .ok f => pure f
    | .error _ => pure fs
  catch _ => pure fs

/-- Writes back the regular files the run created or changed. -/
def copyOut (before after : Files) : IO Unit := do
  for (parts, node) in after.nodes do
    match node with
    | .file bytes =>
      let unchanged := match before.node? parts with
        | some (.file old) => old == bytes
        | _ => false
      unless unchanged do
        try
          IO.FS.writeBinFile ("/" ++ "/".intercalate parts) (ByteArray.mk bytes.toArray)
        catch _ => pure ()
    | _ => pure ()

/-- Runs the program with its arguments. -/
def main (args : List String) : IO UInt32 := do
  let mut env : Environment := {}
  for name in readVariables do
    if let some v ← IO.getEnv name then env := env.set name v
  let cwd := (← IO.getEnv "PWD").getD "/"
  let dataDir := HostPath.join cwd (Config.dataDir env)
  let mut fs : Files := {}
  for path in (Config.userConfigPath env).toList ++ [Config.projectFile] ++
      FamilyKind.order.map fun k => HostPath.join (HostPath.join dataDir "catalog") k.catalogFile do
    fs ← copyIn fs (HostPath.join cwd path)
  let seed := (← IO.monoNanosNow) % Nat.pow 2 32
  let (t, h) := run args ⟨fs, env, cwd, Clock.initial, seed⟩
  IO.print t.stdout
  IO.eprint t.stderr
  copyOut fs h.files
  pure t.exit.toUInt32
