import ConnectorPlane.Config.Discovery
import ConnectorPlane.Console.Commands
import ConnectorPlane.Console.Print
import ConnectorPlane.Console.Process
import ConnectorPlane.Toml.Write
import ConnectorPlane.Uuid

/-! # The configuration commands

* `config show` prints the merged configuration: the files it came from, the warnings of those
  that could not be used, the database and catalog paths it gives, and its TOML text;
* `config which` lists the files looked for, lowest first, and how many were loaded;
* `config init` writes a starting file (the user's, or `conduit.toml` with `--local`) unless
  one is there; the file names one user under a fresh uid;
* `config path` prints the user configuration file and the data directory.
-/

namespace ConnectorPlane

namespace Console

open Process

/-- The starting configuration file, with the uid of its one user. -/
def initTemplate (ownerUid : Uuid) : String :=
  "# Conduit Configuration\n\n# [database]\n# path = \"conduit.db\"\n\n# [catalog]\n# dir = \"catalog\"\n\n" ++
  "[identity]\nlookup_timeout_secs = 5\ndefault_owner_id = \"local-user\"\nbackend = \"static\"\n\n" ++
  "[[identity.users]]\nuid = \"" ++ ownerUid.text ++ "\"\nid = \"local-user\"\n\n" ++
  "[pipeline]\nenabled = true\ntask_queue = \"connector-backend\"\n# max_concurrent_tasks = 4\n" ++
  "# task_timeout_secs = 300\n# pipeline_timeout_secs = 600\n\n[logging]\nlevel = \"info\"\njson_file = true\n"

/-- The message when there is no home to find the user's configuration in. -/
def noConfigDir : String := "Could not determine config directory"

/-- `config show`. -/
def showConfig (loaded : LoadedConfig) (json : Bool) : ProcessM Unit := do
  if json then
    say ((configShown loaded.config).pretty ++ "\n")
  else
    let h ← currentHost
    say "# Conduit Configuration\n\n"
    match loaded.loadedFrom with
    | [] => say "# No config files loaded (using defaults)\n\n"
    | sources => say (String.join (sources.map fun s => "# from " ++ s ++ "\n") ++ "\n")
    for w in loaded.warnings do say ("# warning: " ++ w ++ "\n")
    let dataDir := Config.dataDir h.env
    say ("# database: " ++ loaded.config.databasePath dataDir ++ "\n")
    say ("# catalog:  " ++ loaded.config.catalogDir dataDir ++ "\n\n")
    say loaded.config.toToml

/-- `config which`. -/
def whichConfig (loaded : LoadedConfig) (json : Bool) : ProcessM Unit := do
  if json then
    say (Json.pretty (.arr (loaded.sources.map fun s =>
      Json.ofFields [("path", .str s.path), ("loaded", .bool s.loaded)])) ++ "\n")
  else
    say "Config file search order (later overrides earlier):\n\n"
    for s in loaded.sources do
      say ("  " ++ (if s.loaded then "✓ loaded" else "· not found") ++ " " ++ s.path ++ "\n")
    say "\n"
    match loaded.loadedFrom.length with
    | 0 => say "No config files found. Run 'conduit config init' to create one.\n"
    | n => say (toString n ++ " config file(s) loaded.\n")

/-- `config init`: writes the starting file unless something is at its path. -/
def initConfig (projectLocal : Bool) : ProcessM Unit := do
  let h ← currentHost
  let path ← if projectLocal then pure Config.projectFile
    else match Config.userConfigPath h.env with
      | some p => pure p
      | none => throw (.plain noConfigDir)
  if h.files.exists? (HostPath.join h.cwd path) then
    say ("Config file already exists: " ++ path ++ "\n")
  else
    let files ← match HostPath.parent? path with
      | some dir =>
        if dir.isEmpty then pure h.files
        else orFail ((h.files.createDirAll (HostPath.join h.cwd dir)).mapError
          fun f => Failure.plain f.text)
      | none => pure h.files
    let files ← orFail ((files.writeFile (HostPath.join h.cwd path)
      (Utf8.encode (initTemplate (Uuid.fresh h.seed 0)))).mapError fun f => Failure.plain f.text)
    setFiles files
    say ("✓ Created config file: " ++ path ++ "\n\nNext steps:\n  put catalog files in " ++
      HostPath.join (Config.dataDir h.env) "catalog" ++ "\n" ++
      "  conduit config show               # verify configuration\n" ++
      "  conduit definitions list          # browse the catalog\n")

/-- `config path`. -/
def configPaths (json : Bool) : ProcessM Unit := do
  let h ← currentHost
  let config := Config.userConfigPath h.env
  let data := Config.dataDir h.env
  if json then
    say (Json.pretty (Json.ofFields [("config", Json.optStr config), ("data", .str data)]) ++ "\n")
  else
    match config with
    | some p => say ("config: " ++ p ++ "\n")
    | none => warn (noConfigDir ++ "\n")
    say ("data:   " ++ data ++ "\n")

/-- Runs a configuration command. -/
def runConfig (inv : Invocation) (loaded : LoadedConfig) : ProcessM Unit :=
  match inv.action with
  | .showConfig => showConfig loaded inv.json
  | .whichConfig => whichConfig loaded inv.json
  | .initConfig projectLocal => initConfig projectLocal
  | .configPaths => configPaths inv.json
  | _ => pure ()

end Console

end ConnectorPlane
