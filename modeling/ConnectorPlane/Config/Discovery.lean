import ConnectorPlane.Config.Toml
import ConnectorPlane.Host.Env
import ConnectorPlane.Host.Files

/-! # Finding and saving configuration

Configuration comes in layers, later ones replacing the sections they have:

1. the user's file `config.toml` in the user configuration directory;
2. the project's file `conduit.toml` in the working directory.

A layer whose path holds no regular file is skipped; one that cannot be read or parsed is
skipped with a warning `Failed to load <path>: <reason>`. Relative paths are read from the
working directory and reported as written.

The user configuration directory is `CONDUIT_CONFIG_DIR` when set and not empty, otherwise
`conduit` under the platform's configuration directory: `XDG_CONFIG_HOME` when it is an
absolute path, else `.config` in the home directory. The data directory is likewise
`CONDUIT_DATA_DIR`, else `conduit` under `XDG_DATA_HOME` or `.local/share` in the home
directory, else `.conduit`.

Saving writes the configuration's TOML text after making the directories above the file.
-/

namespace ConnectorPlane

/-- A configuration layer that was looked for. -/
structure ConfigSource where
  path : String
  loaded : Bool
deriving DecidableEq, Repr

/-- The merged configuration, the layers looked for, lowest first, and the warnings of those
that could not be used. -/
structure LoadedConfig where
  config : Config
  sources : List ConfigSource
  warnings : List String
deriving Repr

/-- The paths of the layers that were loaded. -/
def LoadedConfig.loadedFrom (l : LoadedConfig) : List String :=
  (l.sources.filter (·.loaded)).map (·.path)

namespace Config

/-- The name of the project's file. -/
def projectFile : String := "conduit.toml"

/-- The name of the user's file. -/
def userFile : String := "config.toml"

/-- The directory name under the platform directories. -/
def appName : String := "conduit"

/-- The platform's configuration directory. -/
def platformConfigDir (env : Environment) : Option String :=
  ((env.get? "XDG_CONFIG_HOME").filter HostPath.isAbsolute) <|>
    env.home?.map (HostPath.join · ".config")

/-- The platform's data directory. -/
def platformDataDir (env : Environment) : Option String :=
  ((env.get? "XDG_DATA_HOME").filter HostPath.isAbsolute) <|>
    env.home?.map (HostPath.join · ".local/share")

/-- The user configuration directory. -/
def userConfigDir (env : Environment) : Option String :=
  env.nonEmpty? "CONDUIT_CONFIG_DIR" <|> (platformConfigDir env).map (HostPath.join · appName)

/-- The user's configuration file. -/
def userConfigPath (env : Environment) : Option String :=
  (userConfigDir env).map (HostPath.join · userFile)

/-- The data directory. -/
def dataDir (env : Environment) : String :=
  (env.nonEmpty? "CONDUIT_DATA_DIR").getD
    (((platformDataDir env).map (HostPath.join · appName)).getD ".conduit")

/-- Reads a configuration file. -/
def loadFile (fs : Files) (cwd path : String) : Except ConfigError Config :=
  match fs.readText (HostPath.join cwd path) with
  | .error f => .error (.readFile path f.text)
  | .ok text => ofToml text

/-- Whether a path holds a regular file. -/
def isFileAt (fs : Files) (cwd path : String) : Bool :=
  match fs.lookup (HostPath.join cwd path) with
  | .ok .directory | .error _ => false
  | .ok _ => true

/-- Merges one layer into a loaded configuration. -/
def addLayer (fs : Files) (cwd : String) (l : LoadedConfig) (path : String) : LoadedConfig :=
  if !isFileAt fs cwd path then
    { l with sources := l.sources ++ [⟨path, false⟩] }
  else match loadFile fs cwd path with
    | .ok layer => { l with config := l.config.merge layer, sources := l.sources ++ [⟨path, true⟩] }
    | .error e => { l with sources := l.sources ++ [⟨path, false⟩],
                           warnings := l.warnings ++ ["Failed to load " ++ path ++ ": " ++ e.message] }

/-- Loads the user's layer, when there is a user file to look for, and the project's. -/
def load (fs : Files) (cwd : String) (userConfig : Option String) (projectPath : String) :
    LoadedConfig :=
  let start : LoadedConfig := ⟨{}, [], []⟩
  let withUser := match userConfig with
    | some path => addLayer fs cwd start path
    | none => start
  addLayer fs cwd withUser projectPath

/-- Loads the layers a process finds: the user's file and `conduit.toml` in the working
directory. -/
def discover (fs : Files) (cwd : String) (env : Environment) : LoadedConfig :=
  load fs cwd (userConfigPath env) projectFile

/-- Saves a configuration, making the directories above the file. -/
def save (fs : Files) (cwd : String) (c : Config) (path : String) : Except ConfigError Files := do
  let fs ← match HostPath.parent? path with
    | some dir =>
      match fs.createDirAll (HostPath.join cwd dir) with
      | .ok fs' => pure fs'
      | .error f => throw (.writeFile dir f.text)
    | none => pure fs
  match fs.writeFile (HostPath.join cwd path) (Utf8.encode c.toToml) with
  | .ok fs' => pure fs'
  | .error f => throw (.writeFile path f.text)

end Config

end ConnectorPlane
