import NamedLock.Config.Environment
import NamedLock.Config.Files
import NamedLock.Config.Reading

/-!
# Load — the settings of a program

The settings of a program come from four layers above the names of the service and of the environment: the file
for all programs, the file of the environment, the file of the service, and environment variables.
-/

namespace NamedLock

namespace Config

/-- The environment that settings are for. -/
def environmentName (vs : Environment.Variables) : String :=
  (Environment.lookup? vs "LOCK_ENV").getD "development"

/-- The directory that holds the configuration files. -/
def directory (vs : Environment.Variables) : FilePath :=
  FilePath.ofText ((Environment.lookup? vs "CONFIG_DIR").getD "config")

/-- The configuration file of this name. -/
def configFile (vs : Environment.Variables) (name : String) : FilePath :=
  (directory vs).join (FilePath.ofText (name ++ ".toml"))

/-- The configuration files of a service, lowest first: for all programs, for the environment, its own. -/
def configFiles (service : String) (vs : Environment.Variables) : List FilePath :=
  [configFile vs "default", configFile vs (environmentName vs), configFile vs service]

/-- Every path that is looked at for the settings of a service. -/
def pathsOfInterest (service : String) (vs : Environment.Variables) : List FilePath :=
  (configFiles service vs).flatMap fun p => p :: (furtherPaths p).map (·.1)

/-- What is set before any file is read. -/
def baseLayer (service environment : String) : Layer :=
  [("service_name", .scalar (.text service) none),
    ("environment", .scalar (.text environment) none)]

/-- All layers of a service, lowest first. -/
def layers (service : String) (vs : Environment.Variables) (files : Files) :
    Except ConfigError (List Layer) := do
  let ofFiles ← (configFiles service vs).mapM (fileLayer files)
  pure (baseLayer service (environmentName vs) :: ofFiles ++ [Environment.layer vs])

/-- The settings of a service. -/
def load (service : String) (vs : Environment.Variables) (files : Files) :
    Except ConfigError AppSettings := do
  readRecord (appShape reading) (applyLayers (← layers service vs files))

/-- The configuration that one TOML text holds. -/
def ofTomlText (s : String) : Except ConfigError Value :=
  match Format.toml.parse? none s with
  | some l => .ok (applyLayers [l])
  | none => .error (.fileParse none syntaxError)

end Config

end NamedLock
