import ControllerHost.Settings.Reading
import ControllerHost.Yaml.Writing

/-!
# Settings files

Settings are written to a file with one line for each of them, and read back from it.

- `Settings.render?`: the text of some settings.
- `Settings.load`, `Settings.save`: settings from and to a file.
- `Settings.loadDefault`: the settings of a user, which need not be there.
- `Settings.Failure`: what can go wrong, with `Settings.Failure.message` and its causes.
-/

namespace ControllerHost.Settings

/-- What can go wrong with a settings file. -/
inductive Failure where
  /-- The file cannot be read. -/
  | unreadable (path : Path) (fault : FileFault)
  /-- The file holds no settings. -/
  | unparsable (fault : ReadingFault)
  /-- No registry can work with the settings. -/
  | invalid (fault : Fault)
  /-- A path is no text. -/
  | unwritten
  /-- The directories that lead to the file cannot be created. -/
  | noDirectory (fault : FileFault)
  /-- The file cannot be written. -/
  | unwritable (fault : FileFault)
  /-- The user has no home directory. -/
  | noHome
deriving DecidableEq

namespace Failure

/-- The text of a failure. -/
def message : Failure → String
  | unreadable path _ => "Failed to read config file " ++ path.shown
  | unparsable _ => "Failed to parse config file"
  | invalid fault => fault.message
  | unwritten => "Failed to serialize config"
  | noDirectory _ => "Failed to create config directory"
  | unwritable _ => "Failed to write config file"
  | noHome => "Failed to get home directory"

/-- What is known of the cause of a failure. -/
def causes : Failure → List String
  | unreadable _ fault | noDirectory fault | unwritable fault => [fault.message]
  | unparsable (.unknownDebugLevel number) => [Log.DebugLevel.unknownMessage number]
  | unparsable .malformed | invalid _ | noHome => []
  | unwritten => ["path contains invalid UTF-8 characters"]

/-- A failure with its causes in one line. -/
def chain (failure : Failure) : String := ": ".intercalate (failure.message :: failure.causes)

end Failure

/-- A truth value in a settings file. -/
def boolText (value : Bool) : String := if value then "true" else "false"

/-- The text of some settings, unless a path is no text. -/
def render? (settings : Settings) : Option String := do
  let copyDir ← match settings.copyDir? with
    | none => some "null\n"
    | some path => (Bytes.text? path.bytes).map Yaml.Writing.value
  some ("max_connections: " ++ toString settings.maxConnections
    ++ "\nisolate_instances: " ++ boolText settings.isolateInstances
    ++ "\ncopy_dir: " ++ copyDir
    ++ "serialize_loader: " ++ boolText settings.serializeLoader
    ++ "\ndebug_level: " ++ toString settings.debugLevel.number ++ "\n")

/-- The settings in a file, if a registry can work with them. -/
def load (files : FileSystem) (path : Path) : Except Failure Settings := do
  let text ← (files.readText path).mapError (Failure.unreadable path)
  let settings ← (parse text).mapError Failure.unparsable
  match settings.fault? files with
  | some fault => .error (.invalid fault)
  | none => .ok settings

/-- The file system after the directories that lead to a path have been created. -/
def createParents (files : FileSystem) (path : Path) : Except FileFault FileSystem :=
  match path.parent? with
  | some parent => files.createDirectories parent
  | none => .ok files

/-- Writes settings to a file. The directories that lead to it stay when the file itself cannot be
written. -/
def save (settings : Settings) (files : FileSystem) (path : Path) :
    Except Failure Unit × FileSystem :=
  match settings.render? with
  | none => (.error .unwritten, files)
  | some text =>
    match createParents files path with
    | .error fault => (.error (.noDirectory fault), files)
    | .ok files =>
      match files.write path (Bytes.ofText text) with
      | .error fault => (.error (.unwritable fault), files)
      | .ok files => (.ok (), files)

/-- Where the settings of the user with a home directory are. -/
def defaultPath (home : Path) : Path :=
  (home.join (.ofText ".discon-wrapper")).join (.ofText "config.yaml")

/-- The settings of a user, or the defaults if there is no file. A user without a home directory
has neither. -/
def loadDefault (files : FileSystem) (home? : Option Path) : Except Failure Settings :=
  match home? with
  | none => .error .noHome
  | some home =>
    if files.exists? (defaultPath home) then load files (defaultPath home) else .ok {}

end ControllerHost.Settings
