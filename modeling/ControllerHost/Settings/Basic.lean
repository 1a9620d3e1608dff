import ControllerHost.FileSystem
import ControllerHost.Log.Filter

/-!
# Settings

What a host can set about its connections.

- `Settings`: the five settings with their defaults.
- `Settings.fault?`: why no registry can work with some settings.
-/

namespace ControllerHost

/-- What a host can set. -/
structure Settings where
  /-- The number of connections. -/
  maxConnections : Nat := 8192
  /-- Whether every connection loads a private copy of its library. -/
  isolateInstances : Bool := true
  /-- Where private copies go. -/
  copyDir? : Option Path := none
  /-- Whether no two libraries are opened or closed at the same time. -/
  serializeLoader : Bool := false
  /-- How much is logged. -/
  debugLevel : Log.DebugLevel := .disabled
deriving DecidableEq, Inhabited

namespace Settings

/-- Why settings are of no use. -/
inductive Fault where
  /-- There would be no connection. -/
  | noConnections
  /-- The last connection would have no number. -/
  | tooManyConnections (number : Nat)
  /-- Private copies would have no place. -/
  | noCopyDirectory (path : Path)
deriving DecidableEq

/-- The text about settings that are of no use. -/
def Fault.message : Fault → String
  | noConnections => "max_connections must be at least 1"
  | tooManyConnections number => s!"max_connections {number} does not fit a connection id"
  | noCopyDirectory path => s!"copy_dir {path.shown} is not a directory"

/-- Why settings are of no use in a file system, if they are not. -/
def fault? (settings : Settings) (files : FileSystem) : Option Fault :=
  if settings.maxConnections = 0 then some .noConnections
  else if settings.maxConnections ≥ 0x80000000 then
    some (.tooManyConnections settings.maxConnections)
  else match settings.copyDir? with
    | none => none
    | some path => if files.isDirectory path then none else some (.noCopyDirectory path)

end Settings

end ControllerHost
