import ControllerHost.Connection
import ControllerHost.Log.Record

/-!
# What happens in the host

Everything that the host does on behalf of a connection is an event. Most events are logged; those
that are not are here all the same, because the order of all of them is what keeps libraries,
private copies and entry points apart.

- `Event`: what can happen.
- `Event.record?`: the log record of an event, if it has one.
-/

namespace ControllerHost

/-- What can happen in the host. -/
inductive Event where
  /-- A loaded controller makes room for another one. -/
  | replacing (conn : ConnectionId) (previous : Path)
  /-- A private copy of a library has been made. -/
  | copied (conn : ConnectionId) (source copy : Path)
  /-- A private copy could not be made. -/
  | copyFailed (conn : ConnectionId) (path : Path) (reason : String)
  /-- There is no file to copy. -/
  | notCopied (conn : ConnectionId) (path : Path)
  /-- A library has been opened, and its loader logs that or not. -/
  | opened (conn : ConnectionId) (path : Path) (isLogged : Bool)
  /-- A library could not be opened. -/
  | openFailed (conn : ConnectionId) (path : Path) (reason : String)
  /-- The loader gave up while opening a library. -/
  | openPanicked (conn : ConnectionId)
  /-- An entry point has been found, and its controller is loaded. -/
  | loaded (conn : ConnectionId) (path : Path) (symbol : String)
  /-- An entry point could not be found. -/
  | resolveFailed (conn : ConnectionId) (path : Path) (symbol reason : String)
  /-- The loader gave up while looking for an entry point. -/
  | resolvePanicked (conn : ConnectionId)
  /-- A library has been closed, and its loader logs that or not. -/
  | closed (conn : ConnectionId) (path : Path) (isLogged : Bool)
  /-- The loader reported an error about a library that it closed. -/
  | closeComplained (conn : ConnectionId) (reason : String)
  /-- A private copy has been deleted. -/
  | copyDeleted (conn : ConnectionId) (copy : Path)
  /-- A controller is no longer loaded. -/
  | unloaded (conn : ConnectionId) (path : Path)
  /-- All connections have been released, and some had a controller. -/
  | shutDown (released : Nat)
  /-- A controller is about to be called. -/
  | calling (conn : ConnectionId) (symbol : String)
  /-- What a payload holds before a call. -/
  | payloadBefore (conn : ConnectionId) (report : String)
  /-- What a payload holds after a call. -/
  | payloadAfter (conn : ConnectionId) (report : String)
  /-- A foreign host unloaded a connection that there is not. -/
  | unloadIgnored (reason : String)
  /-- A foreign host's settings file is of no use. -/
  | settingsRefused (path reason : String)
deriving DecidableEq

namespace Event

open Log

/-- The connection that an event belongs to, if it is about one. -/
def connection? : Event → Option ConnectionId
  | replacing conn _ | copied conn _ _ | copyFailed conn _ _ | notCopied conn _
  | opened conn _ _ | openFailed conn _ _ | openPanicked conn | loaded conn _ _
  | resolveFailed conn _ _ _ | resolvePanicked conn | closed conn _ _ | closeComplained conn _
  | copyDeleted conn _ | unloaded conn _ | calling conn _ | payloadBefore conn _
  | payloadAfter conn _ => some conn
  | shutDown _ | unloadIgnored _ | settingsRefused _ _ => none

/-- The log record of an event. What a loader does with a library is logged only if the loader
logs it. -/
def record? : Event → Option Record
  | replacing conn previous =>
    some ⟨.debug, .registry, "releasing loaded controller before reload",
      [("conn", conn.text), ("previous", previous.shown)]⟩
  | copied conn source copy =>
    some ⟨.debug, .isolation, "created private library copy",
      [("conn", conn.text), ("source", source.shown), ("copy", copy.shown)]⟩
  | copyFailed conn path reason =>
    some ⟨.warn, .registry, "failed to copy library: " ++ reason,
      [("conn", conn.text), ("path", path.shown)]⟩
  | notCopied conn path =>
    some ⟨.debug, .registry, "not a file on disk, opening without a private copy",
      [("conn", conn.text), ("path", path.shown)]⟩
  | opened _ path true =>
    some ⟨.trace, .platform, "opened shared library", [("path", path.shown)]⟩
  | opened _ _ false => none
  | openFailed conn path reason =>
    some ⟨.warn, .registry, "failed to load library: " ++ reason,
      [("conn", conn.text), ("path", path.shown)]⟩
  | openPanicked _ => none
  | loaded conn path symbol =>
    some ⟨.info, .registry, "controller loaded",
      [("conn", conn.text), ("path", path.shown), ("symbol", symbol)]⟩
  | resolveFailed conn path symbol reason =>
    some ⟨.warn, .registry, "failed to get function: " ++ reason,
      [("conn", conn.text), ("path", path.shown), ("symbol", symbol)]⟩
  | resolvePanicked _ => none
  | closed _ path true =>
    some ⟨.trace, .platform, "closed shared library", [("path", path.shown)]⟩
  | closed _ _ false => none
  | closeComplained conn reason =>
    some ⟨.warn, .registry, "library close reported an error: " ++ reason, [("conn", conn.text)]⟩
  | copyDeleted _ _ => none
  | unloaded conn path =>
    some ⟨.info, .registry, "controller unloaded",
      [("conn", conn.text), ("path", path.shown)]⟩
  | shutDown released =>
    some ⟨.info, .registry, "registry shut down", [("released", toString released)]⟩
  | calling conn symbol =>
    some ⟨.trace, .dispatch, "calling controller", [("conn", conn.text), ("symbol", symbol)]⟩
  | payloadBefore conn report =>
    some ⟨.trace, .dispatch, "payload before call:\n" ++ report, [("conn", conn.text)]⟩
  | payloadAfter conn report =>
    some ⟨.trace, .dispatch, "payload after call:\n" ++ report, [("conn", conn.text)]⟩
  | unloadIgnored reason =>
    some ⟨.error, .hostInterface, "unload ignored: " ++ reason, []⟩
  | settingsRefused path reason =>
    some ⟨.error, .hostInterface,
      "failed to create registry from " ++ path ++ ": " ++ reason, []⟩

end Event

end ControllerHost
