import ControllerHost.World

/-!
# Slots

Each connection has a slot. It is empty, holds a loaded controller, or remembers that the last
controller's entry point could not be found.

- `Slot`, `Slot.status`, `Slot.info`.
- `LoadedController.release`: closes the library before the private copy it came from is deleted.
- `Slot.vacate`: releases what a slot holds to make room.
- `Slot.attach`: copies, opens and resolves, and closes again what cannot be used.
-/

namespace ControllerHost

variable {B S L : Type}

/-- The path that a library is opened by: that of its private copy, or else the one that was asked
for. -/
def PrivateCopy.openPath (copy? : Option PrivateCopy) (path : Path) : Path :=
  (copy?.map PrivateCopy.path).getD path

/-- An open library with an entry point found in it. -/
structure LoadedController (S L : Type) where
  /-- The library. -/
  library : L
  /-- The entry point. -/
  routine : Routine S
  /-- The private copy that the library was opened from. -/
  copy? : Option PrivateCopy
  /-- The path that was asked for. -/
  path : Path
  /-- The entry point's name. -/
  symbol : String

/-- The path that the library was opened by. -/
def LoadedController.openPath (controller : LoadedController S L) : Path :=
  PrivateCopy.openPath controller.copy? controller.path

/-- What a connection holds. -/
inductive Slot (S L : Type) where
  /-- Nothing. -/
  | empty
  /-- A controller. -/
  | loaded (controller : LoadedController S L)
  /-- The memory of an entry point that could not be found. -/
  | failed (path : Path) (symbol reason : String)

/-- The three states of a slot. -/
inductive SlotStatus where
  /-- Nothing is loaded. -/
  | empty
  /-- A controller is loaded. -/
  | loaded
  /-- The last load found a library without the entry point. -/
  | failed
deriving DecidableEq, Repr

/-- The name of a state. -/
def SlotStatus.name : SlotStatus → String
  | empty => "Empty"
  | loaded => "Loaded"
  | failed => "Failed"

/-- What a host can learn about a connection. -/
structure SlotInfo where
  /-- The slot's state. -/
  status : SlotStatus
  /-- The path of the last load, unless the slot is empty. -/
  path? : Option Path := none
  /-- The entry point of the last load, unless the slot is empty. -/
  symbol? : Option String := none
  /-- The private copy that a loaded library was opened from. -/
  loadedFrom? : Option Path := none
  /-- Why the entry point could not be found. -/
  failure? : Option String := none
deriving DecidableEq

/-- What a load comes to. -/
inductive LoadResult where
  /-- The controller is loaded. -/
  | loaded
  /-- It is not, for a reason. -/
  | failed (error : LoadError)
  /-- The loader gave up in the middle. -/
  | panicked (message : String)
deriving DecidableEq

/-- The status of what a load comes to. A loader that gives up counts as an argument that is not
valid. -/
def LoadResult.status : LoadResult → Status
  | loaded => .ok
  | failed error => error.status
  | panicked _ => .invalidArgument

namespace Slot

/-- The state of a slot. -/
def status : Slot S L → SlotStatus
  | empty => .empty
  | loaded _ => .loaded
  | failed _ _ _ => .failed

/-- Whether a controller is loaded. -/
def isLoaded (slot : Slot S L) : Bool := slot.status = .loaded

/-- What a host can learn about a slot. -/
def info : Slot S L → SlotInfo
  | empty => { status := .empty }
  | loaded controller =>
    { status := .loaded, path? := some controller.path, symbol? := some controller.symbol,
      loadedFrom? := controller.copy?.map PrivateCopy.path }
  | failed path symbol reason =>
    { status := .failed, path? := some path, symbol? := some symbol, failure? := some reason }

end Slot

/-- Gives up a loaded controller: the library is closed first, and its private copy deleted after
that. -/
def LoadedController.release (controller : LoadedController S L) (loader : Loader B S L)
    (conn : ConnectionId) (world : World B S) : World B S :=
  ((loader.close conn controller.openPath controller.library world).discard conn
    controller.copy?).tell (.unloaded conn controller.path)

/-- A controller that a host asks for. -/
structure LoadRequest where
  /-- The library's path. -/
  path : Path
  /-- The entry point's name. -/
  symbol : String
  /-- Whether a private copy is to be loaded. -/
  isolate : Bool
deriving DecidableEq

namespace Slot

/-- Releases a loaded controller that another one is going to replace. -/
def vacate (slot : Slot S L) (loader : Loader B S L) (conn : ConnectionId) (world : World B S) :
    World B S :=
  match slot with
  | loaded controller =>
    controller.release loader conn (world.tell (.replacing conn controller.path))
  | _ => world

/-- Makes the private copy that a request asks for. What is no file is left to the loader. -/
def copy? (loader : Loader B S L) (directory? : Option Path) (conn : ConnectionId)
    (request : LoadRequest) (world : World B S) :
    Except String (Option PrivateCopy) × World B S :=
  if request.isolate && loader.isFileBacked then
    if world.files.isFile request.path then
      match world.copyPrivately conn request.path directory? with
      | (.error reason, world) => (.error reason, world)
      | (.ok copy, world) => (.ok (some copy), world)
    else (.ok none, world.tell (.notCopied conn request.path))
  else (.ok none, world)

/-- Finds the entry point in a library that has just been opened, and closes the library again if
there is none. -/
def bind (loader : Loader B S L) (conn : ConnectionId) (request : LoadRequest)
    (privateCopy? : Option PrivateCopy) (library : L) (world : World B S) :
    LoadResult × Slot S L × World B S :=
  let path := PrivateCopy.openPath privateCopy? request.path
  match loader.resolve library request.symbol world with
  | .done routine =>
    (.loaded, loaded ⟨library, routine, privateCopy?, request.path, request.symbol⟩,
      world.tell (.loaded conn request.path request.symbol))
  | .failed reason =>
    (.failed (.symbolNotFound request.path request.symbol reason),
      failed request.path request.symbol reason,
      (loader.close conn path library
        (world.tell (.resolveFailed conn request.path request.symbol reason))).discard conn
          privateCopy?)
  -- what is given up in the middle is only cleaned up
  | .panicked message =>
    (.panicked message, empty,
      (loader.drop conn path library (world.tell (.resolvePanicked conn))).discard conn
        privateCopy?)

/-- Loads a controller into an empty slot. -/
def attach (loader : Loader B S L) (directory? : Option Path) (conn : ConnectionId)
    (request : LoadRequest) (world : World B S) : LoadResult × Slot S L × World B S :=
  match copy? loader directory? conn request world with
  | (.error reason, world) => (.failed (.libraryNotFound request.path reason), empty, world)
  | (.ok privateCopy?, world) =>
    -- the loader opens the copy, while errors go on to name the path that was asked for
    let path := PrivateCopy.openPath privateCopy? request.path
    match loader.open world path with
    | (.done library, world) =>
      bind loader conn request privateCopy? library
        (world.tell (.opened conn path loader.isLogged))
    | (.failed reason, world) =>
      (.failed (.libraryNotFound request.path reason), empty,
        (world.tell (.openFailed conn request.path reason)).discard conn privateCopy?)
    | (.panicked message, world) =>
      (.panicked message, empty, (world.tell (.openPanicked conn)).discard conn privateCopy?)

/-- Loads a controller in the place of whatever a slot holds. -/
def load (slot : Slot S L) (loader : Loader B S L) (directory? : Option Path)
    (conn : ConnectionId) (request : LoadRequest) (world : World B S) :
    LoadResult × Slot S L × World B S :=
  attach loader directory? conn request (slot.vacate loader conn world)

/-- Gives up a loaded controller. The memory of a failed load stays. -/
def unload (slot : Slot S L) (loader : Loader B S L) (conn : ConnectionId) (world : World B S) :
    Slot S L × World B S :=
  match slot with
  | loaded controller => (empty, controller.release loader conn world)
  | other => (other, world)

end Slot

end ControllerHost
