import ControllerHost.Event
import ControllerHost.Loader
import ControllerHost.PrivateCopy

/-!
# What the host acts on

Loading and calling controllers changes files, the books of the loader and the controllers' state.
The world holds all of that, together with the events so far.

- `World`, `World.tell`.
- `World.copyPrivately`, `World.discard`: private copies come and go.
- `Loader.open`, `Loader.resolve`, `Loader.close`, `Loader.drop`: a loader at work in a world.
- `Routine.call`: a controller at work in a world.
-/

namespace ControllerHost

/-- Everything that the host acts on, with a loader's books of type `B` and controllers' state of
type `S`. -/
structure World (B S : Type) where
  /-- The file system. -/
  files : FileSystem := {}
  /-- Where private copies go unless the settings say otherwise. -/
  tempDir : Path
  /-- Where the random parts of names come from. -/
  names : NameSource := NameSource.firstFree
  /-- What the loader keeps. -/
  books : B
  /-- What the controllers keep. -/
  state : S
  /-- What has happened, in order. -/
  events : List Event := []

variable {B S L : Type}

namespace World

/-- The world after one more event. -/
def tell (world : World B S) (event : Event) : World B S :=
  { world with events := world.events ++ [event] }

/-- The log records of what has happened. -/
def records (world : World B S) : List Log.Record := world.events.filterMap Event.record?

/-- The world with other books, and with the state that a loader's work leaves. -/
def settle (world : World B S) (books : B) (change : S → S) : World B S :=
  { world with books, state := change world.state }

/-- Makes a private copy of the file at `path` in `directory?`, or in the directory for temporary
files. -/
def copyPrivately (world : World B S) (conn : ConnectionId) (path : Path)
    (directory? : Option Path) : Except String PrivateCopy × World B S :=
  match PrivateCopy.create world.files world.names path conn (directory?.getD world.tempDir) with
  | .error failure =>
    (.error failure.message, world.tell (.copyFailed conn path failure.message))
  | .ok (copy, files) =>
    (.ok copy, { world with files }.tell (.copied conn path copy.path))

/-- Deletes a private copy, if there is one. -/
def discard (world : World B S) (conn : ConnectionId) : Option PrivateCopy → World B S
  | none => world
  | some copy =>
    { world with files := copy.delete world.files }.tell (.copyDeleted conn copy.path)

end World

namespace Loader

/-- Opens the library at a path. -/
def «open» (loader : Loader B S L) (world : World B S) (path : Path) : Attempt L × World B S :=
  let (attempt, books, change) := loader.openLibrary world.files world.books path
  (attempt, world.settle books change)

/-- Finds an entry point in an open library. -/
def resolve (loader : Loader B S L) (library : L) (symbol : String) (world : World B S) :
    Attempt (Routine S) :=
  loader.findRoutine world.books library symbol

/-- What a loader says about a library that it closes. -/
def complaint? (loader : Loader B S L) (library : L) (world : World B S) : Option String :=
  (loader.closeLibrary world.books library).1

/-- The world once a library is closed. -/
def shut (loader : Loader B S L) (library : L) (world : World B S) : World B S :=
  let (_, books, change) := loader.closeLibrary world.books library
  world.settle books change

/-- Closes the library that was opened at a path, and reports what the loader says about that. A
loader that complains about a library does not log that it has closed it. -/
def close (loader : Loader B S L) (conn : ConnectionId) (path : Path) (library : L)
    (world : World B S) : World B S :=
  match loader.complaint? library world with
  | none => (loader.shut library world).tell (.closed conn path loader.isLogged)
  | some reason =>
    ((loader.shut library world).tell (.closed conn path false)).tell (.closeComplained conn reason)

/-- The world once a library is dropped that nobody closes. -/
def abandon (loader : Loader B S L) (library : L) (world : World B S) : World B S :=
  let (books, change) := loader.dropLibrary world.books library
  world.settle books change

/-- Drops the library that was opened at a path. Nobody hears a complaint about that. -/
def drop (loader : Loader B S L) (conn : ConnectionId) (path : Path) (library : L)
    (world : World B S) : World B S :=
  (loader.abandon library world).tell (.closed conn path false)

end Loader

/-- Calls a controller. -/
def Routine.call (routine : Routine S) (buffers : CallBuffers) (world : World B S) :
    CallBuffers × World B S :=
  let (state, buffers) := routine.run world.state buffers
  (buffers, { world with state })

end ControllerHost
