import ControllerHost.Loader

/-!
# The platform's loader of shared libraries

The platform opens shared libraries by name, says what they export and closes them. Which names lead
to which libraries, and how libraries keep their static state, is up to the platform. The host adds
nothing but the form in which it passes names, and it takes no name without an address for an entry
point.

- `Platform`: what the host asks of a platform.
- `Platform.cString`: how a path or a symbol is handed to the platform.
- `Platform.loader`: the platform as a loader.
-/

namespace ControllerHost

/-- A platform with books of type `B`, whose open libraries are values of `L` and keep their static
state in `S`. -/
structure Platform (B S L : Type) where
  /-- Opens the library that a name stands for. With the books comes what opening does to the
  state. -/
  openLibrary : FileSystem → B → Bytes → Except String L × B × (S → S)
  /-- What an open library exports under a name: a routine, or no address at all. -/
  findSymbol : B → L → Bytes → Except String (Option (Routine S))
  /-- Closes an open library, perhaps with a complaint. -/
  closeLibrary : B → L → Option String × B × (S → S)

namespace Platform

variable {B S L : Type}

/-- The sign that begins what a platform replaces in a name. -/
def dollar : UInt8 := 0x24

/-- A byte string as the platform takes it: a single NUL may close it, and there can be no other. -/
def cString (bytes : Bytes) : Except String Bytes :=
  let body := if bytes.getLast? = some 0 then bytes.dropLast else bytes
  if 0 ∉ body then .ok body
  else if bytes.getLast? = some 0 then
    .error "could not create a C string from bytes with trailing null"
  else .error "could not create a C string from bytes"

/-- Opens the library at a path. -/
def openPath (platform : Platform B S L) (files : FileSystem) (books : B) (path : Path) :
    Except String L × B × (S → S) :=
  match cString path.bytes with
  | .error reason => (.error reason, books, id)
  | .ok name => platform.openLibrary files books name

/-- The routine that an open library exports under a symbol. -/
def resolve (platform : Platform B S L) (books : B) (library : L) (symbol : String) :
    Except String (Routine S) := do
  let name ← cString (Bytes.ofText symbol)
  match ← platform.findSymbol books library name with
  | some routine => .ok routine
  | none => .error s!"symbol {symbol} resolved to a null address"

/-- The platform as a loader. -/
def loader (platform : Platform B S L) : Loader B S L where
  isFileBacked := true
  isLogged := true
  openLibrary files books path :=
    let (result, left) := platform.openPath files books path
    (.ofExcept result, left)
  findRoutine books library symbol := .ofExcept (platform.resolve books library symbol)
  closeLibrary := platform.closeLibrary
  dropLibrary books library := (platform.closeLibrary books library).2

end Platform

end ControllerHost
