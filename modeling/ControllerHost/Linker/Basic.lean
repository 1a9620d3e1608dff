import ControllerHost.Platform
import ControllerHost.PrivateCopy

/-!
# A dynamic linker

The platform that the program runs on. A name with a separator leads to a file, and one without it
to an open library that goes by that name or to a library of the system. The same file opened twice
is one instance with one static state and one name, that of the first handle, both discarded with
the last handle. What a library needs must be there for it to be opened, and is not followed any
further.

- `SharedLibrary`: what the contents of a library file say.
- `Linker`: what sets one linker apart from another.
- `Linker.expand`: names with tokens that stand for directories.
- `Linker.openLibrary`, `Linker.findSymbol`, `Linker.closeLibrary`, put together in
  `Linker.platform`.
-/

namespace ControllerHost

/-- A shared library with static state of type `σ`, as the contents of its file describe it. -/
structure SharedLibrary (σ : Type) where
  /-- The name that other libraries know it by. -/
  soname? : Option Bytes := none
  /-- The names of the libraries that it needs. -/
  needs : List Bytes := []
  /-- Directories in which what it needs may be. -/
  runPath : List Bytes := []
  /-- Its static state before the first call. -/
  initial : σ
  /-- What it exports under a name: a routine, or no address at all. -/
  export? : Bytes → Option (Option (Routine σ)) := fun _ => none

/-- A dynamic linker. -/
structure Linker (σ : Type) where
  /-- What it makes of the contents of a file: a library, or what is wrong with them. -/
  read : Bytes → Except String (SharedLibrary σ)
  /-- The libraries of the system, by name. -/
  system : Bytes → Option (SharedLibrary σ) := fun _ => none
  /-- The program that runs, as a library. -/
  program : SharedLibrary σ
  /-- What the tokens in names stand for. -/
  tokens : List (Bytes × Bytes) := []

namespace Linker

variable {σ : Type}

/-- Where a library comes from. -/
inductive Place where
  /-- A file. -/
  | file (location : Location)
  /-- The system, under a name. -/
  | system (name : Bytes)
  /-- The program that runs. -/
  | program
deriving DecidableEq

/-- A library that is open. -/
structure Mapping (σ : Type) where
  /-- How many handles on it there are. -/
  handles : Nat
  /-- The name that it was first opened by. -/
  name : Bytes
  /-- What it is. -/
  library : SharedLibrary σ

/-- A handle on an open library. -/
structure Handle (σ : Type) where
  /-- Where the library comes from. -/
  place : Place
  /-- The name that it was first opened by. -/
  name : Bytes
  /-- What it is. -/
  library : SharedLibrary σ

/-- What is open, and from where. -/
abbrev Books (σ : Type) := List (Place × Mapping σ)

/-- The static state of the libraries, by where they come from. -/
abbrev State (σ : Type) := Place → σ

namespace Books

/-- The library that is open from a place, if there is a handle on it. -/
def at? (books : Books σ) (place : Place) : Option (Mapping σ) :=
  (books.lookup place).filter (·.handles ≠ 0)

/-- The same books but for one place. Without handles there is nothing open. -/
def put (books : Books σ) (place : Place) (mapping : Mapping σ) : Books σ :=
  let others := books.filter fun entry => entry.1 ≠ place
  if mapping.handles = 0 then others else (place, mapping) :: others

/-- The open library that other libraries know by a name. -/
def named? (books : Books σ) (name : Bytes) : Option (Place × Mapping σ) :=
  books.findSome? fun (place, _) =>
    ((books.at? place).filter (·.library.soname? = some name)).map fun mapping => (place, mapping)

end Books

/-- Whether a byte can be part of a token's name. -/
def isNamePart (byte : UInt8) : Bool := isAlphanumeric byte || byte = 0x5F

/-- What follows a token's name, with or without braces, in a text that begins with it. -/
def afterToken? (name text : Bytes) : Option Bytes :=
  match text with
  | 0x7B :: inner =>
    if inner.take (name.length + 1) = name ++ [0x7D] then some (inner.drop (name.length + 1))
    else none
  | _ =>
    if text.take name.length = name
        ∧ ((text.drop name.length).head?.map isNamePart) ≠ some true then
      some (text.drop name.length)
    else none

/-- A text with what its tokens stand for. The first argument bounds its length. -/
def expandFrom (tokens : List (Bytes × Bytes)) : Nat → Bytes → Bytes
  | 0, text => text
  | _, [] => []
  | length + 1, byte :: rest =>
    let token? := if byte = Platform.dollar then
        tokens.findSome? fun (name, value) => (afterToken? name rest).map fun rest => (value, rest)
      else none
    match token? with
    | some (value, rest) => value ++ expandFrom tokens length rest
    | none => byte :: expandFrom tokens length rest

/-- A text with what its tokens stand for. -/
def expand (tokens : List (Bytes × Bytes)) (text : Bytes) : Bytes :=
  expandFrom tokens text.length text

/-- The linker's words when there is no file to open. -/
def cannotOpen (name : Bytes) (reason : String) : String :=
  Utf8.lossy name ++ ": cannot open shared object file: " ++ reason

/-- The directory that a library is in, given the name that it is opened by. -/
def directory (files : FileSystem) (name : Bytes) : Bytes :=
  let path := (FileSystem.absolute files.workDir).join ⟨name⟩
  (path.parent?.getD path).bytes

/-- Whether a library is there that another one needs. -/
def provides (linker : Linker σ) (files : FileSystem) (books : Books σ) (runPath : List Bytes)
    (name : Bytes) : Bool :=
  (books.named? name).isSome || (linker.system name).isSome
    || runPath.any fun directory => files.isFile (Path.join ⟨directory⟩ ⟨name⟩)

/-- The first library that is needed and not there. -/
def missing? (linker : Linker σ) (files : FileSystem) (books : Books σ) (name : Bytes)
    (library : SharedLibrary σ) : Option Bytes :=
  let tokens := (Bytes.ofText "ORIGIN", directory files name) :: linker.tokens
  let runPath := library.runPath.map (expand tokens)
  library.needs.find? fun need => !linker.provides files books runPath need

/-- The library at a place, for a name: what is open from there already, or else what the linker
reads there. -/
def mapping (linker : Linker σ) (files : FileSystem) (books : Books σ) (name : Bytes)
    (place : Place) (read : Except String (SharedLibrary σ)) : Except String (Mapping σ) :=
  match books.at? place with
  | some mapping => .ok mapping
  | none =>
    match read with
    | .error reason => .error (Utf8.lossy name ++ ": " ++ reason)
    | .ok library =>
      match linker.missing? files books name library with
      | some need => .error (cannotOpen need FileFault.notFound.reason)
      | none => .ok ⟨0, name, library⟩

/-- Where a name leads, and what is open from there or would be. -/
def find (linker : Linker σ) (files : FileSystem) (books : Books σ) (name : Bytes) :
    Except String (Place × Mapping σ) :=
  if name = [] then
    (linker.mapping files books name .program (.ok linker.program)).map fun mapping =>
      (.program, mapping)
  -- a name without a separator is no path, not even one from the working directory
  else if Path.separator ∉ name then
    match books.named? name, linker.system name with
    | some found, _ => .ok found
    | none, some library =>
      (linker.mapping files books name (.system name) (.ok library)).map fun mapping =>
        (.system name, mapping)
    | none, none =>
      .error (cannotOpen name (if name.length > FileSystem.maxName then
        FileFault.nameTooLong.reason else FileFault.notFound.reason))
  else match files.lookup ⟨expand linker.tokens name⟩ with
    | .error fault => .error (cannotOpen name fault.reason)
    | .ok (_, .directory) =>
      .error (Utf8.lossy name ++ ": cannot read file data: " ++ FileFault.isADirectory.reason)
    | .ok (location, .file content) =>
      (linker.mapping files books name (.file location) (linker.read content)).map fun mapping =>
        (.file location, mapping)

/-- The same state but for one place. -/
def State.put (state : State σ) (place : Place) (own : σ) : State σ :=
  fun other => if other = place then own else state other

/-- Opens the library that a name stands for. The first handle on it sets up its state. -/
def openLibrary (linker : Linker σ) (files : FileSystem) (books : Books σ) (name : Bytes) :
    Except String (Handle σ) × Books σ × (State σ → State σ) :=
  match linker.find files books name with
  | .error reason => (.error reason, books, id)
  | .ok (place, mapping) =>
    (.ok ⟨place, mapping.name, mapping.library⟩,
      books.put place { mapping with handles := mapping.handles + 1 },
      if (books.at? place).isSome then id else fun state => state.put place mapping.library.initial)

/-- A routine of the library from a place, which runs on the state there. -/
def routineAt (place : Place) (routine : Routine σ) : Routine (State σ) where
  run state buffers :=
    let (own, buffers) := routine.run (state place) buffers
    (state.put place own, buffers)
  keepsLengths state buffers := routine.keepsLengths (state place) buffers

/-- What an open library exports under a name. -/
def findSymbol (handle : Handle σ) (name : Bytes) : Except String (Option (Routine (State σ))) :=
  match handle.library.export? name with
  | some routine? => .ok (routine?.map (routineAt handle.place))
  | none => .error (Utf8.lossy handle.name ++ ": undefined symbol: " ++ Utf8.lossy name)

/-- Closes an open library. -/
def closeLibrary (books : Books σ) (handle : Handle σ) :
    Option String × Books σ × (State σ → State σ) :=
  match books.at? handle.place with
  | none => (none, books, id)
  | some mapping =>
    (none, books.put handle.place { mapping with handles := mapping.handles - 1 }, id)

/-- The linker as a platform. -/
def platform (linker : Linker σ) : Platform (Books σ) (State σ) (Handle σ) where
  openLibrary := linker.openLibrary
  findSymbol _ := findSymbol
  closeLibrary := closeLibrary

end Linker

end ControllerHost
