import ControllerHost.Path

/-!
# Files

The file system is a table of directories and regular files, each under its location: the names
that lead to it from the root. A path is followed name by name from the root or from the working
directory; `.` stays, `..` goes back, and everything before the last name must be a directory.

Everything is permitted and there is always room: no operation fails for want of a permission, of
space or of free handles. Nor are there links.

- `FileSystem.lookup`: the location and node that a path leads to, or why it leads nowhere.
- `FileSystem.place`, `FileSystem.remove`: one entry more or less (`FileSystem.remove_place`).
- `FileSystem.write`, `FileSystem.createDirectories`, `FileSystem.list?`: what programs do with it.
-/

namespace ControllerHost

/-- Why an operation on a file fails. -/
inductive FileFault where
  /-- A name on the way is missing. -/
  | notFound
  /-- The name is taken. -/
  | alreadyExists
  /-- Something on the way is no directory. -/
  | notADirectory
  /-- The path leads to a directory. -/
  | isADirectory
  /-- A name has more than 255 bytes, or the path more than 4095. -/
  | nameTooLong
  /-- The path holds a NUL. -/
  | nulInPath
  /-- The path has no file name. -/
  | noFileName
  /-- The contents are no text. -/
  | notText
  /-- All the names that were tried for a temporary file are taken. -/
  | noFreeName
deriving DecidableEq, Repr

namespace FileFault

/-- The system's words for a fault. -/
def reason : FileFault → String
  | notFound => "No such file or directory"
  | alreadyExists => "File exists"
  | notADirectory => "Not a directory"
  | isADirectory => "Is a directory"
  | nameTooLong => "File name too long"
  | nulInPath => "file name contained an unexpected NUL byte"
  | noFileName => "path has no file name"
  | notText => "stream did not contain valid UTF-8"
  | noFreeName => "too many temporary files exist"

/-- The system's number for a fault, if it was the system that reported it. -/
def number? : FileFault → Option Nat
  | notFound => some 2
  | alreadyExists => some 17
  | notADirectory => some 20
  | isADirectory => some 21
  | nameTooLong => some 36
  | nulInPath | noFileName | notText | noFreeName => none

/-- The text of a fault. -/
def message (fault : FileFault) : String :=
  match fault.number? with
  | some number => s!"{fault.reason} (os error {number})"
  | none => fault.reason

end FileFault

/-- The names that lead from the root to a file or directory. -/
abbrev Location := List Bytes

/-- What stands at a location. -/
inductive Node where
  /-- A directory. -/
  | directory
  /-- A regular file with its contents. -/
  | file (content : Bytes)
deriving DecidableEq

/-- A file system with the working directory of the process that uses it. -/
structure FileSystem where
  /-- Everything below the root. -/
  entries : List (Location × Node) := []
  /-- Where relative paths begin. -/
  workDir : Location := []
deriving DecidableEq

namespace FileSystem

/-- The greatest number of bytes of a name. -/
def maxName : Nat := 255

/-- The number of bytes that a path must stay below. -/
def maxPath : Nat := 4096

/-- What stands at a location. -/
def node? (files : FileSystem) : Location → Option Node
  | [] => some .directory
  | location => files.entries.lookup location

/-- One step of following a path: from a directory along one piece. -/
def step (files : FileSystem) (location : Location) (piece : Bytes) : Except FileFault Location :=
  if files.node? location ≠ some .directory then .error .notADirectory
  else if piece = [Path.dot] then .ok location
  else if piece = [Path.dot, Path.dot] then .ok location.dropLast
  else if piece.length > maxName then .error .nameTooLong
  else if files.node? (location ++ [piece]) = none then .error .notFound
  else .ok (location ++ [piece])

/-- The location that several pieces lead to. -/
def walk (files : FileSystem) (location : Location) (pieces : List Bytes) :
    Except FileFault Location :=
  pieces.foldlM files.step location

/-- The pieces of a path that are followed. A trailing separator asks for a directory, as a single
dot does. -/
def pieces (path : Path) : List Bytes :=
  (Bytes.split Path.separator path.bytes).filter (· ≠ [])
    ++ if path.bytes.getLast? = some Path.separator then [[Path.dot]] else []

/-- Where following a path begins. -/
def origin (files : FileSystem) (path : Path) : Location :=
  if path.isAbsolute then [] else files.workDir

/-- What is wrong with a path before it is followed. -/
def pathFault? (path : Path) : Option FileFault :=
  if 0 ∈ path.bytes then some .nulInPath
  else if path.bytes = [] then some .notFound
  else if path.bytes.length ≥ maxPath then some .nameTooLong
  else none

/-- The location and the node that a path leads to. -/
def lookup (files : FileSystem) (path : Path) : Except FileFault (Location × Node) :=
  match pathFault? path with
  | some fault => .error fault
  | none => do
    let location ← files.walk (files.origin path) (pieces path)
    match files.node? location with
    | some node => .ok (location, node)
    | none => .error .notFound

/-- Whether a path leads to a regular file. -/
def isFile (files : FileSystem) (path : Path) : Bool :=
  match files.lookup path with
  | .ok (_, .file _) => true
  | _ => false

/-- Whether a path leads to a directory. -/
def isDirectory (files : FileSystem) (path : Path) : Bool :=
  match files.lookup path with
  | .ok (_, .directory) => true
  | _ => false

/-- Whether a path leads anywhere. -/
def exists? (files : FileSystem) (path : Path) : Bool := (files.lookup path).isOk

/-- The text of the file that a path leads to. -/
def readText (files : FileSystem) (path : Path) : Except FileFault String := do
  match ← files.lookup path with
  | (_, .directory) => .error .isADirectory
  | (_, .file content) =>
    match Bytes.text? content with
    | some text => .ok text
    | none => .error .notText

/-- The file system with one entry more. -/
def place (files : FileSystem) (location : Location) (node : Node) : FileSystem :=
  { files with entries := (location, node) :: files.entries }

/-- The file system without what stands at a location. -/
def remove (files : FileSystem) (location : Location) : FileSystem :=
  { files with entries := files.entries.filter fun entry => entry.1 ≠ location }

/-- Removing what is not there changes nothing. -/
theorem remove_of_node? {files : FileSystem} {location : Location}
    (hfree : files.node? location = none) : files.remove location = files := by
  -- the root is always there, so the location is looked for among the entries
  have hlookup : files.entries.lookup location = none := by
    cases location with
    | nil => cases hfree
    | cons piece rest => exact hfree
  have hkept : files.entries.filter (fun entry => decide (entry.1 ≠ location)) = files.entries := by
    rw [List.filter_eq_self]
    intro entry hentry
    have hne := List.lookup_eq_none_iff.1 hlookup entry hentry
    rw [bne_iff_ne] at hne
    exact decide_eq_true (Ne.symm hne)
  rw [remove, hkept]

/-- Removing what was just placed at a free location changes nothing. -/
theorem remove_place {files : FileSystem} {location : Location} (node : Node)
    (hfree : files.node? location = none) :
    (files.place location node).remove location = files := by
  have hplaced : (files.place location node).remove location = files.remove location := by
    simp [place, remove]
  rw [hplaced, remove_of_node? hfree]

/-- The directory of a path's last piece, and that piece: where a new entry would go. -/
def newEntry (files : FileSystem) (path : Path) (pieces : List Bytes) :
    Except FileFault (Location × Option Bytes) :=
  match pathFault? path with
  | some fault => .error fault
  | none => do
    let directory ← files.walk (files.origin path) pieces.dropLast
    if files.node? directory ≠ some .directory then .error .notADirectory
    else .ok (directory, pieces.getLast?)

/-- Whether a piece names nothing new: a dot or two dots. -/
def isDots (piece : Bytes) : Bool := piece = [Path.dot] || piece = [Path.dot, Path.dot]

/-- Writes a regular file, over the one that is there or as a new one. -/
def write (files : FileSystem) (path : Path) (content : Bytes) :
    Except FileFault FileSystem := do
  match ← files.newEntry path (pieces path) with
  | (_, none) => .error .isADirectory
  | (directory, some piece) =>
    if isDots piece then .error .isADirectory
    else if piece.length > maxName then .error .nameTooLong
    else
      let location := directory ++ [piece]
      match files.node? location with
      | some .directory => .error .isADirectory
      | some (.file _) => .ok ((files.remove location).place location (.file content))
      | none => .ok (files.place location (.file content))

/-- Creates a regular file where there is nothing yet, and says where. -/
def createNew (files : FileSystem) (path : Path) (content : Bytes) :
    Except FileFault (Location × FileSystem) := do
  match ← files.newEntry path (pieces path) with
  | (_, none) => .error .alreadyExists
  | (directory, some piece) =>
    if isDots piece then .error .alreadyExists
    else if piece.length > maxName then .error .nameTooLong
    else
      let location := directory ++ [piece]
      match files.node? location with
      | some _ => .error .alreadyExists
      | none => .ok (location, files.place location (.file content))

/-- Creates a directory. -/
def createDirectory (files : FileSystem) (path : Path) : Except FileFault FileSystem := do
  -- a separator at the end asks for a directory, and a directory is what is made
  let named := (Bytes.split Path.separator path.bytes).filter (· ≠ [])
  match ← files.newEntry path named with
  | (_, none) => .error .alreadyExists
  | (directory, some piece) =>
    if isDots piece then .error .alreadyExists
    else if piece.length > maxName then .error .nameTooLong
    else
      let location := directory ++ [piece]
      match files.node? location with
      | some _ => .error .alreadyExists
      | none => .ok (files.place location .directory)

/-- Creates a directory that may be there already. -/
def ensureDirectory (files : FileSystem) (path : Path) : Except FileFault FileSystem :=
  match files.createDirectory path with
  | .ok files => .ok files
  | .error fault => if files.isDirectory path then .ok files else .error fault

/-- Creates a directory together with the ones that lead to it, as far as they are missing. The
last argument bounds how many there can be. -/
def createDirectoriesFrom (files : FileSystem) (path : Path) : Nat → Except FileFault FileSystem
  | 0 => .error .notFound
  | depth + 1 =>
    if path.bytes = [] then .ok files
    else match files.createDirectory path with
      | .ok files => .ok files
      -- only a missing parent is worth another attempt
      | .error .notFound =>
        match path.parent? with
        | none => .error .notFound
        | some parent => do (← files.createDirectoriesFrom parent depth).ensureDirectory path
      | .error fault => if files.isDirectory path then .ok files else .error fault

/-- Creates a directory together with the ones that lead to it, as far as they are missing. -/
def createDirectories (files : FileSystem) (path : Path) : Except FileFault FileSystem :=
  files.createDirectoriesFrom path (path.components.length + 1)

/-- The names in a directory, if the path leads to one. -/
def list? (files : FileSystem) (path : Path) : Option (List Bytes) :=
  match files.lookup path with
  | .ok (location, .directory) =>
    some (files.entries.filterMap fun (entry, _) =>
      match entry.getLast? with
      | some name => if entry.dropLast = location then some name else none
      | none => none)
  | _ => none

/-- The path of a location from the root. -/
def absolute : Location → Path
  | [] => ⟨[Path.separator]⟩
  | location => ⟨location.flatMap fun name => Path.separator :: name⟩

end FileSystem

end ControllerHost
