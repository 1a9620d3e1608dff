import ControllerHost.FileSystem
import ControllerHost.Text.Quoted

/-!
# Private copies of libraries

The platform opens one file once, so two connections that load one controller would share its
static state. A connection that loads a private copy has a state of its own. A copy is named after
its source and its connection, with six random characters that make the name new.

- `NamePart`, `NameSource`: six random characters, and where they come from.
- `PrivateCopy.nameOf`: the name of a copy.
- `PrivateCopy.create`, `PrivateCopy.delete`.
-/

namespace ControllerHost

/-- Whether a byte is a Latin letter or a digit. -/
def isAlphanumeric (byte : UInt8) : Bool :=
  (48 ≤ byte.toNat && byte.toNat ≤ 57) || (65 ≤ byte.toNat && byte.toNat ≤ 90)
    || (97 ≤ byte.toNat && byte.toNat ≤ 122)

/-- Six letters or digits. -/
structure NamePart where
  /-- The characters. -/
  bytes : Bytes
  /-- There are six of them. -/
  length_eq : bytes.length = 6
  /-- Each is a letter or a digit. -/
  alphanumeric : ∀ byte ∈ bytes, isAlphanumeric byte

/-- Where the random part of a name comes from: anything that avoids the parts that are taken, or
that gives up. -/
structure NameSource where
  /-- A part that is not taken. -/
  pick : (NamePart → Bool) → Option NamePart
  /-- No taken part is picked. -/
  pick_free : ∀ {taken part}, pick taken = some part → taken part = false

namespace NamePart

/-- The letter or digit with a number below 62: small letters, capitals, digits. -/
def letter (number : Nat) : UInt8 :=
  let digit := number % 62
  UInt8.ofNat (if digit < 26 then 97 + digit else if digit < 52 then 39 + digit else digit - 4)

/-- Every `letter` is a letter or a digit. -/
theorem isAlphanumeric_letter (number : Nat) : isAlphanumeric (letter number) := by
  have bound := Nat.mod_lt number (show 62 > 0 by decide)
  simp only [letter, isAlphanumeric, UInt8.toNat_ofNat']
  generalize number % 62 = digit at bound
  split
  · simp; omega
  · split
    · simp; omega
    · simp; omega

/-- The name part with a number, its last letter changing fastest. -/
def ofNat (number : Nat) : NamePart where
  bytes :=
    [letter (number / Nat.pow 62 5), letter (number / Nat.pow 62 4), letter (number / Nat.pow 62 3),
      letter (number / Nat.pow 62 2), letter (number / 62), letter number]
  length_eq := rfl
  alphanumeric := by simp [isAlphanumeric_letter]

end NamePart

namespace NameSource

/-- The first part that is not taken among `attempts` parts from a number on. -/
def search (taken : NamePart → Bool) (number : Nat) : Nat → Option NamePart
  | 0 => none
  | attempts + 1 =>
    if taken (NamePart.ofNat number) then search taken (number + 1) attempts
    else some (NamePart.ofNat number)

/-- What a search finds is not taken. -/
theorem taken_of_search {taken : NamePart → Bool} {number attempts : Nat} {part : NamePart}
    (found : search taken number attempts = some part) : taken part = false := by
  induction attempts generalizing number with
  | zero => simp [search] at found
  | succ attempts ih =>
    simp only [search] at found
    split at found
    · exact ih found
    · cases found
      simp_all

/-- The source that picks the first free part, in the order of their numbers. -/
def firstFree : NameSource where
  pick taken := search taken 0 0x10000
  pick_free := taken_of_search

end NameSource

/-- A private copy of a library. -/
structure PrivateCopy where
  /-- Its path from the root. -/
  path : Path
  /-- Where it is. -/
  location : Location
deriving DecidableEq

namespace PrivateCopy

/-- Why a copy cannot be made. -/
structure Failure where
  /-- What went wrong. -/
  fault : FileFault
  /-- The path of the copy, if it went wrong there. -/
  path? : Option Path
deriving DecidableEq

/-- The text of a failure. -/
def Failure.message (failure : Failure) : String :=
  match failure.path? with
  | none => failure.fault.message
  | some path => failure.fault.message ++ " at path " ++ Quoted.quote path.bytes

/-- A connection's number in at least three characters, its sign included. -/
def paddedNumber (connection : Int32) : String :=
  let digits := Nat.toDigits 10 connection.toInt.natAbs
  let sign := if connection.toInt < 0 then ['-'] else []
  String.ofList (sign ++ List.replicate (3 - sign.length - digits.length) '0' ++ digits)

/-- The name of a copy: the source's file name, the connection, the random part, and the source's
extension again, because a platform may refuse a library without it. -/
def nameOf (source : Path) (fileName : Bytes) (connection : Int32) (part : NamePart) : Bytes :=
  Bytes.ofText (Utf8.lossy fileName ++ "-" ++ paddedNumber connection ++ "-") ++ part.bytes
    ++ match source.extension? with
      | some extension => Bytes.ofText ("." ++ Utf8.lossy extension)
      | none => []

/-- Copies `source` into `directory`. Nothing is left behind when that fails. -/
def create (files : FileSystem) (names : NameSource) (source : Path) (connection : Int32)
    (directory : Path) : Except Failure (PrivateCopy × FileSystem) :=
  match source.fileName? with
  | none => .error ⟨.noFileName, none⟩
  | some fileName =>
    match files.lookup source with
    | .error fault => .error ⟨fault, none⟩
    | .ok (_, node) =>
      let base := (FileSystem.absolute files.workDir).join directory
      let pathOf (part : NamePart) : Path :=
        base.join ⟨nameOf source fileName connection part⟩
      match names.pick fun part => files.exists? (pathOf part) with
      | none => .error ⟨.noFreeName, some base⟩
      | some part =>
        let content := match node with
          | .file content => content
          | .directory => []
        match files.createNew (pathOf part) content with
        | .error fault => .error ⟨fault, some (pathOf part)⟩
        | .ok (location, files) =>
          -- a directory can be opened but not read, so its copy is made before that shows
          match node with
          | .directory => .error ⟨.isADirectory, none⟩
          | .file _ => .ok (⟨pathOf part, location⟩, files)

/-- Deletes a copy. -/
def delete (copy : PrivateCopy) (files : FileSystem) : FileSystem := files.remove copy.location

end PrivateCopy

end ControllerHost
