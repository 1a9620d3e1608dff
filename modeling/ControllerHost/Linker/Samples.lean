import ControllerHost.Controller.Samples
import ControllerHost.Linker.Basic
import ControllerHost.World

/-!
# Small linkers

Linkers to try things out with. Their libraries are told by the text in the files, and keep a
number.

- `Linker.counting`: a library whose controller counts its calls.
- `Linker.sample`: a linker, on a system with one library.
- `Linker.entwined`: a linker with a library that needs another one.
- `Linker.pooled`: the linker as a platform that has one static state for all libraries.
- `Linker.bare`: worlds in which nothing is open.
-/

namespace ControllerHost.Linker

/-- What exports one routine, under one name. -/
def exporting {σ : Type} (symbol : String) (routine : Routine σ) (name : Bytes) :
    Option (Option (Routine σ)) :=
  if name = Bytes.ofText symbol then some (some routine) else none

/-- A library whose controller counts its calls. -/
def counting : SharedLibrary Nat where
  initial := 0
  export? := exporting "DISCON" .tally

/-- A linker for which a file is a library if a certain text is in it, on a system that has one
library. -/
def sample : Linker Nat where
  read content :=
    if content = Bytes.ofText "counting" then .ok counting else .error "file too short"
  system name :=
    if name = Bytes.ofText "libm.so.6" then
      some { initial := 0, export? := exporting "cos" (.mark 1) }
    else none
  program := { initial := 0 }

/-- A linker for which the text "helper" is a library that goes by a name, and "user" one that needs
it and has it looked for in its own directory. A name may also say where the libraries are. -/
def entwined : Linker Nat where
  read content :=
    if content = Bytes.ofText "helper" then
      .ok { counting with soname? := some (Bytes.ofText "libhelper.so") }
    else if content = Bytes.ofText "user" then
      .ok { counting with
        needs := [Bytes.ofText "libhelper.so"]
        runPath := [Bytes.ofText "$ORIGIN"] }
    else .error "file too short"
  program := { initial := 0 }
  tokens := [(Bytes.ofText "LIB", Bytes.ofText "lib")]

/-- The linker as a platform for which the libraries have one static state among them, as it is when
they define it as unique in the process. No handle sets it up anew. -/
def pooled {σ : Type} (linker : Linker σ) : Platform (Books σ) σ (Handle σ) where
  openLibrary files books name :=
    let (result, books, _) := linker.openLibrary files books name
    (result, books, id)
  findSymbol _ handle name :=
    match handle.library.export? name with
    | some routine? => .ok routine?
    | none => .error (Utf8.lossy handle.name ++ ": undefined symbol: " ++ Utf8.lossy name)
  closeLibrary books handle :=
    let (complaint?, books, _) := closeLibrary books handle
    (complaint?, books, id)

/-- A world in which nothing is open, with some directories in the root, and with files that are
given by the names on the way to them and their texts. -/
def bare {S : Type} (state : S) (directories : List String) (files : List (List String × String)) :
    World (Books Nat) S where
  files :=
    { entries := directories.map (fun name => ([Bytes.ofText name], .directory)) ++
        files.map fun (names, text) => (names.map Bytes.ofText, .file (Bytes.ofText text)) }
  tempDir := .ofText "/tmp"
  books := []
  state := state

end ControllerHost.Linker
