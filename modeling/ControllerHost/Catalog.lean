import ControllerHost.Loader

/-!
# Controllers linked into the host

A host can bring controllers of its own. They are listed in a catalog under a path that need not
lead anywhere, and under a symbol. The catalog's loader counts the libraries that are open.

- `Catalog.register`: lists a routine.
- `Catalog.find?`: what is listed under a path. Paths with the same components count as one.
- `Tally`: what the catalog's loader counts.
- `Catalog.loader`: the catalog as a loader, which can be made to misbehave (`Faults`).
-/

namespace ControllerHost

/-- The routines listed under one path, each with its symbol, the latest first. -/
abbrev Exports (S : Type) := List (String × Routine S)

/-- The routines linked into the host, which keep their state in `S`. -/
structure Catalog (S : Type) where
  /-- The listed paths with their routines. -/
  entries : List (Path × Exports S) := []

/-- What a catalog's loader counts. -/
structure Tally where
  /-- How many libraries are open. -/
  openHandles : Int := 0
  /-- How often a library has been opened. -/
  opens : Nat := 0
deriving DecidableEq

/-- One library more is open. -/
def Tally.openOne (tally : Tally) : Tally := ⟨tally.openHandles + 1, tally.opens + 1⟩

/-- One library fewer is open. -/
def Tally.closeOne (tally : Tally) : Tally := { tally with openHandles := tally.openHandles - 1 }

/-- How a catalog's loader misbehaves. -/
structure Faults where
  /-- With what words it gives up at a path, if it does. -/
  openPanic? : Path → Option String := fun _ => none
  /-- With what words it gives up at a symbol, if it does. -/
  resolvePanic? : String → Option String := fun _ => none
  /-- What it says about a library that it has closed. -/
  complaint? : Option String := none

namespace Catalog

variable {S : Type}

/-- The table of entries after a routine has been listed. -/
def registerIn (path : Path) (symbol : String) (routine : Routine S) :
    List (Path × Exports S) → List (Path × Exports S)
  | [] => [(path, [(symbol, routine)])]
  | (listed, exports) :: rest =>
    if listed.Same path then (listed, (symbol, routine) :: exports) :: rest
    else (listed, exports) :: registerIn path symbol routine rest

/-- The catalog with one routine more. -/
def register (catalog : Catalog S) (path : Path) (symbol : String) (routine : Routine S) :
    Catalog S :=
  ⟨registerIn path symbol routine catalog.entries⟩

/-- What is listed under a path. -/
def find? (catalog : Catalog S) (path : Path) : Option (Exports S) :=
  (catalog.entries.find? fun entry => entry.1.Same path).map Prod.snd

/-- Opens what is listed under a path. -/
def openListed (catalog : Catalog S) (tally : Tally) (path : Path) : Attempt (Exports S) × Tally :=
  match catalog.find? path with
  | none => (.failed (path.shown ++ ": no such library registered"), tally)
  | some exports => (.done exports, tally.openOne)

/-- The routine that is listed under a symbol. -/
def resolveListed (exports : Exports S) (symbol : String) : Except String (Routine S) :=
  match exports.lookup symbol with
  | some routine => .ok routine
  | none => .error ("undefined symbol: " ++ symbol)

/-- The catalog as a loader. An open library is what was listed when it was opened. -/
def loader (catalog : Catalog S) (faults : Faults := {}) : Loader Tally S (Exports S) where
  isFileBacked := false
  isLogged := false
  openLibrary _ tally path :=
    match faults.openPanic? path with
    | some message => (.panicked message, tally, id)
    | none =>
      let (attempt, tally) := catalog.openListed tally path
      (attempt, tally, id)
  findRoutine _ exports symbol :=
    match faults.resolvePanic? symbol with
    | some message => .panicked message
    | none => .ofExcept (resolveListed exports symbol)
  closeLibrary tally _ := (faults.complaint?, tally.closeOne, id)
  dropLibrary tally _ := (tally.closeOne, id)

end Catalog

end ControllerHost
