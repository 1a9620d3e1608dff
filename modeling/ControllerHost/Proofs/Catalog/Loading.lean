import ControllerHost.Catalog
import ControllerHost.World

/-!
# What a catalog's loader does to a world

The loader of a catalog counts what it opens and closes. It touches neither the files nor the
controllers' state.

- `Catalog.open_of_panic`, `Catalog.open_of_none`, `Catalog.open_of_some`: opening.
- `Catalog.listed_of_done`, `Catalog.lookup_of_done`: what is opened and resolved was listed.
- `Catalog.left_of_done`, `Catalog.left_of_not_done`: what opening leaves.
- `Catalog.isFileBacked_loader`, `Catalog.isLogged_loader`: its paths lead to no files, and it logs
  nothing.
- `Catalog.resolve_loader`: looking for an entry point.
- `Catalog.abandon_loader`: libraries that are let go.
-/

namespace ControllerHost.Catalog

variable {S : Type} {catalog : Catalog S} (faults : Faults) {world : World Tally S} {path : Path}
  {exports : Exports S}

/-- At a path where the loader gives up, nothing happens. -/
theorem open_of_panic {message : String} (hpanic : faults.openPanic? path = some message) :
    (catalog.loader faults).open world path = (.panicked message, world) := by
  simp only [Loader.open, loader, hpanic]
  rfl

/-- What is not listed cannot be opened, and that changes nothing. -/
theorem open_of_none (hpanic : faults.openPanic? path = none) (hfind : catalog.find? path = none) :
    (catalog.loader faults).open world path =
      (.failed (path.shown ++ ": no such library registered"), world) := by
  simp only [Loader.open, loader, hpanic, openListed, hfind]
  rfl

/-- What is listed is opened and counted. -/
theorem open_of_some (hpanic : faults.openPanic? path = none)
    (hfind : catalog.find? path = some exports) :
    (catalog.loader faults).open world path =
      (.done exports, { world with books := world.books.openOne }) := by
  simp only [Loader.open, loader, hpanic, openListed, hfind]
  rfl

/-- What is opened was listed under the path. It is counted, and nothing else happens to the
world. -/
theorem listed_of_done {left : World Tally S}
    (hopen : (catalog.loader faults).open world path = (.done exports, left)) :
    catalog.find? path = some exports ∧ left = { world with books := world.books.openOne } := by
  cases hpanic : faults.openPanic? path with
  | some message =>
    rw [open_of_panic faults hpanic] at hopen
    cases hopen
  | none =>
    cases hfind : catalog.find? path with
    | none =>
      rw [open_of_none faults hpanic hfind] at hopen
      cases hopen
    | some found =>
      rw [open_of_some faults hpanic hfind] at hopen
      cases hopen
      exact ⟨rfl, rfl⟩

/-- A library that is opened is counted, and nothing else happens to the world. -/
theorem left_of_done {left : World Tally S}
    (hopen : (catalog.loader faults).open world path = (.done exports, left)) :
    left = { world with books := world.books.openOne } :=
  (listed_of_done faults hopen).2

/-- Where nothing is opened, nothing happens to the world. -/
theorem left_of_not_done {attempt : Attempt (Exports S)} {left : World Tally S}
    (hopen : (catalog.loader faults).open world path = (attempt, left))
    (hattempt : ∀ exports, attempt ≠ .done exports) : left = world := by
  cases hpanic : faults.openPanic? path with
  | some message =>
    rw [open_of_panic faults hpanic] at hopen
    exact (congrArg Prod.snd hopen).symm
  | none =>
    cases hfind : catalog.find? path with
    | none =>
      rw [open_of_none faults hpanic hfind] at hopen
      exact (congrArg Prod.snd hopen).symm
    | some found =>
      rw [open_of_some faults hpanic hfind] at hopen
      exact absurd (congrArg Prod.fst hopen).symm (hattempt found)

/-- An entry point is found if it was listed and the loader does not give up at its name. -/
theorem resolve_loader (exports : Exports S) (symbol : String) (world : World Tally S) :
    (catalog.loader faults).resolve exports symbol world =
      match faults.resolvePanic? symbol with
      | some message => .panicked message
      | none => .ofExcept (resolveListed exports symbol) := rfl

/-- The entry point that is found was listed under the symbol. -/
theorem lookup_of_done {symbol : String} {routine : Routine S}
    (hresolve : (catalog.loader faults).resolve exports symbol world = .done routine) :
    exports.lookup symbol = some routine := by
  rw [resolve_loader] at hresolve
  cases hpanic : faults.resolvePanic? symbol with
  | some message => simp [hpanic] at hresolve
  | none =>
    cases hfound : exports.lookup symbol with
    | none => simp [hpanic, resolveListed, hfound, Attempt.ofExcept] at hresolve
    | some found => simpa [hpanic, resolveListed, hfound, Attempt.ofExcept] using hresolve

@[simp]
theorem isFileBacked_loader : (catalog.loader faults).isFileBacked = false := rfl

@[simp]
theorem isLogged_loader : (catalog.loader faults).isLogged = false := rfl

@[simp]
theorem abandon_loader (exports : Exports S) (world : World Tally S) :
    (catalog.loader faults).abandon exports world = { world with books := world.books.closeOne } :=
  rfl

end ControllerHost.Catalog
