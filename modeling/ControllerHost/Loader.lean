import ControllerHost.Controller.Routine
import ControllerHost.FileSystem

/-!
# Loaders

A loader opens controller libraries by path, finds entry points in them and closes them. The host
works with any loader. A loader keeps books about what is open, in whatever form, and can set up and
take down controllers' state; what it answers depends on its books and on the files, and not on what
controllers have made of their state.

- `Attempt`: what a loader's work comes to. It can give up altogether, which is not a failure that
  it reports.
- `Loader`: what a host asks of a loader.
-/

namespace ControllerHost

/-- What a loader's work comes to. -/
inductive Attempt (α : Type) where
  /-- It worked. -/
  | done (result : α)
  /-- It failed, for a reason. -/
  | failed (reason : String)
  /-- The loader gave up in the middle. -/
  | panicked (message : String)

/-- The result of an attempt that can only work or fail. -/
def Attempt.ofExcept {α : Type} : Except String α → Attempt α
  | .ok result => .done result
  | .error reason => .failed reason

/-- A loader with books of type `B`, over controllers that keep their state in `S`. Its open
libraries are values of `L`. -/
structure Loader (B S L : Type) where
  /-- Whether the loader's paths lead to files, which can be copied. -/
  isFileBacked : Bool
  /-- Whether the loader logs what it opens and closes. -/
  isLogged : Bool
  /-- Opens the library at a path. With the books comes what opening does to the state. -/
  openLibrary : FileSystem → B → Path → Attempt L × B × (S → S)
  /-- Finds an entry point in an open library. -/
  findRoutine : B → L → String → Attempt (Routine S)
  /-- Closes an open library, perhaps with a complaint. -/
  closeLibrary : B → L → Option String × B × (S → S)
  /-- Drops an open library that nobody closes. -/
  dropLibrary : B → L → B × (S → S)

end ControllerHost
