import ControllerHost.Proofs.Slot.Exits

/-!
# What a load comes to

Once a private copy has been dealt with, what a load comes to and leaves in its slot depends on what
the loader makes of the path that is opened, and on nothing else.

- `Slot.settled`: the result and the slot, given what comes of opening the library.
- `Slot.attach_of_copied`: every load comes to that once its private copy has been dealt with.
- `Slot.attach_of_uncopied`, `Slot.attach_of_create`, `Slot.attach_of_refused`: loads without a
  copy, with one, and with one that cannot be made.
-/

namespace ControllerHost

variable {B S L : Type}

namespace Slot

variable {loader : Loader B S L} {directory? : Option Path} {conn : ConnectionId}
  {request : LoadRequest} {world : World B S}

/-- What a load comes to and leaves in its slot, given what comes of opening its library. -/
def settled (loader : Loader B S L) (request : LoadRequest) (copy? : Option PrivateCopy)
    (opened : Attempt L × B × (S → S)) : LoadResult × Slot S L :=
  match opened with
  | (.failed reason, _) => (.failed (.libraryNotFound request.path reason), .empty)
  | (.panicked message, _) => (.panicked message, .empty)
  | (.done library, books, _) =>
    match loader.findRoutine books library request.symbol with
    | .done routine => (.loaded, .loaded ⟨library, routine, copy?, request.path, request.symbol⟩)
    | .failed reason =>
      (.failed (.symbolNotFound request.path request.symbol reason),
        .failed request.path request.symbol reason)
    | .panicked message => (.panicked message, .empty)

/-- What becomes of a load once its private copy has been dealt with. -/
theorem attach_of_copied {copy? : Option PrivateCopy} {copied : World B S}
    (hcopy : Slot.copy? loader directory? conn request world = (.ok copy?, copied)) :
    ((attach loader directory? conn request world).1,
        (attach loader directory? conn request world).2.1) =
      settled loader request copy?
        (loader.openLibrary copied.files copied.books (request.openPath copy?)) := by
  have hopen : loader.open copied (request.openPath copy?) =
      let opened := loader.openLibrary copied.files copied.books (request.openPath copy?)
      (opened.1, copied.settle opened.2.1 opened.2.2) := rfl
  generalize loader.openLibrary copied.files copied.books (request.openPath copy?) = opened
    at hopen ⊢
  obtain ⟨attempt, books, change⟩ := opened
  simp only [attach, hcopy, hopen]
  cases attempt with
  | failed reason => rfl
  | panicked message => rfl
  | done library =>
    simp only [bind, Loader.resolve, World.tell, World.settle, settled]
    cases loader.findRoutine books library request.symbol <;> rfl

/-- What becomes of a load for which no private copy is made: none is asked for, or there is no file
to copy. -/
theorem attach_of_uncopied
    (huncopied : (request.isolate && loader.isFileBacked) = true →
      world.files.isFile request.path = false) :
    ((attach loader directory? conn request world).1,
        (attach loader directory? conn request world).2.1) =
      settled loader request none
        (loader.openLibrary world.files world.books request.path) := by
  have hcopy : ∃ copied, Slot.copy? loader directory? conn request world = (.ok none, copied)
      ∧ copied.files = world.files ∧ copied.books = world.books := by
    unfold copy?
    cases hasked : request.isolate && loader.isFileBacked with
    | false => exact ⟨world, rfl, rfl, rfl⟩
    | true =>
      simp only [if_true, huncopied hasked]
      exact ⟨_, rfl, rfl, rfl⟩
  obtain ⟨copied, hcopy, hfiles, hbooks⟩ := hcopy
  rw [attach_of_copied hcopy, hfiles, hbooks]
  rfl

/-- What becomes of a load when its private copy has been made. -/
theorem attach_of_create (hasked : (request.isolate && loader.isFileBacked) = true)
    (hfile : world.files.isFile request.path = true) {copy : PrivateCopy} {files : FileSystem}
    (hcreate : PrivateCopy.create world.files world.names request.path conn
      (directory?.getD world.tempDir) = .ok (copy, files)) :
    ((attach loader directory? conn request world).1,
        (attach loader directory? conn request world).2.1) =
      settled loader request (some copy) (loader.openLibrary files world.books copy.path) := by
  have hcopy : Slot.copy? loader directory? conn request world =
      (.ok (some copy), { world with files }.tell (.copied conn request.path copy.path)) := by
    simp [copy?, hasked, hfile, World.copyPrivately, hcreate]
  exact attach_of_copied hcopy

/-- What becomes of a load when its private copy cannot be made. -/
theorem attach_of_refused (hasked : (request.isolate && loader.isFileBacked) = true)
    (hfile : world.files.isFile request.path = true) {failure : PrivateCopy.Failure}
    (hcreate : PrivateCopy.create world.files world.names request.path conn
      (directory?.getD world.tempDir) = .error failure) :
    ((attach loader directory? conn request world).1,
        (attach loader directory? conn request world).2.1) =
      (.failed (.libraryNotFound request.path failure.message), .empty) := by
  simp [attach, copy?, hasked, hfile, World.copyPrivately, hcreate]

end Slot

end ControllerHost
