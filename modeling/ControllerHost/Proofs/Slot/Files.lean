import ControllerHost.Proofs.FileSystem.Copies
import ControllerHost.Proofs.Slot.Exits

/-!
# The files of a load

A load changes the files by the private copy that it leaves in its slot, and by nothing else. A copy
that was made for a load that fails is gone when the load is over.

- `Slot.held?`: the private copy that a slot holds.
- `PrivateCopy.delete_of_create`: deleting a copy undoes making it.
- `Slot.Attached.files`: the files that a load into an empty slot leaves.
- `Slot.Attached.loaded`: when a loaded controller comes from a private copy.
-/

namespace ControllerHost

variable {B S L : Type}

variable {loader : Loader B S L} {directory? : Option Path} {conn : ConnectionId}
  {request : LoadRequest} {world left : World B S}

/-- The private copy that a slot holds. -/
def Slot.held? : Slot S L → Option PrivateCopy
  | loaded controller => controller.copy?
  | empty | failed _ _ _ => none

theorem Slot.held?_eq_some {slot : Slot S L} {copy : PrivateCopy} :
    slot.held? = some copy ↔
      ∃ controller, slot = .loaded controller ∧ controller.copy? = some copy := by
  cases slot <;> simp [held?]

theorem Slot.loadedFrom?_info (slot : Slot S L) :
    slot.info.loadedFrom? = slot.held?.map PrivateCopy.path := by
  cases slot <;> rfl

/-- Deleting a private copy undoes making it. -/
theorem PrivateCopy.delete_of_create {files made : FileSystem} {names : NameSource}
    {source directory : Path} {connection : Int32} {copy : PrivateCopy}
    (hcreate : PrivateCopy.create files names source connection directory = .ok (copy, made)) :
    copy.delete made = files := by
  obtain ⟨found, content, -, hnew, rfl⟩ := PrivateCopy.create_ok hcreate
  have hfree : files.node? copy.location = none := by
    cases hnew
    assumption
  exact FileSystem.remove_place _ hfree

/-- The files once a private copy has been dealt with: as they were, but for the copy. -/
theorem Slot.Copied.files {copy? : Option PrivateCopy}
    (hcopy : Slot.Copied loader directory? conn request world (.ok copy?) left) :
    copy? = none ∧ left.files = world.files
      ∨ ∃ copy, copy? = some copy
        ∧ PrivateCopy.create world.files world.names request.path conn
          (directory?.getD world.tempDir) = .ok (copy, left.files) := by
  cases hcopy with
  | unasked hunasked => exact .inl ⟨rfl, rfl⟩
  | noFile hasked hfile => exact .inl ⟨rfl, rfl⟩
  | made hasked hfile hcreate => exact .inr ⟨_, rfl, hcreate⟩

theorem Slot.Copied.files_deleteFrom {copy? : Option PrivateCopy}
    (hcopy : Slot.Copied loader directory? conn request world (.ok copy?) left) :
    PrivateCopy.deleteFrom copy? left.files = world.files := by
  rcases hcopy.files with ⟨rfl, hfiles⟩ | ⟨copy, rfl, hcreate⟩
  · exact hfiles
  · exact PrivateCopy.delete_of_create hcreate

/-- There is a private copy exactly if one was asked for and there is a file to copy. -/
theorem Slot.Copied.isSome {copy? : Option PrivateCopy}
    (hcopy : Slot.Copied loader directory? conn request world (.ok copy?) left) :
    copy?.isSome ↔
      (request.isolate && loader.isFileBacked) = true ∧ world.files.isFile request.path = true := by
  cases hcopy with
  | unasked hunasked => simp [hunasked]
  | noFile hasked hfile => simp [hfile]
  | made hasked hfile hcreate => simp [hasked, hfile]

/-- A load into an empty slot leaves the files as they were, but for the private copy that it leaves
in the slot. -/
theorem Slot.Attached.files {outcome : LoadOutcome} {slot : Slot S L}
    (hexit : Slot.Attached loader directory? conn request world outcome slot left) :
    slot.held? = none ∧ left.files = world.files
      ∨ ∃ copy, slot.held? = some copy
        ∧ PrivateCopy.create world.files world.names request.path conn
          (directory?.getD world.tempDir) = .ok (copy, left.files) := by
  -- every exit but the last one deletes the copy that was made, or comes before it was made
  cases hexit with
  | notCopied hcopy =>
    cases hcopy with
    | refused hasked hfile hcreate => exact .inl ⟨rfl, rfl⟩
  | notOpened hcopy hopen | openPanicked hcopy hopen =>
    have hopened := Loader.files_of_open hopen
    exact .inl ⟨rfl, by simp [World.discard_eq, World.tell, hopened, hcopy.files_deleteFrom]⟩
  | notResolved hcopy hopen hresolve =>
    have hopened := Loader.files_of_open hopen
    refine .inl ⟨rfl, ?_⟩
    simp [World.discard_eq, Loader.close_eq, World.tell, hopened, hcopy.files_deleteFrom]
  | resolvePanicked hcopy hopen hresolve =>
    have hopened := Loader.files_of_open hopen
    refine .inl ⟨rfl, ?_⟩
    simp [World.discard_eq, Loader.drop, World.tell, hopened, hcopy.files_deleteFrom]
  | bound hcopy hopen hresolve =>
    have hopened := Loader.files_of_open hopen
    simpa [Slot.held?, World.tell, hopened] using hcopy.files

/-- Deleting the private copy that a load leaves in its slot undoes all that the load has done to
the files. -/
theorem Slot.Attached.files_deleteFrom {outcome : LoadOutcome} {slot : Slot S L}
    (hexit : Slot.Attached loader directory? conn request world outcome slot left) :
    PrivateCopy.deleteFrom slot.held? left.files = world.files := by
  rcases hexit.files with ⟨hheld, hfiles⟩ | ⟨copy, hheld, hcreate⟩
  · rw [hheld]
    exact hfiles
  · rw [hheld]
    exact PrivateCopy.delete_of_create hcreate

/-- A load that leaves no controller leaves the files as they were. -/
theorem Slot.Attached.files_of_not_loaded {outcome : LoadOutcome} {slot : Slot S L}
    (hexit : Slot.Attached loader directory? conn request world outcome slot left)
    (hslot : slot.isLoaded = false) : left.files = world.files := by
  have hfiles := hexit.files_deleteFrom
  cases slot with
  | loaded controller => cases hslot
  | empty => exact hfiles
  | failed path symbol reason => exact hfiles

/-- A controller that was loaded has the path that was asked for. It comes from a private copy
exactly if one was asked for and there was a file to copy. -/
theorem Slot.Attached.loaded {outcome : LoadOutcome} {controller : LoadedController S L}
    (hexit : Slot.Attached loader directory? conn request world outcome (.loaded controller) left) :
    controller.path = request.path
      ∧ (controller.copy?.isSome ↔ (request.isolate && loader.isFileBacked) = true
        ∧ world.files.isFile request.path = true) := by
  cases hexit with
  | bound hcopy hopen hresolve => exact ⟨rfl, hcopy.isSome⟩

/-- A load for which no private copy is made leaves none in its slot. -/
theorem Slot.Attached.held?_of_uncopied {outcome : LoadOutcome} {slot : Slot S L}
    (hexit : Slot.Attached loader directory? conn request world outcome slot left)
    (huncopied : (request.isolate && loader.isFileBacked) = true →
      world.files.isFile request.path = false) : slot.held? = none := by
  cases hheld : slot.held? with
  | none => rfl
  | some copy =>
    obtain ⟨controller, rfl, hcopy⟩ := Slot.held?_eq_some.1 hheld
    obtain ⟨hasked, hfile⟩ := hexit.loaded.2.1 (by simp [hcopy])
    cases (huncopied hasked).symm.trans hfile

theorem Slot.files_vacate (slot : Slot S L) :
    (slot.vacate loader conn world).files = PrivateCopy.deleteFrom slot.held? world.files := by
  cases slot with
  | empty => rfl
  | failed path symbol reason => rfl
  | loaded controller =>
    rw [vacate, LoadedController.release_eq]
    rfl

/-! ### The directory for temporary files -/

theorem Slot.tempDir_vacate (slot : Slot S L) :
    (slot.vacate loader conn world).tempDir = world.tempDir := by
  cases slot with
  | empty => rfl
  | failed path symbol reason => rfl
  | loaded controller => simp [vacate, LoadedController.release_eq, World.tell]

theorem Slot.Attached.tempDir {outcome : LoadOutcome} {slot : Slot S L}
    (hexit : Slot.Attached loader directory? conn request world outcome slot left) :
    left.tempDir = world.tempDir := by
  -- making the copy changes the files in the directory, and not which directory it is
  have hcopied {result : Except String (Option PrivateCopy)} {copied : World B S}
      (hcopy : Slot.Copied loader directory? conn request world result copied) :
      copied.tempDir = world.tempDir := by
    cases hcopy <;> rfl
  cases hexit with
  | notCopied hcopy => exact hcopied hcopy
  | notOpened hcopy hopen | openPanicked hcopy hopen =>
    simp [World.discard_eq, World.tell, Loader.tempDir_of_open hopen, hcopied hcopy]
  | notResolved hcopy hopen hresolve | resolvePanicked hcopy hopen hresolve =>
    simp [World.discard_eq, Loader.close_eq, Loader.drop, World.tell,
      Loader.tempDir_of_open hopen, hcopied hcopy]
  | bound hcopy hopen hresolve => simp [World.tell, Loader.tempDir_of_open hopen, hcopied hcopy]

end ControllerHost
