import ControllerHost.Proofs.Platform.Instances
import ControllerHost.Proofs.Slot.Files

/-!
# Libraries that share a file

All handles on one file share its static state. It begins with the first of them and ends with the
last. This file follows the state of one file, with the number of handles on it, through what
releasing and loading controllers does to it.

- `Slot.holds`: whether a slot's library is an instance of the file.
- `LoadedController.IsInPlace`, `Slot.IsInPlace`: a library that was opened by the path that was
  asked for, with the entry point that was found in it.
- `Slot.IsInPlace.vacate`, `Slot.IsInPlace.unload`, `Slot.Attached.keeps`: what releasing and
  loading controllers do to the file.
-/

namespace ControllerHost

variable {B S L File State : Type} {platform : Platform B S L}

/-- A controller's library was opened without a private copy, by the path that was asked for, and
the entry point was found in it. -/
structure LoadedController.IsInPlace (controller : LoadedController S L)
    (platform : Platform B S L) (files : FileSystem) : Prop where
  /-- The library. -/
  library : ∃ name books left change, Platform.cString controller.path.bytes = .ok name
    ∧ platform.openLibrary files books name = (.ok controller.library, left, change)
  /-- The entry point. -/
  routine : ∃ name books,
    platform.findSymbol books controller.library name = .ok (some controller.routine)
  /-- There is no private copy. -/
  copy : controller.copy? = none

namespace Slot

/-- What a slot holds was opened by the path that was asked for. -/
def IsInPlace (slot : Slot S L) (platform : Platform B S L) (files : FileSystem) : Prop :=
  ∀ controller, slot = .loaded controller → controller.IsInPlace platform files

theorem isInPlace_of_not_loaded {slot : Slot S L} (hslot : slot.isLoaded = false)
    (platform : Platform B S L) (files : FileSystem) : slot.IsInPlace platform files := by
  rintro controller rfl
  cases hslot

/-- Whether a slot holds a controller whose library is an instance of a file. -/
def holds [DecidableEq File] (instances : platform.Instances File State) (file : File) :
    Slot S L → Bool
  | loaded controller => instances.file controller.library = file
  | empty | failed _ _ _ => false

theorem holds_of_not_loaded [DecidableEq File] {slot : Slot S L} (hslot : slot.isLoaded = false)
    (instances : platform.Instances File State) (file : File) :
    slot.holds instances file = false := by
  cases slot with
  | empty | failed => rfl
  | loaded controller => cases hslot

end Slot

section Loads

variable [DecidableEq File] {instances : platform.Instances File State}
  {directory? : Option Path} {conn : ConnectionId} {request : LoadRequest}
  {world left : World B S} {file : File} {handles : Nat} {own : State}

theorem LoadedController.countOn_library (controller : LoadedController S L) :
    instances.countOn controller.library file =
      ((Slot.loaded controller).holds instances file).toNat := by
  simp only [Platform.Instances.countOn, Slot.holds]
  split <;> simp [*]

variable (hself : ∀ library, instances.selfContained library)

section

include hself

/-- Releasing a controller takes its handle from the file that it was opened from. -/
theorem LoadedController.IsInPlace.release {controller : LoadedController S L}
    {files : FileSystem} (hplace : controller.IsInPlace platform files)
    (hheld : instances.handles world.books (instances.file controller.library) ≠ 0)
    (hkeeps : instances.Keeps world file
      (handles + ((Slot.loaded controller).holds instances file).toNat) own) :
    (controller.release platform.loader conn world).files = world.files
      ∧ instances.Keeps (controller.release platform.loader conn world) file handles own := by
  rw [LoadedController.release_eq, hplace.copy]
  rw [← controller.countOn_library] at hkeeps
  exact ⟨rfl, hkeeps.shut (hself _) hheld⟩

/-- Making room takes the handle of what the slot holds. -/
theorem Slot.IsInPlace.vacate {slot : Slot S L} {files : FileSystem}
    (hplace : slot.IsInPlace platform files)
    (hheld : ∀ controller, slot = .loaded controller →
      instances.handles world.books (instances.file controller.library) ≠ 0)
    (hkeeps : instances.Keeps world file (handles + (slot.holds instances file).toNat) own)
    (conn : ConnectionId) :
    (slot.vacate platform.loader conn world).files = world.files
      ∧ instances.Keeps (slot.vacate platform.loader conn world) file handles own := by
  cases slot with
  | empty | failed => exact ⟨rfl, hkeeps⟩
  | loaded controller =>
    -- what is said before the release does not concern the file
    have hsaid : instances.Keeps (world.tell (.replacing conn controller.path)) file
        (handles + ((Slot.loaded controller).holds instances file).toNat) own := hkeeps
    exact (hplace controller rfl).release hself (hheld controller rfl) hsaid

/-- Unloading takes the handle of what the slot holds. -/
theorem Slot.IsInPlace.unload {slot : Slot S L} {files : FileSystem}
    (hplace : slot.IsInPlace platform files)
    (hheld : ∀ controller, slot = .loaded controller →
      instances.handles world.books (instances.file controller.library) ≠ 0)
    (hkeeps : instances.Keeps world file (handles + (slot.holds instances file).toNat) own)
    (conn : ConnectionId) :
    (slot.unload platform.loader conn world).2.files = world.files
      ∧ instances.Keeps (slot.unload platform.loader conn world).2 file handles own := by
  cases slot with
  | empty | failed => exact ⟨rfl, hkeeps⟩
  | loaded controller => exact (hplace controller rfl).release hself (hheld controller rfl) hkeeps

/-- A load without a private copy adds the handle of what it leaves in the slot. What it opens and
cannot use has its handle taken again, and the file is left as it was. -/
theorem Slot.Attached.keeps {outcome : LoadOutcome} {slot : Slot S L}
    (hexit : Slot.Attached platform.loader directory? conn request world outcome slot left)
    (hisolate : request.isolate = false) (hkeeps : instances.Keeps world file handles own)
    (hstart : handles = 0 → own = instances.initial world.files file) :
    left.files = world.files ∧ slot.IsInPlace platform world.files
      ∧ instances.Keeps left file (handles + (slot.holds instances file).toNat) own := by
  have huncopied {result : Except String (Option PrivateCopy)} {copied : World B S}
      (hcopy : Slot.Copied platform.loader directory? conn request world result copied) :
      result = .ok none ∧ world = copied := by
    cases hcopy with
    | unasked => exact ⟨rfl, rfl⟩
    | noFile hasked | refused hasked | made hasked => simp [hisolate] at hasked
  have hopened {library : L} {opened : World B S}
      (hopen : platform.loader.open world (request.openPath none) = (.done library, opened)) :
      opened.files = world.files
        ∧ instances.handles opened.books (instances.file library) ≠ 0
        ∧ instances.Keeps opened file (handles + instances.countOn library file) own := by
    obtain ⟨_, _, _, -, hwork, rfl⟩ := Platform.open_of_done hopen
    refine ⟨rfl, ?_, hkeeps.opened hstart hopen (hself library)⟩
    have hmore := (instances.opening hwork (hself library)).1
    change instances.handles _ _ ≠ 0
    rw [World.settle, hmore]
    exact Nat.succ_ne_zero _
  cases hexit with
  | notCopied hcopy => cases (huncopied hcopy).1
  | openPanicked hcopy hopen => exact absurd hopen Platform.open_ne_panicked
  | resolvePanicked hcopy hopen hresolve => exact absurd hresolve Platform.resolve_ne_panicked
  | notOpened hcopy hopen =>
    obtain ⟨hcopy?, rfl⟩ := huncopied hcopy
    cases hcopy?
    have hkept := hkeeps.notOpened hopen
    have hfiles := Loader.files_of_open hopen
    exact ⟨hfiles, Slot.isInPlace_of_not_loaded rfl _ _, hkept⟩
  | @notResolved copy? copied opened library reason hcopy hopen hresolve =>
    obtain ⟨hcopy?, rfl⟩ := huncopied hcopy
    cases hcopy?
    obtain ⟨hfiles, hheld, hmore⟩ := hopened hopen
    refine ⟨by simpa [World.discard, Loader.close_eq, World.tell] using hfiles,
      Slot.isInPlace_of_not_loaded rfl _ _, ?_⟩
    -- what has just been opened is closed again
    rw [World.discard, Loader.close_eq]
    exact hmore.shut (hself library) hheld
  | @bound copy? copied opened library routine hcopy hopen hresolve =>
    obtain ⟨hcopy?, rfl⟩ := huncopied hcopy
    cases hcopy?
    obtain ⟨hfiles, -, hmore⟩ := hopened hopen
    refine ⟨hfiles, ?_, ?_⟩
    · intro controller hslot
      cases hslot
      obtain ⟨name, after, change, hname, hwork, -⟩ := Platform.open_of_done hopen
      obtain ⟨symbol, hfound⟩ := Platform.resolve_of_done hresolve
      exact ⟨⟨name, _, after, change, hname, hwork⟩, ⟨symbol, _, hfound⟩, rfl⟩
    · rw [← LoadedController.countOn_library]
      exact hmore

end

end Loads

end ControllerHost
