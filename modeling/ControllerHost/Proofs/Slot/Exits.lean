import ControllerHost.Registry.Slot

/-!
# The exits of a load

A load leaves through one of six exits. This file says once what each of them does to the slot and
to the world, so that what is proved about loads is proved by cases on the exits.

- `Loader.close_eq`, `World.discard_eq`, `LoadedController.release_eq`: what is done to the world
  when a library is closed, a private copy deleted, or a controller released.
- `Loader.files_open`, `Loader.files_shut`, `Loader.files_abandon` and the like: what loaders leave
  alone.
- `Slot.Copied`, `Slot.copied`: the four ways to deal with a private copy.
- `LoadOutcome`, `Loader.outcome`: what a loader makes of a request, from the private copy to the
  entry point.
- `Slot.Attached`, `Slot.attached`: the six exits.
- `Slot.Attached.result_eq_loaded`: which of them leaves a controller.
-/

namespace ControllerHost

variable {B S L : Type} {loader : Loader B S L} {directory? : Option Path} {conn : ConnectionId}
  {request : LoadRequest} {world : World B S}

/-! ### What loaders and controllers leave alone -/

section Frames

variable (loader) (library : L) (routine : Routine S) (buffers : CallBuffers) (world) (path : Path)

/-- Opening a library leaves the files. -/
@[simp]
theorem Loader.files_open : (loader.open world path).2.files = world.files := rfl

/-- Opening a library leaves the temporary directory. -/
@[simp]
theorem Loader.tempDir_open : (loader.open world path).2.tempDir = world.tempDir := rfl

/-- The loader itself tells nothing when it opens a library. -/
@[simp]
theorem Loader.events_open : (loader.open world path).2.events = world.events := rfl

/-- Closing a library leaves the files. -/
@[simp]
theorem Loader.files_shut : (loader.shut library world).files = world.files := rfl

/-- Closing a library leaves the temporary directory. -/
@[simp]
theorem Loader.tempDir_shut : (loader.shut library world).tempDir = world.tempDir := rfl

/-- Closing a library draws no random name. -/
@[simp]
theorem Loader.names_shut : (loader.shut library world).names = world.names := rfl

/-- The loader itself tells nothing when it closes a library. -/
@[simp]
theorem Loader.events_shut : (loader.shut library world).events = world.events := rfl

/-- Letting go of a library without its entry leaves the files. -/
@[simp]
theorem Loader.files_abandon : (loader.abandon library world).files = world.files := rfl

/-- Letting go of a library without its entry leaves the temporary directory. -/
@[simp]
theorem Loader.tempDir_abandon : (loader.abandon library world).tempDir = world.tempDir := rfl

/-- Letting go of a library without its entry tells nothing. -/
@[simp]
theorem Loader.events_abandon : (loader.abandon library world).events = world.events := rfl

theorem Loader.files_of_open {loader : Loader B S L} {world left : World B S} {path : Path}
    {attempt : Attempt L} (hopen : loader.open world path = (attempt, left)) :
    left.files = world.files := by
  rw [← Loader.files_open loader world path, hopen]

theorem Loader.tempDir_of_open {loader : Loader B S L} {world left : World B S} {path : Path}
    {attempt : Attempt L} (hopen : loader.open world path = (attempt, left)) :
    left.tempDir = world.tempDir := by
  rw [← Loader.tempDir_open loader world path, hopen]

theorem Loader.events_of_open {loader : Loader B S L} {world left : World B S} {path : Path}
    {attempt : Attempt L} (hopen : loader.open world path = (attempt, left)) :
    left.events = world.events := by
  rw [← Loader.events_open loader world path, hopen]

/-- A call changes the controllers' state and nothing else of the world. -/
theorem Routine.call_eq : routine.call buffers world =
    ((routine.run world.state buffers).2,
      { world with state := (routine.run world.state buffers).1 }) := rfl

end Frames

/-! ### Closing, deleting and releasing -/

/-- The events of closing the library that was opened at a path, by what the loader says about
that. -/
def Loader.closing (loader : Loader B S L) (conn : ConnectionId) (path : Path)
    (complaint? : Option String) : List Event :=
  match complaint? with
  | none => [.closed conn path loader.isLogged]
  | some reason => [.closed conn path false, .closeComplained conn reason]

/-- The events of deleting a private copy. -/
def PrivateCopy.deletion (conn : ConnectionId) (copy? : Option PrivateCopy) : List Event :=
  copy?.toList.map fun copy => .copyDeleted conn copy.path

/-- The files once a private copy has been deleted, if there is one. -/
def PrivateCopy.deleteFrom (copy? : Option PrivateCopy) (files : FileSystem) : FileSystem :=
  copy?.elim files fun copy => copy.delete files

/-- The events of releasing a controller, by what the loader says about its library. -/
def LoadedController.parting (controller : LoadedController S L) (loader : Loader B S L)
    (conn : ConnectionId) (complaint? : Option String) : List Event :=
  loader.closing conn controller.openPath complaint?
    ++ PrivateCopy.deletion conn controller.copy? ++ [.unloaded conn controller.path]

/-- Closing a library is logged after it has been done, with the loader's complaint. -/
theorem Loader.close_eq (path : Path) (library : L) :
    loader.close conn path library world =
      { loader.shut library world with
        events := world.events ++ loader.closing conn path (loader.complaint? library world) } := by
  unfold Loader.close Loader.closing
  cases loader.complaint? library world with
  | none => simp [World.tell]
  | some reason => simp [World.tell]

/-- Deleting a private copy concerns the files alone. -/
theorem World.discard_eq (copy? : Option PrivateCopy) :
    world.discard conn copy? =
      { world with
        files := PrivateCopy.deleteFrom copy? world.files
        events := world.events ++ PrivateCopy.deletion conn copy? } := by
  cases copy? with
  | none => simp [World.discard, PrivateCopy.deleteFrom, PrivateCopy.deletion]
  | some copy => simp [World.discard, World.tell, PrivateCopy.deleteFrom, PrivateCopy.deletion]

/-- Releasing a controller closes its library and deletes its private copy. -/
theorem LoadedController.release_eq (controller : LoadedController S L) :
    controller.release loader conn world =
      { loader.shut controller.library world with
        files := PrivateCopy.deleteFrom controller.copy? world.files
        events := world.events
          ++ controller.parting loader conn (loader.complaint? controller.library world) } := by
  simp [release, Loader.close_eq, World.discard_eq, World.tell, parting]

/-! ### Copying -/

/-- What can become of the private copy that a request asks for. -/
inductive Slot.Copied (loader : Loader B S L) (directory? : Option Path) (conn : ConnectionId)
    (request : LoadRequest) (world : World B S) :
    Except String (Option PrivateCopy) → World B S → Prop
  /-- The request asks for none, or the loader's paths lead to no files. -/
  | unasked (hunasked : (request.isolate && loader.isFileBacked) = false) :
      Copied loader directory? conn request world (.ok none) world
  /-- There is no file to copy. -/
  | noFile (hasked : (request.isolate && loader.isFileBacked) = true)
      (hfile : world.files.isFile request.path = false) :
      Copied loader directory? conn request world (.ok none)
        (world.tell (.notCopied conn request.path))
  /-- The copy cannot be made. -/
  | refused {failure : PrivateCopy.Failure}
      (hasked : (request.isolate && loader.isFileBacked) = true)
      (hfile : world.files.isFile request.path = true)
      (hcreate : PrivateCopy.create world.files world.names request.path conn
        (directory?.getD world.tempDir) = .error failure) :
      Copied loader directory? conn request world (.error failure.message)
        (world.tell (.copyFailed conn request.path failure.message))
  /-- The copy is made. -/
  | made {copy : PrivateCopy} {files : FileSystem}
      (hasked : (request.isolate && loader.isFileBacked) = true)
      (hfile : world.files.isFile request.path = true)
      (hcreate : PrivateCopy.create world.files world.names request.path conn
        (directory?.getD world.tempDir) = .ok (copy, files)) :
      Copied loader directory? conn request world (.ok (some copy))
        ({ world with files }.tell (.copied conn request.path copy.path))

section Copied

variable {result : Except String (Option PrivateCopy)} {copied : World B S}

/-- Dealing with a private copy opens and closes nothing. -/
theorem Slot.Copied.books (hcopy : Slot.Copied loader directory? conn request world result copied) :
    copied.books = world.books := by
  cases hcopy <;> rfl

/-- Dealing with a private copy leaves the controllers' state. -/
theorem Slot.Copied.state (hcopy : Slot.Copied loader directory? conn request world result copied) :
    copied.state = world.state := by
  cases hcopy <;> rfl

end Copied

/-- A private copy is dealt with in one of four ways. -/
theorem Slot.copied (loader : Loader B S L) (directory? : Option Path) (conn : ConnectionId)
    (request : LoadRequest) (world : World B S) :
    Slot.Copied loader directory? conn request world
      (Slot.copy? loader directory? conn request world).1
      (Slot.copy? loader directory? conn request world).2 := by
  unfold Slot.copy?
  cases hasked : request.isolate && loader.isFileBacked with
  | false => exact .unasked hasked
  | true =>
    cases hfile : world.files.isFile request.path with
    | false => exact .noFile hasked hfile
    | true =>
      simp only [if_true, World.copyPrivately]
      cases hcreate : PrivateCopy.create world.files world.names request.path conn
          (directory?.getD world.tempDir) with
      | error failure => exact .refused hasked hfile hcreate
      | ok made => exact .made hasked hfile hcreate

/-! ### The exits -/

/-- The path that is opened for a request: the private copy's, if there is one. -/
abbrev LoadRequest.openPath (request : LoadRequest) (copy? : Option PrivateCopy) : Path :=
  PrivateCopy.openPath copy? request.path

/-- What a loader makes of a request. -/
inductive LoadOutcome where
  /-- The private copy could not be made. -/
  | notCopied (reason : String)
  /-- The library could not be opened. -/
  | notOpened (reason : String)
  /-- The loader gave up while opening the library. -/
  | openPanicked (message : String)
  /-- The library was opened, and it does not export the entry point. The loader may complain when
  the library is closed again. -/
  | notResolved (reason : String) (complaint? : Option String)
  /-- The library was opened, and the loader gave up while looking for the entry point. -/
  | resolvePanicked (message : String)
  /-- The library was opened, from a private copy or not, and it exports the entry point. -/
  | bound (copy? : Option Path)
deriving DecidableEq

/-- What a load comes to with a given outcome. -/
def LoadOutcome.result (request : LoadRequest) : LoadOutcome → LoadResult
  | notCopied reason | notOpened reason => .failed (.libraryNotFound request.path reason)
  | openPanicked message | resolvePanicked message => .panicked message
  | notResolved reason _ => .failed (.symbolNotFound request.path request.symbol reason)
  | bound _ => .loaded

/-- Whether the library was opened. -/
def LoadOutcome.opened : LoadOutcome → Bool
  | notCopied _ | notOpened _ | openPanicked _ => false
  | notResolved _ _ | resolvePanicked _ | bound _ => true

/-- What a loader makes of a request in a world: the private copy is made, the library opened from
it or from the path itself, and the entry point looked up. -/
def Loader.outcome (loader : Loader B S L) (directory? : Option Path) (conn : ConnectionId)
    (request : LoadRequest) (world : World B S) : LoadOutcome :=
  match Slot.copy? loader directory? conn request world with
  | (.error reason, _) => .notCopied reason
  | (.ok copy?, world) =>
    match loader.open world (request.openPath copy?) with
    | (.failed reason, _) => .notOpened reason
    | (.panicked message, _) => .openPanicked message
    | (.done library, world) =>
      match loader.resolve library request.symbol world with
      | .failed reason => .notResolved reason (loader.complaint? library world)
      | .panicked message => .resolvePanicked message
      | .done _ => .bound (copy?.map PrivateCopy.path)

/-- The six exits of a load into an empty slot: the outcome, what is left in the slot, and the world
that is left. `copied` is the world once the private copy has been dealt with, and `opened` the one
that the loader has left after that. -/
inductive Slot.Attached (loader : Loader B S L) (directory? : Option Path) (conn : ConnectionId)
    (request : LoadRequest) (world : World B S) : LoadOutcome → Slot S L → World B S → Prop
  /-- The private copy could not be made. -/
  | notCopied {reason : String} {copied : World B S}
      (hcopy : Copied loader directory? conn request world (.error reason) copied) :
      Attached loader directory? conn request world (.notCopied reason) .empty copied
  /-- The library could not be opened, and the private copy goes. -/
  | notOpened {copy? : Option PrivateCopy} {copied opened : World B S} {reason : String}
      (hcopy : Copied loader directory? conn request world (.ok copy?) copied)
      (hopen : loader.open copied (request.openPath copy?) = (.failed reason, opened)) :
      Attached loader directory? conn request world (.notOpened reason) .empty
        ((opened.tell (.openFailed conn request.path reason)).discard conn copy?)
  /-- The loader gave up while opening the library, and the private copy goes. -/
  | openPanicked {copy? : Option PrivateCopy} {copied opened : World B S} {message : String}
      (hcopy : Copied loader directory? conn request world (.ok copy?) copied)
      (hopen : loader.open copied (request.openPath copy?) = (.panicked message, opened)) :
      Attached loader directory? conn request world (.openPanicked message) .empty
        ((opened.tell (.openPanicked conn)).discard conn copy?)
  /-- There is no entry point. The library is closed again, and the private copy goes. -/
  | notResolved {copy? : Option PrivateCopy} {copied opened : World B S} {library : L}
      {reason : String}
      (hcopy : Copied loader directory? conn request world (.ok copy?) copied)
      (hopen : loader.open copied (request.openPath copy?) = (.done library, opened))
      (hresolve : loader.resolve library request.symbol opened = .failed reason) :
      Attached loader directory? conn request world
        (.notResolved reason (loader.complaint? library opened))
        (.failed request.path request.symbol reason)
        ((loader.close conn (request.openPath copy?) library
          ((opened.tell (.opened conn (request.openPath copy?) loader.isLogged)).tell
            (.resolveFailed conn request.path request.symbol reason))).discard conn copy?)
  /-- The loader gave up while looking for the entry point. The library is dropped, and the private
  copy goes. -/
  | resolvePanicked {copy? : Option PrivateCopy} {copied opened : World B S} {library : L}
      {message : String}
      (hcopy : Copied loader directory? conn request world (.ok copy?) copied)
      (hopen : loader.open copied (request.openPath copy?) = (.done library, opened))
      (hresolve : loader.resolve library request.symbol opened = .panicked message) :
      Attached loader directory? conn request world (.resolvePanicked message) .empty
        ((loader.drop conn (request.openPath copy?) library
          ((opened.tell (.opened conn (request.openPath copy?) loader.isLogged)).tell
            (.resolvePanicked conn))).discard conn copy?)
  /-- The controller is loaded. -/
  | bound {copy? : Option PrivateCopy} {copied opened : World B S} {library : L}
      {routine : Routine S}
      (hcopy : Copied loader directory? conn request world (.ok copy?) copied)
      (hopen : loader.open copied (request.openPath copy?) = (.done library, opened))
      (hresolve : loader.resolve library request.symbol opened = .done routine) :
      Attached loader directory? conn request world (.bound (copy?.map PrivateCopy.path))
        (.loaded ⟨library, routine, copy?, request.path, request.symbol⟩)
        ((opened.tell (.opened conn (request.openPath copy?) loader.isLogged)).tell
          (.loaded conn request.path request.symbol))

/-- A load into an empty slot leaves through the exit that its outcome names. -/
theorem Slot.attached (loader : Loader B S L) (directory? : Option Path) (conn : ConnectionId)
    (request : LoadRequest) (world : World B S) :
    Slot.Attached loader directory? conn request world
        (loader.outcome directory? conn request world)
        (Slot.attach loader directory? conn request world).2.1
        (Slot.attach loader directory? conn request world).2.2
      ∧ (Slot.attach loader directory? conn request world).1 =
        (loader.outcome directory? conn request world).result request := by
  have hcopy := Slot.copied loader directory? conn request world
  unfold Slot.attach Loader.outcome
  -- the load and its outcome take the same decisions, one after another
  generalize Slot.copy? loader directory? conn request world = made at hcopy ⊢
  obtain ⟨result, copied⟩ := made
  cases result with
  | error reason => exact ⟨.notCopied hcopy, rfl⟩
  | ok copy? =>
    simp only [LoadRequest.openPath]
    generalize hopen : loader.open copied (PrivateCopy.openPath copy? request.path) = attempt
    obtain ⟨attempt, opened⟩ := attempt
    cases attempt with
    | failed reason => exact ⟨.notOpened hcopy hopen, rfl⟩
    | panicked message => exact ⟨.openPanicked hcopy hopen, rfl⟩
    | done library =>
      -- what is said about the opening does not matter to the loader
      have hsaid : loader.resolve library request.symbol
          (opened.tell (.opened conn (PrivateCopy.openPath copy? request.path) loader.isLogged)) =
            loader.resolve library request.symbol opened := rfl
      simp only [Slot.bind, hsaid]
      cases hresolve : loader.resolve library request.symbol opened with
      | done routine => exact ⟨.bound hcopy hopen hresolve, rfl⟩
      | failed reason => exact ⟨.notResolved hcopy hopen hresolve, rfl⟩
      | panicked message => exact ⟨.resolvePanicked hcopy hopen hresolve, rfl⟩

/-- A load succeeds exactly if it leaves a controller in its slot. -/
theorem Slot.Attached.result_eq_loaded {outcome : LoadOutcome} {slot : Slot S L} {left : World B S}
    (hexit : Slot.Attached loader directory? conn request world outcome slot left) :
    outcome.result request = .loaded ↔ slot.isLoaded = true := by
  cases hexit <;> simp [LoadOutcome.result, Slot.isLoaded, Slot.status]

end ControllerHost
