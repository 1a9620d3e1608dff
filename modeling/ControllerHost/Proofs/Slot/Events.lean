import ControllerHost.Proofs.Slot.Exits

/-!
# The events of a load

What a load adds to the events of a world depends on its exit and on the private copy alone. This
file writes the added events down, so that what is proved about the order of events is proved by
cases on them.

- `Slot.leaving`: the events of making room.
- `Slot.Prepared`, `Slot.Story`: the events of dealing with a private copy, and of a whole load into
  an empty slot.
- `Slot.Attached.story`: every load into an empty slot adds such events.
- `Slot.Story.calling_not_mem`: no load calls anything.
-/

namespace ControllerHost

variable {B S L : Type}

variable {loader : Loader B S L} {directory? : Option Path} {conn : ConnectionId}
  {request : LoadRequest} {world : World B S}

/-- The events of making room for another controller. -/
def Slot.leaving (slot : Slot S L) (loader : Loader B S L) (conn : ConnectionId)
    (world : World B S) : List Event :=
  match slot with
  | loaded controller =>
    .replacing conn controller.path ::
      controller.parting loader conn (loader.complaint? controller.library world)
  | _ => []

/-- Making room adds the events of leaving. -/
theorem Slot.events_vacate (slot : Slot S L) :
    (slot.vacate loader conn world).events = world.events ++ slot.leaving loader conn world := by
  cases slot with
  | empty => simp [vacate, leaving]
  | failed path symbol reason => simp [vacate, leaving]
  | loaded controller =>
    simp [vacate, leaving, LoadedController.release_eq, Loader.complaint?, World.tell]

/-- The events of dealing with the private copy that a request asks for, when that succeeds: a copy
is made, or there is no file to copy, or nothing was to be done. -/
inductive Slot.Prepared (conn : ConnectionId) (request : LoadRequest) :
    Option PrivateCopy → List Event → Prop
  | unasked : Prepared conn request none []
  | noFile : Prepared conn request none [.notCopied conn request.path]
  | made {copy : PrivateCopy} :
      Prepared conn request (some copy) [.copied conn request.path copy.path]

/-- The events of a load into an empty slot, by its outcome and what it leaves in the slot. -/
inductive Slot.Story (loader : Loader B S L) (conn : ConnectionId) (request : LoadRequest) :
    LoadOutcome → Slot S L → List Event → Prop
  | notCopied {reason : String} :
      Story loader conn request (.notCopied reason) .empty [.copyFailed conn request.path reason]
  | notOpened {copy? : Option PrivateCopy} {first : List Event} {reason : String}
      (hfirst : Prepared conn request copy? first) :
      Story loader conn request (.notOpened reason) .empty
        (first ++ [.openFailed conn request.path reason] ++ PrivateCopy.deletion conn copy?)
  | openPanicked {copy? : Option PrivateCopy} {first : List Event} {message : String}
      (hfirst : Prepared conn request copy? first) :
      Story loader conn request (.openPanicked message) .empty
        (first ++ [.openPanicked conn] ++ PrivateCopy.deletion conn copy?)
  | notResolved {copy? : Option PrivateCopy} {first : List Event} {complaint? : Option String}
      {reason : String} (hfirst : Prepared conn request copy? first) :
      Story loader conn request (.notResolved reason complaint?)
        (.failed request.path request.symbol reason)
        (first ++ [.opened conn (request.openPath copy?) loader.isLogged,
            .resolveFailed conn request.path request.symbol reason]
          ++ loader.closing conn (request.openPath copy?) complaint?
          ++ PrivateCopy.deletion conn copy?)
  | resolvePanicked {copy? : Option PrivateCopy} {first : List Event} {message : String}
      (hfirst : Prepared conn request copy? first) :
      Story loader conn request (.resolvePanicked message) .empty
        (first ++ [.opened conn (request.openPath copy?) loader.isLogged, .resolvePanicked conn,
            .closed conn (request.openPath copy?) false] ++ PrivateCopy.deletion conn copy?)
  | bound {copy? : Option PrivateCopy} {first : List Event} {library : L} {routine : Routine S}
      (hfirst : Prepared conn request copy? first) :
      Story loader conn request (.bound (copy?.map PrivateCopy.path))
        (.loaded ⟨library, routine, copy?, request.path, request.symbol⟩)
        (first ++ [.opened conn (request.openPath copy?) loader.isLogged,
          .loaded conn request.path request.symbol])

/-- Dealing with a private copy adds such events. -/
theorem Slot.Copied.prepared {copy? : Option PrivateCopy} {copied : World B S}
    (hcopy : Slot.Copied loader directory? conn request world (.ok copy?) copied) :
    ∃ first, copied.events = world.events ++ first ∧ Slot.Prepared conn request copy? first := by
  cases hcopy with
  | unasked hunasked => exact ⟨[], by simp, .unasked⟩
  | noFile hasked hfile => exact ⟨_, rfl, .noFile⟩
  | made hasked hfile hcreate => exact ⟨_, rfl, .made⟩

/-- Every load into an empty slot adds such events. -/
theorem Slot.Attached.story {outcome : LoadOutcome} {slot : Slot S L} {left : World B S}
    (hexit : Slot.Attached loader directory? conn request world outcome slot left) :
    ∃ added, left.events = world.events ++ added
      ∧ Slot.Story loader conn request outcome slot added := by
  -- in each exit the events of the private copy come first, and what they are does not matter
  cases hexit with
  | notCopied hcopy =>
    cases hcopy with
    | refused hasked hfile hcreate => exact ⟨_, rfl, .notCopied⟩
  | notOpened hcopy hopen =>
    obtain ⟨first, hevents, hfirst⟩ := hcopy.prepared
    have hopened := Loader.events_of_open hopen
    exact ⟨_, by simp [World.discard_eq, World.tell, hopened, hevents], .notOpened hfirst⟩
  | openPanicked hcopy hopen =>
    obtain ⟨first, hevents, hfirst⟩ := hcopy.prepared
    have hopened := Loader.events_of_open hopen
    exact ⟨_, by simp [World.discard_eq, World.tell, hopened, hevents], .openPanicked hfirst⟩
  | @notResolved copy? copied opened library reason hcopy hopen hresolve =>
    obtain ⟨first, hevents, hfirst⟩ := hcopy.prepared
    have hopened := Loader.events_of_open hopen
    -- a complaint depends on what the loader has opened, and not on what has been said since
    have hstory := @Story.notResolved B S L loader conn request copy? first
      (loader.complaint? library opened) reason hfirst
    refine ⟨_, ?_, hstory⟩
    simp [World.discard_eq, Loader.close_eq, Loader.complaint?, World.tell, hopened, hevents]
  | resolvePanicked hcopy hopen hresolve =>
    obtain ⟨first, hevents, hfirst⟩ := hcopy.prepared
    have hopened := Loader.events_of_open hopen
    exact ⟨_, by simp [World.discard_eq, Loader.drop, World.tell, hopened, hevents],
      .resolvePanicked hfirst⟩
  | bound hcopy hopen hresolve =>
    obtain ⟨first, hevents, hfirst⟩ := hcopy.prepared
    have hopened := Loader.events_of_open hopen
    exact ⟨_, by simp [World.tell, hopened, hevents], .bound hfirst⟩

/-! ### Calls -/

section Calls

variable {caller : ConnectionId} {called : String}

theorem Loader.calling_not_mem_closing {path : Path} {complaint? : Option String} :
    Event.calling caller called ∉ loader.closing conn path complaint? := by
  cases complaint? <;> simp [closing]

theorem PrivateCopy.calling_not_mem_deletion {copy? : Option PrivateCopy} :
    Event.calling caller called ∉ deletion conn copy? := by
  simp [deletion]

/-- Releasing a controller calls nothing. -/
theorem LoadedController.calling_not_mem_parting {controller : LoadedController S L}
    {complaint? : Option String} :
    Event.calling caller called ∉ controller.parting loader conn complaint? := by
  simp [parting, Loader.calling_not_mem_closing, PrivateCopy.calling_not_mem_deletion]

/-- No load calls anything. -/
theorem Slot.Story.calling_not_mem {outcome : LoadOutcome} {slot : Slot S L} {added : List Event}
    (hstory : Slot.Story loader conn request outcome slot added) :
    Event.calling caller called ∉ added := by
  have hprepared {copy? : Option PrivateCopy} {first : List Event}
      (hfirst : Slot.Prepared conn request copy? first) : Event.calling caller called ∉ first := by
    cases hfirst <;> simp
  cases hstory with
  | notCopied => simp
  | notOpened hfirst | openPanicked hfirst | resolvePanicked hfirst =>
    simp [hprepared hfirst, PrivateCopy.calling_not_mem_deletion]
  | notResolved hfirst =>
    simp [hprepared hfirst, PrivateCopy.calling_not_mem_deletion, Loader.calling_not_mem_closing]
  | bound hfirst => simp [hprepared hfirst]

end Calls

end ControllerHost
