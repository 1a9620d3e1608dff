import ControllerHost.Proofs.Host.Parallel
import ControllerHost.Proofs.Host.Trail

/-!
# What the log warns of

A load can fail although nothing was wrong with the request, and a loader can complain about a
library that it has closed. The log has one warning for each of these mishaps, with its connection,
in the order in which they happened, and no other warnings.

- `Mishap`, `Mishap.Warns`: what can go wrong, and the record that warns of it.
- `Slot.complaints`, `LoadResult.mishaps`: the mishaps of giving up a slot and of a load's end.
- `Host.complaints`, `Host.mishaps`: the mishaps of an operation, by its answer and by what is given
  up.
- `Host.warned`, `Host.warnedAtEnd`: the warnings of an operation, and of giving up the registry.
-/

namespace ControllerHost

variable {B S L : Type}

/-- Something that goes wrong in the host. -/
inductive Mishap where
  /-- A load fails, for a reason that the loader or the files have given. -/
  | load (conn : ConnectionId) (error : LoadError)
  /-- A loader complains about a library that it has closed. -/
  | close (conn : ConnectionId) (reason : String)
deriving DecidableEq

/-- A record warns of a mishap: it names the connection, and quotes the reason behind words of its
own. -/
inductive Mishap.Warns : Mishap → Log.Record → Prop
  | notCopied {conn : ConnectionId} {path : Path} {reason : String} :
      Warns (.load conn (.libraryNotFound path reason))
        ⟨.warn, .registry, "failed to copy library: " ++ reason,
          [("conn", conn.text), ("path", path.shown)]⟩
  | notOpened {conn : ConnectionId} {path : Path} {reason : String} :
      Warns (.load conn (.libraryNotFound path reason))
        ⟨.warn, .registry, "failed to load library: " ++ reason,
          [("conn", conn.text), ("path", path.shown)]⟩
  | notResolved {conn : ConnectionId} {path : Path} {symbol reason : String} :
      Warns (.load conn (.symbolNotFound path symbol reason))
        ⟨.warn, .registry, "failed to get function: " ++ reason,
          [("conn", conn.text), ("path", path.shown), ("symbol", symbol)]⟩
  | complained {conn : ConnectionId} {reason : String} :
      Warns (.close conn reason)
        ⟨.warn, .registry, "library close reported an error: " ++ reason,
          [("conn", conn.text)]⟩

/-! ### Mishaps -/

/-- What goes wrong when a loader complains about a library of a connection that it has closed. -/
def Mishap.ofComplaint (conn : ConnectionId) (complaint? : Option String) : List Mishap :=
  complaint?.toList.map (.close conn)

/-- What the loader says about the library of a load that is closed again. -/
def LoadOutcome.complaint? : LoadOutcome → Option String
  | notResolved _ complaint? => complaint?
  | notCopied _ | notOpened _ | openPanicked _ | resolvePanicked _ | bound _ => none

/-- The mishaps that a load ends with. A library without the entry point is closed again, and its
loader can complain about that. A loader that gives up in the middle is not asked. -/
def LoadResult.mishaps (conn : ConnectionId) (complaint? : Option String) :
    LoadResult → List Mishap
  | .failed (.libraryNotFound path reason) => [.load conn (.libraryNotFound path reason)]
  | .failed (.symbolNotFound path symbol reason) =>
    .load conn (.symbolNotFound path symbol reason) :: Mishap.ofComplaint conn complaint?
  | .failed (.unknownConnection _) | .failed (.invalidArgument _) | .loaded | .panicked _ => []

/-- What a loader complains about when it gives up what a slot holds. -/
def Slot.complaints (slot : Slot S L) (loader : Loader B S L) (conn : ConnectionId)
    (world : World B S) : List Mishap :=
  match slot with
  | loaded controller => Mishap.ofComplaint conn (loader.complaint? controller.library world)
  | empty | failed _ _ _ => []

/-- What a loader complains about when it gives up the slots of a table from a place on, one after
another. -/
def Registry.complaintsFrom (loader : Loader B S L) :
    Nat → List (Slot S L) → World B S → List Mishap
  | _, [], _ => []
  | place, slot :: rest, world =>
    slot.complaints loader (.ofIndex place) world
      ++ complaintsFrom loader (place + 1) rest (slot.unload loader (.ofIndex place) world).2

namespace Host

/-- What the loader complains about when it gives up what an operation has it give up: everything,
what a connection holds, or what a load that is not refused makes room for. -/
def complaints (host : Host B S L) : Operation → List Mishap
  | .shutDown => Registry.complaintsFrom host.registry.loader 0 host.registry.slots host.world
  | .unload conn =>
    (host.registry.slotOf conn).complaints host.registry.loader conn host.world
  | operation =>
    (host.accepted? operation).elim [] fun (conn, _) =>
      (host.registry.slotOf conn).complaints host.registry.loader conn host.world

/-- What goes wrong in an operation: the loader complains about the libraries that are given up, and
a load fails. -/
def mishaps (host : Host B S L) (operation : Operation) : List Mishap :=
  host.complaints operation ++
    match operation.request? host.registry.settings, (host.perform operation).1 with
    | some (conn, request), .load result =>
      result.mishaps conn (host.outcome conn request).complaint?
    | _, _ => []

/-- What goes wrong when the registry is given up. -/
def mishapsAtEnd (host : Host B S L) : List Mishap :=
  Registry.complaintsFrom host.registry.loader 0 host.registry.slots host.world

end Host

/-! ### Warnings -/

/-- The warnings among the records of some events. -/
def Event.warnings (events : List Event) : List Log.Record :=
  (events.filterMap record?).filter fun record => record.severity = .warn

theorem Event.warnings_append (first second : List Event) :
    warnings (first ++ second) = warnings first ++ warnings second := by
  simp [warnings]

/-- A warning is captured at every level. -/
theorem Event.warnings_captured (level : Log.DebugLevel) (events : List Event) :
    (captured level events).filter (fun record => record.severity = .warn) = warnings events := by
  rw [captured_eq, List.filter_filter, warnings]
  congr 1
  funext record
  cases record.severity <;> cases level <;> rfl

/-- Among some events there is one warning for each of several mishaps, in their order, and no other
warning. -/
def Event.WarnOf (events : List Event) (mishaps : List Mishap) : Prop :=
  List.Forall₂ Mishap.Warns mishaps (warnings events)

section Parts

variable {loader : Loader B S L} {conn : ConnectionId} {request : LoadRequest}
  {outcome : LoadOutcome}
  {slot : Slot S L} {first second : List Event} {before after : List Mishap}

theorem Event.WarnOf.append (hfirst : WarnOf first before) (hsecond : WarnOf second after) :
    WarnOf (first ++ second) (before ++ after) := by
  rw [WarnOf, warnings_append]
  exact List.rel_append hfirst hsecond

theorem Event.warnOf_nil : WarnOf [] [] := .nil

/-- What calls tell is no warning. -/
theorem Event.warnOf_of_isCallNote {events : List Event}
    (hnotes : ∀ event ∈ events, event.isCallNote) : WarnOf events [] := by
  have hnone : warnings events = [] := by
    rw [warnings, List.filter_eq_nil_iff]
    intro record hrecord
    obtain ⟨event, hevent, hrecord⟩ := List.mem_filterMap.1 hrecord
    simp [severity_of_isCallNote (hnotes event hevent) hrecord]
  rw [WarnOf, hnone]
  exact .nil

/-- Closing a library warns of what the loader says about that. -/
theorem Loader.warnOf_closing (loader : Loader B S L) (conn : ConnectionId) (path : Path)
    (complaint? : Option String) :
    Event.WarnOf (loader.closing conn path complaint?) (Mishap.ofComplaint conn complaint?) := by
  have hclosed (logged : Bool) : Event.WarnOf [.closed conn path logged] [] := by
    cases logged <;> exact .nil
  cases complaint? with
  | none => exact hclosed _
  | some reason =>
    have hcomplained : Event.WarnOf [.closeComplained conn reason] [.close conn reason] :=
      .cons .complained .nil
    exact (hclosed false).append hcomplained

theorem PrivateCopy.warnOf_deletion (conn : ConnectionId) (copy? : Option PrivateCopy) :
    Event.WarnOf (deletion conn copy?) [] := by
  cases copy? <;> exact .nil

/-- Releasing a controller warns of what the loader says about its library. -/
theorem LoadedController.warnOf_parting (controller : LoadedController S L) (loader : Loader B S L)
    (conn : ConnectionId) (complaint? : Option String) :
    Event.WarnOf (controller.parting loader conn complaint?)
      (Mishap.ofComplaint conn complaint?) := by
  have hunloaded : Event.WarnOf [.unloaded conn controller.path] [] := .nil
  have hparting := ((loader.warnOf_closing conn controller.openPath complaint?).append
    (PrivateCopy.warnOf_deletion conn controller.copy?)).append hunloaded
  simpa [parting] using hparting

/-- Making room warns of the complaints about what a slot holds. -/
theorem Slot.warnOf_leaving (slot : Slot S L) (loader : Loader B S L) (conn : ConnectionId)
    (world : World B S) :
    Event.WarnOf (slot.leaving loader conn world) (slot.complaints loader conn world) := by
  cases slot with
  | loaded controller =>
    have hreplacing : Event.WarnOf [.replacing conn controller.path] [] := .nil
    exact hreplacing.append (controller.warnOf_parting loader conn _)
  | empty => exact .nil
  | failed path symbol reason => exact .nil

theorem Slot.Prepared.warnOf {copy? : Option PrivateCopy}
    (hfirst : Slot.Prepared conn request copy? first) : Event.WarnOf first [] := by
  cases hfirst <;> exact .nil

/-- A load into an empty slot warns of what it ends with. -/
theorem Slot.Story.warnOf (hstory : Slot.Story loader conn request outcome slot first) :
    Event.WarnOf first ((outcome.result request).mishaps conn outcome.complaint?) := by
  have hopened (path : Path) (logged : Bool) : Event.WarnOf [.opened conn path logged] [] := by
    cases logged <;> exact .nil
  -- in each exit there is a warning for the failure, and one for a complaint on closing
  cases hstory with
  | notCopied => exact .cons .notCopied .nil
  | @notOpened copy? _ reason hfirst =>
    have hfailed : Event.WarnOf [.openFailed conn request.path reason]
        [.load conn (.libraryNotFound request.path reason)] := .cons .notOpened .nil
    exact (hfirst.warnOf.append hfailed).append (PrivateCopy.warnOf_deletion conn copy?)
  | @openPanicked copy? _ _ hfirst =>
    have hgiven : Event.WarnOf [.openPanicked conn] [] := .nil
    exact (hfirst.warnOf.append hgiven).append (PrivateCopy.warnOf_deletion conn copy?)
  | @notResolved copy? _ complaint? reason hfirst =>
    have hfailed : Event.WarnOf [.resolveFailed conn request.path request.symbol reason]
        [.load conn (.symbolNotFound request.path request.symbol reason)] :=
      .cons .notResolved .nil
    have hclosed := (loader.warnOf_closing conn (request.openPath copy?) complaint?).append
      (PrivateCopy.warnOf_deletion conn copy?)
    have hall := (hfirst.warnOf.append
      ((hopened (request.openPath copy?) loader.isLogged).append hfailed)).append hclosed
    simpa [LoadOutcome.result, LoadResult.mishaps, LoadOutcome.complaint?] using hall
  | @resolvePanicked copy? _ _ hfirst =>
    have hclosed : Event.WarnOf [.closed conn (request.openPath copy?) false] [] := .nil
    have hgiven : Event.WarnOf [.resolvePanicked conn] [] := .nil
    exact (hfirst.warnOf.append ((hopened _ _).append (hgiven.append hclosed))).append
      (PrivateCopy.warnOf_deletion conn copy?)
  | @bound copy? _ library _ hfirst =>
    have hloaded : Event.WarnOf [.loaded conn request.path request.symbol] [] := .nil
    exact hfirst.warnOf.append ((hopened _ _).append hloaded)

/-- Releasing the slots of a table from a place on warns of the complaints about each of them. -/
theorem Registry.warnOf_releaseFrom (loader : Loader B S L) (place : Nat)
    (slots : List (Slot S L)) (world : World B S) :
    ∃ added, (releaseFrom loader place slots world).events = world.events ++ added
      ∧ Event.WarnOf added (complaintsFrom loader place slots world) := by
  induction slots generalizing place world with
  | nil => exact ⟨[], by simp [releaseFrom], .nil⟩
  | cons slot rest ih =>
    obtain ⟨added, hevents, hwarn⟩ :=
      ih (place + 1) (slot.unload loader (.ofIndex place) world).2
    cases slot with
    | loaded controller =>
      refine ⟨controller.parting loader (.ofIndex place)
        (loader.complaint? controller.library world) ++ added, ?_, ?_⟩
      · rw [releaseFrom, hevents]
        simp [Slot.unload, LoadedController.release_eq]
      · exact (controller.warnOf_parting loader _ _).append hwarn
    | empty => exact ⟨added, hevents, hwarn⟩
    | failed path symbol reason => exact ⟨added, hevents, hwarn⟩

/-- A shutdown warns of the complaints about everything that it gives up. -/
theorem Registry.warnOf_shutDown (registry : Registry B S L) (world : World B S) :
    ∃ added, (registry.shutDown world).2.events = world.events ++ added
      ∧ Event.WarnOf added (complaintsFrom registry.loader 0 registry.slots world) := by
  obtain ⟨added, hevents, hwarn⟩ :=
    warnOf_releaseFrom registry.loader 0 registry.slots world
  simp only [shutDown]
  split
  · exact ⟨added, hevents, hwarn⟩
  · refine ⟨added ++ [.shutDown registry.loadedCount], ?_, ?_⟩
    · rw [World.tell, hevents, List.append_assoc]
    · have hshutDown : Event.WarnOf [.shutDown registry.loadedCount] [] := .nil
      simpa using hwarn.append hshutDown

end Parts

/-! ### Operations -/

namespace Host

variable {host : Host B S L}

/-- A load warns of what is complained about when it makes room, and of what it ends with. -/
theorem warned_loadWith (conn : ConnectionId) (request : LoadRequest) :
    ∃ added,
      (host.registry.loadWith conn request host.world).2.2.events = host.world.events ++ added
        ∧ Event.WarnOf added
          (((host.admit? conn request).elim [] fun (conn, _) =>
              (host.registry.slotOf conn).complaints host.registry.loader conn host.world)
            ++ (host.registry.loadWith conn request host.world).1.mishaps conn
              (host.outcome conn request).complaint?) := by
  cases hindex : conn.index? host.registry.capacity with
  | none => exact ⟨[], by simp [Registry.loadWith, Registry.index, hindex],
      by simpa [Registry.loadWith, Registry.index, hindex, admit?, LoadResult.mishaps]
        using Event.warnOf_nil⟩
  | some index =>
    cases hfault : Registry.requestFault? request with
    | some fault =>
      -- what is refused for its path or its symbol is no mishap
      have hmishaps (complaint? : Option String) :
          (LoadResult.failed fault).mishaps conn complaint? = [] := by
        unfold Registry.requestFault? at hfault
        split at hfault
        · cases hfault
          rfl
        · split at hfault
          · cases hfault
            rfl
          · cases hfault
      exact ⟨[], by simp [Registry.loadWith, Registry.index, hindex, hfault],
        by simpa [Registry.loadWith, Registry.index, hindex, hfault, admit?, hmishaps]
          using Event.warnOf_nil⟩
    | none =>
      obtain ⟨hexit, hresult⟩ := Slot.attached host.registry.loader
        host.registry.settings.copyDir? conn request (host.released conn)
      obtain ⟨added, hevents, hstory⟩ := hexit.story
      rw [released, Slot.events_vacate, List.append_assoc] at hevents
      rw [loadWith_eq hindex hfault]
      refine ⟨_, hevents, ?_⟩
      -- the warnings of what leaves the slot come before those of the load
      have hleaving :=
        (host.registry.slotOf conn).warnOf_leaving host.registry.loader conn host.world
      have hwarn := hleaving.append hstory.warnOf
      rw [← hresult] at hwarn
      have hadmitted : host.admit? conn request = some (conn, request) := by
        simp [admit?, hindex, hfault]
      rw [hadmitted]
      exact hwarn

/-- An unload warns of the complaints about what it gives up. -/
theorem warned_unload (conn : ConnectionId) :
    ∃ added, (host.registry.unload conn host.world).2.2.events = host.world.events ++ added
      ∧ Event.WarnOf added
        ((host.registry.slotOf conn).complaints host.registry.loader conn host.world) := by
  unfold Registry.unload Registry.index
  cases hindex : conn.index? host.registry.capacity with
  | none =>
    exact ⟨[], by simp, by simpa [Registry.slotOf, hindex, Slot.complaints]
      using Event.warnOf_nil⟩
  | some index =>
    simp only [slotOf_of_index? hindex]
    cases host.registry.slot index with
    | loaded controller =>
      refine ⟨controller.parting host.registry.loader conn
        (host.registry.loader.complaint? controller.library host.world), ?_, ?_⟩
      · simp [Slot.unload, LoadedController.release_eq]
      · exact controller.warnOf_parting host.registry.loader conn _
    | empty => exact ⟨[], by simp [Slot.unload], Event.warnOf_nil⟩
    | failed path symbol reason => exact ⟨[], by simp [Slot.unload], Event.warnOf_nil⟩

/-- Every operation warns of what goes wrong in it. -/
theorem warned (host : Host B S L) (operation : Operation) :
    Event.WarnOf (host.told operation) (host.mishaps operation) := by
  -- calls leave notes without a warning, and what only asks tells nothing
  have hquiet (hcall : operation.isCall) (hnone : host.mishaps operation = []) :
      Event.WarnOf (host.told operation) (host.mishaps operation) := by
    obtain ⟨added, hevents, hnotes⟩ := host.goesOn_of_isCall hcall
    rw [host.told_of_events operation hevents, hnone]
    exact Event.warnOf_of_isCallNote hnotes
  have hsilent (hnext : host.next operation = host) (hnone : host.mishaps operation = []) :
      Event.WarnOf (host.told operation) (host.mishaps operation) := by
    rw [told, hnext, List.drop_length, hnone]
    exact Event.warnOf_nil
  cases operation with
  | load conn path symbol =>
    obtain ⟨added, hevents, hwarn⟩ := host.warned_loadWith conn
      ⟨path, symbol, host.registry.settings.isolateInstances⟩
    rw [host.told_of_events (.load conn path symbol) hevents]
    exact hwarn
  | loadWith conn request =>
    obtain ⟨added, hevents, hwarn⟩ := host.warned_loadWith conn request
    rw [host.told_of_events (.loadWith conn request) hevents]
    exact hwarn
  | unload conn =>
    obtain ⟨added, hevents, hwarn⟩ := host.warned_unload conn
    rw [host.told_of_events (.unload conn) hevents]
    simpa [mishaps, complaints, Operation.request?] using hwarn
  | shutDown =>
    obtain ⟨added, hevents, hwarn⟩ := host.registry.warnOf_shutDown host.world
    rw [host.told_of_events .shutDown hevents]
    simpa [mishaps, complaints, Operation.request?] using hwarn
  | invoke | invokeUnchecked | invokePayload => exact hquiet rfl rfl
  | status | describe | loadedCount => exact hsilent rfl rfl

theorem warnedAtEnd (host : Host B S L) : Event.WarnOf host.toldAtEnd host.mishapsAtEnd := by
  obtain ⟨added, hevents, hwarn⟩ := host.registry.warnOf_shutDown host.world
  rw [toldAtEnd, drop, hevents, List.drop_left]
  exact hwarn

end Host

end ControllerHost
