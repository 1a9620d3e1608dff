import ControllerHost.Proofs.Host.Basic

/-!
# Parallel worlds

Two worlds can differ in what has happened in them and, within some leeway, in the books of the
loader and in the state of the controllers. Where the loader does the same within the leeway, the
host does: every operation that calls nothing gives the same answer in both worlds, tells the same,
and leaves two worlds that differ as much as those from before. So does a call, if the state is the
same in both.

- `Leeway`, `Loader.Respects`: what may differ, and loaders that do the same all the same.
- `World.Parallel`: two worlds, and what has happened in both of them since two pasts.
- `Slot.attach_parallel`, `Registry.loadWith_parallel`, and so on: what is done in such worlds.
- `Host.AreLevel`, `Host.AreLevel.perform`, `Host.AreLevel.drop`: hosts in such worlds.
- `Host.told`, `Host.toldAtEnd`: what an operation, and giving up the registry, add to what has
  happened.
-/

namespace ControllerHost

variable {B S L : Type}

/-! ### Leeway -/

/-- By how much the books of a loader and the state of controllers may differ. -/
structure Leeway (B S : Type) where
  /-- Books that may be exchanged for one another. -/
  books : B → B → Prop
  /-- State that may be exchanged. -/
  state : S → S → Prop

namespace Leeway

variable (leeway : Leeway B S)

/-- Two changes of the state lead to state within the leeway from state within it. -/
def Keeps (change change' : S → S) : Prop :=
  ∀ ⦃state other⦄, leeway.state state other → leeway.state (change state) (change' other)

/-- A loader's work comes to the same, with books and state within the leeway. -/
def SameWork {α : Type} (work other : α × B × (S → S)) : Prop :=
  work.1 = other.1 ∧ leeway.books work.2.1 other.2.1 ∧ leeway.Keeps work.2.2 other.2.2

/-- The state has to be the same. -/
def IsExact : Prop := ∀ ⦃state other⦄, leeway.state state other ↔ state = other

/-- No leeway at all. -/
def none : Leeway B S := ⟨Eq, Eq⟩

/-- The state may be anything, while the books have to be the same. -/
def anyState : Leeway B S := ⟨Eq, fun _ _ => True⟩

/-- No leeway is none for the controllers' state. -/
theorem isExact_none : (none : Leeway B S).IsExact := fun _ _ => Iff.rfl

end Leeway

/-- Whatever a loader's books are within the leeway, the loader does the same with them. -/
structure Loader.Respects (loader : Loader B S L) (leeway : Leeway B S) : Prop where
  /-- When it opens a library. -/
  opening : ∀ {books other : B} (files : FileSystem) (path : Path), leeway.books books other →
    leeway.SameWork (loader.openLibrary files books path) (loader.openLibrary files other path)
  /-- When it looks for an entry point. -/
  finding : ∀ {books other : B} (library : L) (symbol : String), leeway.books books other →
    loader.findRoutine books library symbol = loader.findRoutine other library symbol
  /-- When it closes a library. -/
  closing : ∀ {books other : B} (library : L), leeway.books books other →
    leeway.SameWork (loader.closeLibrary books library) (loader.closeLibrary other library)
  /-- When it drops a library. -/
  dropping : ∀ {books other : B} (library : L), leeway.books books other →
    leeway.books (loader.dropLibrary books library).1 (loader.dropLibrary other library).1
      ∧ leeway.Keeps (loader.dropLibrary books library).2 (loader.dropLibrary other library).2

/-- A loader does the same with the same books, and nothing that it does depends on the state. -/
theorem Loader.respects_of_eq (loader : Loader B S L) {leeway : Leeway B S}
    (hbooks : ∀ {books other}, leeway.books books other ↔ books = other)
    (hkeeps : ∀ change, leeway.Keeps change change) : loader.Respects leeway where
  opening files path hsame := by
    obtain rfl := hbooks.1 hsame
    exact ⟨rfl, hbooks.2 rfl, hkeeps _⟩
  finding library symbol hsame := by rw [hbooks.1 hsame]
  closing library hsame := by
    obtain rfl := hbooks.1 hsame
    exact ⟨rfl, hbooks.2 rfl, hkeeps _⟩
  dropping library hsame := by
    obtain rfl := hbooks.1 hsame
    exact ⟨hbooks.2 rfl, hkeeps _⟩

/-- Without leeway every loader does the same. -/
theorem Loader.respects_none (loader : Loader B S L) : loader.Respects .none :=
  loader.respects_of_eq Iff.rfl fun change _ _ hstate => congrArg change hstate

/-- No loader looks at the controllers' state. -/
theorem Loader.respects_anyState (loader : Loader B S L) : loader.Respects .anyState :=
  loader.respects_of_eq Iff.rfl fun _ _ _ _ => trivial

/-! ### Worlds -/

/-- Two worlds differ within the leeway and in their pasts. The same has happened in both since. -/
structure World.Parallel (leeway : Leeway B S) (past past' : List Event)
    (world other : World B S) : Prop where
  /-- The files. -/
  files : world.files = other.files
  /-- The directory for temporary files. -/
  tempDir : world.tempDir = other.tempDir
  /-- The source of names. -/
  names : world.names = other.names
  /-- The books of the loader. -/
  books : leeway.books world.books other.books
  /-- The state of the controllers. -/
  state : leeway.state world.state other.state
  /-- What has happened since the pasts. -/
  events : ∃ added, world.events = past ++ added ∧ other.events = past' ++ added

/-- The same comes of what is done in two worlds, which are parallel then. -/
def World.SameResult {α : Type} (leeway : Leeway B S) (past past' : List Event)
    (first second : α × World B S) : Prop :=
  first.1 = second.1 ∧ first.2.Parallel leeway past past' second.2

variable {leeway : Leeway B S} {past past' : List Event} {world other third : World B S}
  {loader : Loader B S L} {directory? : Option Path} {conn : ConnectionId} {request : LoadRequest}

namespace World

/-- What has happened in parallel worlds can be counted to their pasts. -/
theorem Parallel.level (hsame : world.Parallel leeway past past' other) :
    world.Parallel leeway world.events other.events other :=
  { hsame with events := ⟨[], by simp, by simp⟩ }

/-- Worlds stay parallel when the same is noted in both. -/
theorem Parallel.tell (hsame : world.Parallel leeway past past' other) (event : Event) :
    (world.tell event).Parallel leeway past past' (other.tell event) := by
  obtain ⟨added, hevents, hevents'⟩ := hsame.events
  refine { hsame with events := ⟨added ++ [event], ?_, ?_⟩ }
  · rw [World.tell, hevents, List.append_assoc]
  · rw [World.tell, hevents', List.append_assoc]

/-- Worlds stay parallel when both are given the same files. -/
theorem Parallel.setFiles (hsame : world.Parallel leeway past past' other) (files : FileSystem) :
    { world with files }.Parallel leeway past past' { other with files } :=
  { hsame with files := rfl }

/-- What a loader's work leaves in parallel worlds are parallel worlds. -/
theorem Parallel.settle (hsame : world.Parallel leeway past past' other) {books books' : B}
    {change change' : S → S} (hbooks : leeway.books books books')
    (hkeeps : leeway.Keeps change change') :
    (world.settle books change).Parallel leeway past past' (other.settle books' change') :=
  { hsame with books := hbooks, state := hkeeps hsame.state }

/-- Worlds stay parallel when a private copy is deleted in both. -/
theorem Parallel.discard (hsame : world.Parallel leeway past past' other)
    (copy? : Option PrivateCopy) :
    (world.discard conn copy?).Parallel leeway past past' (other.discard conn copy?) := by
  cases copy? with
  | none => exact hsame
  | some copy =>
    unfold World.discard
    rw [hsame.files]
    exact (hsame.setFiles _).tell _

/-- A private copy depends on nothing that differs in parallel worlds. -/
theorem copyPrivately_parallel (hsame : world.Parallel leeway past past' other) (path : Path) :
    SameResult leeway past past' (world.copyPrivately conn path directory?)
      (other.copyPrivately conn path directory?) := by
  have hcreate : PrivateCopy.create world.files world.names path conn
      (directory?.getD world.tempDir) = PrivateCopy.create other.files other.names path conn
        (directory?.getD other.tempDir) := by
    rw [hsame.files, hsame.names, hsame.tempDir]
  unfold copyPrivately
  rw [hcreate]
  cases PrivateCopy.create other.files other.names path conn (directory?.getD other.tempDir) with
  | error failure => exact ⟨rfl, hsame.tell _⟩
  | ok made => exact ⟨rfl, (hsame.setFiles made.2).tell _⟩

end World

/-! ### Loaders -/

section Loaders

variable (hrespects : loader.Respects leeway)

include hrespects

/-- In parallel worlds a loader opens the same. -/
theorem Loader.open_parallel (hsame : world.Parallel leeway past past' other) (path : Path) :
    World.SameResult leeway past past' (loader.open world path) (loader.open other path) := by
  obtain ⟨hattempt, hbooks, hkeeps⟩ := hrespects.opening world.files path hsame.books
  have hfiles : loader.openLibrary other.files other.books path =
      loader.openLibrary world.files other.books path := by rw [hsame.files]
  unfold Loader.open
  rw [hfiles]
  exact ⟨hattempt, hsame.settle hbooks hkeeps⟩

/-- In parallel worlds a loader finds the same entry point. -/
theorem Loader.resolve_parallel (hsame : world.Parallel leeway past past' other) (library : L)
    (symbol : String) :
    loader.resolve library symbol world = loader.resolve library symbol other :=
  hrespects.finding library symbol hsame.books

/-- Closing a library leaves parallel worlds parallel. -/
theorem Loader.close_parallel (hsame : world.Parallel leeway past past' other) (path : Path)
    (library : L) : (loader.close conn path library world).Parallel leeway past past'
      (loader.close conn path library other) := by
  obtain ⟨hcomplaint, hbooks, hkeeps⟩ := hrespects.closing library hsame.books
  have hshut : (loader.shut library world).Parallel leeway past past'
      (loader.shut library other) := hsame.settle hbooks hkeeps
  have hsaid : loader.complaint? library world = loader.complaint? library other := hcomplaint
  unfold Loader.close
  rw [hsaid]
  cases loader.complaint? library other with
  | none => exact hshut.tell _
  | some reason => exact (hshut.tell _).tell _

/-- Dropping a library leaves parallel worlds parallel. -/
theorem Loader.drop_parallel (hsame : world.Parallel leeway past past' other) (path : Path)
    (library : L) : (loader.drop conn path library world).Parallel leeway past past'
      (loader.drop conn path library other) := by
  obtain ⟨hbooks, hkeeps⟩ := hrespects.dropping library hsame.books
  exact (hsame.settle hbooks hkeeps).tell _

/-! ### Parts of operations -/

/-- Releasing a controller leaves parallel worlds parallel. -/
theorem LoadedController.release_parallel (hsame : world.Parallel leeway past past' other)
    (controller : LoadedController S L) : (controller.release loader conn world).Parallel leeway
      past past' (controller.release loader conn other) :=
  ((Loader.close_parallel hrespects hsame _ controller.library).discard controller.copy?).tell _

namespace Slot

/-- Making room in a slot leaves parallel worlds parallel. -/
theorem vacate_parallel (hsame : world.Parallel leeway past past' other) (slot : Slot S L) :
    (slot.vacate loader conn world).Parallel leeway past past' (slot.vacate loader conn other) := by
  cases slot with
  | loaded controller => exact controller.release_parallel hrespects (hsame.tell _)
  | empty => exact hsame
  | failed path symbol reason => exact hsame

/-- In parallel worlds a slot is unloaded alike. -/
theorem unload_parallel (hsame : world.Parallel leeway past past' other) (slot : Slot S L) :
    World.SameResult leeway past past' (slot.unload loader conn world)
      (slot.unload loader conn other) := by
  cases slot with
  | loaded controller => exact ⟨rfl, controller.release_parallel hrespects hsame⟩
  | empty => exact ⟨rfl, hsame⟩
  | failed path symbol reason => exact ⟨rfl, hsame⟩

omit hrespects in
/-- In parallel worlds a private copy is made alike. -/
theorem copy?_parallel (hsame : world.Parallel leeway past past' other) :
    World.SameResult leeway past past' (copy? loader directory? conn request world)
      (copy? loader directory? conn request other) := by
  unfold copy?
  rw [hsame.files]
  split
  · split
    -- whether a copy is made is decided by the files, which are the same
    · obtain ⟨hresult, hleft⟩ :
          World.SameResult leeway past past' (world.copyPrivately conn request.path directory?)
            (other.copyPrivately conn request.path directory?) :=
        World.copyPrivately_parallel hsame request.path
      generalize world.copyPrivately conn request.path directory? = made at hresult hleft
      generalize other.copyPrivately conn request.path directory? = made' at hresult hleft
      obtain ⟨result, left⟩ := made
      obtain ⟨result', left'⟩ := made'
      cases (hresult : result = result')
      cases result with
      | error reason => exact ⟨rfl, hleft⟩
      | ok copy => exact ⟨rfl, hleft⟩
    · exact ⟨rfl, hsame.tell _⟩
  · exact ⟨rfl, hsame⟩

/-- In parallel worlds an open library is bound alike. -/
theorem bind_parallel (hsame : world.Parallel leeway past past' other)
    (privateCopy? : Option PrivateCopy) (library : L) :
    (bind loader conn request privateCopy? library world).1 =
        (bind loader conn request privateCopy? library other).1
      ∧ World.SameResult leeway past past' (bind loader conn request privateCopy? library world).2
        (bind loader conn request privateCopy? library other).2 := by
  unfold bind
  rw [Loader.resolve_parallel hrespects hsame]
  cases loader.resolve library request.symbol other with
  | done routine => exact ⟨rfl, rfl, hsame.tell _⟩
  | failed reason =>
    exact ⟨rfl, rfl,
      (Loader.close_parallel hrespects (hsame.tell _) _ library).discard privateCopy?⟩
  | panicked message =>
    exact ⟨rfl, rfl,
      (Loader.drop_parallel hrespects (hsame.tell _) _ library).discard privateCopy?⟩

/-- A load into an empty slot comes to the same in parallel worlds. -/
theorem attach_parallel (hsame : world.Parallel leeway past past' other) :
    (attach loader directory? conn request world).1 =
        (attach loader directory? conn request other).1
      ∧ World.SameResult leeway past past' (attach loader directory? conn request world).2
        (attach loader directory? conn request other).2 := by
  unfold attach
  -- the copy, the library and the entry point are the same, one after another
  obtain ⟨hresult, hcopied⟩ : World.SameResult leeway past past'
    (copy? loader directory? conn request world)
    (copy? loader directory? conn request other) := copy?_parallel hsame
  generalize copy? loader directory? conn request world = made at hresult hcopied ⊢
  generalize copy? loader directory? conn request other = made' at hresult hcopied ⊢
  obtain ⟨result, copied⟩ := made
  obtain ⟨result', copied'⟩ := made'
  cases (hresult : result = result')
  cases result with
  | error reason => exact ⟨rfl, rfl, hcopied⟩
  | ok privateCopy? =>
    simp only
    obtain ⟨hattempt, hopened⟩ : World.SameResult leeway past past'
      (loader.open copied (PrivateCopy.openPath privateCopy? request.path))
      (loader.open copied' (PrivateCopy.openPath privateCopy? request.path)) :=
        Loader.open_parallel hrespects hcopied _
    generalize loader.open copied _ = opening at hattempt hopened ⊢
    generalize loader.open copied' _ = opening' at hattempt hopened ⊢
    obtain ⟨attempt, opened⟩ := opening
    obtain ⟨attempt', opened'⟩ := opening'
    cases (hattempt : attempt = attempt')
    cases attempt with
    | done library =>
      exact bind_parallel hrespects (World.Parallel.tell hopened _) privateCopy? library
    | failed reason => exact ⟨rfl, rfl, (World.Parallel.tell hopened _).discard privateCopy?⟩
    | panicked message => exact ⟨rfl, rfl, (World.Parallel.tell hopened _).discard privateCopy?⟩

end Slot

/-- Releasing the controllers of several slots leaves parallel worlds parallel. -/
theorem Registry.releaseFrom_parallel (hsame : world.Parallel leeway past past' other)
    (place : Nat) (slots : List (Slot S L)) :
    (releaseFrom loader place slots world).Parallel leeway past past'
      (releaseFrom loader place slots other) := by
  -- on the slots that are left, in the worlds that the slots before them have left
  induction slots generalizing place world other with
  | nil => exact hsame
  | cons slot rest ih => exact ih (slot.unload_parallel hrespects hsame).2 (place + 1)

end Loaders

/-! ### Operations -/

namespace Registry

variable (registry : Registry B S L) (hrespects : registry.loader.Respects leeway)

section Work

include hrespects

/-- In parallel worlds a registry loads alike. -/
theorem loadWith_parallel (hsame : world.Parallel leeway past past' other) :
    (registry.loadWith conn request world).1 = (registry.loadWith conn request other).1
      ∧ World.SameResult leeway past past' (registry.loadWith conn request world).2
        (registry.loadWith conn request other).2 := by
  unfold loadWith
  cases registry.index conn with
  | error unknown => exact ⟨rfl, rfl, hsame⟩
  | ok index =>
    cases requestFault? request with
    | some error => exact ⟨rfl, rfl, hsame⟩
    | none =>
      have hvacated : ((registry.slot index).vacate registry.loader conn world).Parallel leeway past
          past' ((registry.slot index).vacate registry.loader conn other) :=
        Slot.vacate_parallel hrespects hsame _
      obtain ⟨hresult, hslot, hleft⟩ := @Slot.attach_parallel B S L leeway past past' _ _ _
        registry.settings.copyDir? conn request hrespects hvacated
      exact ⟨hresult, congrArg (registry.setSlot index) hslot, hleft⟩

theorem unload_parallel (hsame : world.Parallel leeway past past' other) :
    (registry.unload conn world).1 = (registry.unload conn other).1
      ∧ World.SameResult leeway past past' (registry.unload conn world).2
        (registry.unload conn other).2 := by
  unfold unload
  cases registry.index conn with
  | error unknown => exact ⟨rfl, rfl, hsame⟩
  | ok index =>
    obtain ⟨hslot, hleft⟩ :=
      @Slot.unload_parallel B S L leeway past past' _ _ _ conn hrespects hsame (registry.slot index)
    exact ⟨rfl, congrArg (registry.setSlot index) hslot, hleft⟩

/-- In parallel worlds a registry is shut down alike. -/
theorem shutDown_parallel (hsame : world.Parallel leeway past past' other) :
    World.SameResult leeway past past' (registry.shutDown world) (registry.shutDown other) := by
  have hreleased := releaseFrom_parallel hrespects hsame 0 registry.slots
  refine ⟨rfl, ?_⟩
  simp only [shutDown]
  split
  · exact hreleased
  · exact hreleased.tell _

end Work

/-! ### Calls -/

section Exact

variable (hexact : leeway.IsExact) (hsame : world.Parallel leeway past past' other)
  (buffers : CallBuffers)

include hexact hsame

/-- Where the state is the same, a call comes to the same. -/
theorem invokeUnchecked_parallel :
    World.SameResult leeway past past' (registry.invokeUnchecked conn buffers world)
      (registry.invokeUnchecked conn buffers other) := by
  unfold invokeUnchecked
  cases registry.index conn with
  | error unknown => exact ⟨rfl, hsame⟩
  | ok index =>
    simp only
    cases registry.slot index with
    | empty => exact ⟨rfl, hsame⟩
    | failed path symbol reason => exact ⟨rfl, hsame⟩
    | loaded controller =>
      have htold := hsame.tell (.calling conn controller.symbol)
      have hstate : world.state = other.state := hexact.1 hsame.state
      simp only [Routine.call_eq, World.tell, hstate]
      exact ⟨rfl, { htold with state := hexact.2 rfl }⟩

/-- In parallel worlds a checked call comes to the same. -/
theorem invoke_parallel :
    World.SameResult leeway past past' (registry.invoke conn buffers world)
      (registry.invoke conn buffers other) := by
  unfold invoke
  cases registry.index conn with
  | error unknown => exact ⟨rfl, hsame⟩
  | ok index =>
    cases buffers.firstEmpty? with
    | some name => exact ⟨rfl, hsame⟩
    | none => exact registry.invokeUnchecked_parallel hexact hsame buffers

omit buffers in
/-- In parallel worlds a payload is handed over alike. -/
theorem invokePayload_parallel (payload : Payload) :
    World.SameResult leeway past past' (registry.invokePayload conn payload world)
      (registry.invokePayload conn payload other) := by
  obtain ⟨hresult, hleft⟩ := @invoke_parallel B S L leeway past past' _ _ conn registry hexact
    (hsame.tell (.payloadBefore conn payload.report)) payload.call
  unfold invokePayload
  generalize registry.invoke conn payload.call (world.tell _) = called at hresult hleft ⊢
  generalize registry.invoke conn payload.call (other.tell _) = called' at hresult hleft ⊢
  obtain ⟨result, left⟩ := called
  obtain ⟨result', left'⟩ := called'
  cases (hresult : result = result')
  cases result with
  | error error => exact ⟨rfl, hleft⟩
  | ok call => exact ⟨rfl, World.Parallel.tell hleft _⟩

end Exact

end Registry

/-! ### Hosts -/

namespace Host

variable {host other third : Host B S L} {operation : Operation}

/-- Two hosts have the same registry, in worlds that differ within the leeway and in what has
happened. -/
structure AreLevel (leeway : Leeway B S) (host other : Host B S L) : Prop where
  /-- The registry. -/
  registry : host.registry = other.registry
  /-- The worlds. -/
  world : host.world.Parallel leeway host.world.events other.world.events other.world

/-- What an operation adds to what has happened. -/
def told (host : Host B S L) (operation : Operation) : List Event :=
  (host.next operation).world.events.drop host.world.events.length

/-- What giving up the registry adds to what has happened. -/
def toldAtEnd (host : Host B S L) : List Event := host.drop.events.drop host.world.events.length

/-- What an operation tells is what it adds to the events. -/
theorem told_of_events (host : Host B S L) (operation : Operation) {added : List Event}
    (hevents : (host.next operation).world.events = host.world.events ++ added) :
    host.told operation = added := by
  rw [told, hevents]
  exact List.drop_left

/-- What giving up the registry tells is what it adds to the events. -/
theorem toldAtEnd_of_events (host : Host B S L) {added : List Event}
    (hevents : host.drop.events = host.world.events ++ added) : host.toldAtEnd = added := by
  rw [toldAtEnd, hevents]
  exact List.drop_left

/-- An operation that calls nothing comes to the same on hosts that are level, and so does a call
where the state is the same. -/
theorem AreLevel.parallel (hrespects : host.registry.loader.Respects leeway)
    (hlevel : host.AreLevel leeway other) (hcall : operation.isCall = true → leeway.IsExact) :
    (host.perform operation).1 = (other.perform operation).1
      ∧ (host.next operation).registry = (other.next operation).registry
      ∧ (host.next operation).world.Parallel leeway host.world.events other.world.events
        (other.next operation).world := by
  obtain ⟨registry, world⟩ := host
  obtain ⟨registry', world'⟩ := other
  obtain ⟨hregistry, hworld⟩ := hlevel
  cases (hregistry : registry = registry')
  -- each part of the registry goes parallel, and the answers are the same
  cases operation with
  | load conn path symbol =>
    obtain ⟨hresult, hleft, hworlds⟩ := registry.loadWith_parallel hrespects hworld
    exact ⟨congrArg Answer.load hresult, hleft, hworlds⟩
  | loadWith conn request =>
    obtain ⟨hresult, hleft, hworlds⟩ := registry.loadWith_parallel hrespects hworld
    exact ⟨congrArg Answer.load hresult, hleft, hworlds⟩
  | unload conn =>
    obtain ⟨hresult, hleft, hworlds⟩ := registry.unload_parallel hrespects hworld
    exact ⟨congrArg Answer.unload hresult, hleft, hworlds⟩
  | shutDown =>
    obtain ⟨hleft, hworlds⟩ := registry.shutDown_parallel hrespects hworld
    exact ⟨rfl, hleft, hworlds⟩
  | status | describe | loadedCount => exact ⟨rfl, rfl, hworld⟩
  | invoke conn buffers =>
    obtain ⟨hresult, hworlds⟩ := registry.invoke_parallel (hcall rfl) hworld buffers
    exact ⟨congrArg Answer.invoke hresult, rfl, hworlds⟩
  | invokeUnchecked conn buffers =>
    obtain ⟨hresult, hworlds⟩ := registry.invokeUnchecked_parallel (hcall rfl) hworld buffers
    exact ⟨congrArg Answer.invoke hresult, rfl, hworlds⟩
  | invokePayload conn payload =>
    obtain ⟨hresult, hworlds⟩ := registry.invokePayload_parallel (hcall rfl) hworld payload
    exact ⟨congrArg Answer.invokePayload hresult, rfl, hworlds⟩

/-- Such an operation also tells the same, and leaves hosts that are level. -/
theorem AreLevel.perform (hrespects : host.registry.loader.Respects leeway)
    (hlevel : host.AreLevel leeway other) (hcall : operation.isCall = true → leeway.IsExact) :
    (host.perform operation).1 = (other.perform operation).1
      ∧ host.told operation = other.told operation
      ∧ (host.next operation).AreLevel leeway (other.next operation) := by
  obtain ⟨hanswer, hregistry, hworld⟩ := hlevel.parallel hrespects hcall
  obtain ⟨added, hevents, hevents'⟩ := hworld.events
  refine ⟨hanswer, ?_, hregistry, hworld.level⟩
  rw [told_of_events host operation hevents, told_of_events other operation hevents']

/-- Giving up the registry comes to the same on hosts that are level. -/
theorem AreLevel.drop (hrespects : host.registry.loader.Respects leeway)
    (hlevel : host.AreLevel leeway other) :
    host.drop.Parallel leeway host.world.events other.world.events other.drop := by
  unfold Host.drop
  rw [← hlevel.registry]
  exact (host.registry.shutDown_parallel hrespects hlevel.world).2

/-- Hosts that are level tell the same when their registries are given up. -/
theorem AreLevel.toldAtEnd (hrespects : host.registry.loader.Respects leeway)
    (hlevel : host.AreLevel leeway other) : host.toldAtEnd = other.toldAtEnd := by
  obtain ⟨added, hevents, hevents'⟩ := (hlevel.drop hrespects).events
  rw [toldAtEnd_of_events host hevents, toldAtEnd_of_events other hevents']

/-- A host is level with itself, if its state is within the leeway of itself. -/
theorem areLevel_refl (host : Host B S L) (hbooks : leeway.books host.world.books host.world.books)
    (hstate : leeway.state host.world.state host.world.state) : host.AreLevel leeway host :=
  ⟨rfl, rfl, rfl, rfl, hbooks, hstate, [], by simp, by simp⟩

/-- A host that differs from another one only in what has happened is level with what that one is
level with. -/
theorem AreLevel.trans (hsame : host.AreLevel .none other) (hlevel : other.AreLevel leeway third) :
    host.AreLevel leeway third := by
  obtain ⟨hregistry, hfiles, htempDir, hnames, hbooks, hstate, -⟩ := hsame
  obtain ⟨hregistry', hworld⟩ := hlevel
  exact ⟨hregistry.trans hregistry', hfiles.trans hworld.files, htempDir.trans hworld.tempDir,
    hnames.trans hworld.names, (show host.world.books = _ from hbooks) ▸ hworld.books,
    (show host.world.state = _ from hstate) ▸ hworld.state, [], by simp, by simp⟩

/-- An operation adds to the events what it tells. -/
theorem events_next (host : Host B S L) (operation : Operation) :
    (host.next operation).world.events = host.world.events ++ host.told operation := by
  -- a host is level with itself, and what has happened since is added to its past
  have hself : host.AreLevel .none host := host.areLevel_refl rfl rfl
  obtain ⟨-, -, hworld⟩ := hself.parallel host.registry.loader.respects_none
    fun _ => Leeway.isExact_none
  obtain ⟨added, hevents, -⟩ := hworld.events
  rw [told_of_events host operation hevents, hevents]

/-- Giving up the registry adds to the events what that tells. -/
theorem events_drop (host : Host B S L) :
    host.drop.events = host.world.events ++ host.toldAtEnd := by
  have hself : host.AreLevel .none host := host.areLevel_refl rfl rfl
  obtain ⟨added, hevents, -⟩ := (hself.drop host.registry.loader.respects_none).events
  rw [toldAtEnd_of_events host hevents, hevents]

/-! ### Calls that only one of two hosts makes -/

/-- A call leaves the slots as they were, and everything in the world but the state and what has
happened. -/
theorem areLevel_of_isCall (hcall : operation.isCall = true) :
    (host.next operation).AreLevel .anyState host := by
  have hunchecked (conn : ConnectionId) (buffers : CallBuffers) {world : World B S}
      (hsame : world.Parallel .anyState world.events host.world.events host.world) :
      let left := (host.registry.invokeUnchecked conn buffers world).2
      left.Parallel .anyState left.events host.world.events host.world := by
    unfold Registry.invokeUnchecked
    cases host.registry.index conn with
    | error unknown => exact hsame
    | ok index =>
      simp only
      cases host.registry.slot index with
      | empty => exact hsame
      | failed path symbol reason => exact hsame
      | loaded controller =>
        exact ⟨hsame.files, hsame.tempDir, hsame.names, hsame.books, trivial, [], by simp,
          by simp⟩
  have hinvoke (conn : ConnectionId) (buffers : CallBuffers) {world : World B S}
      (hsame : world.Parallel .anyState world.events host.world.events host.world) :
      let left := (host.registry.invoke conn buffers world).2
      left.Parallel .anyState left.events host.world.events host.world := by
    unfold Registry.invoke
    cases host.registry.index conn with
    | error unknown => exact hsame
    | ok index =>
      cases buffers.firstEmpty? with
      | some name => exact hsame
      | none => exact hunchecked conn buffers hsame
  have hself : host.world.Parallel .anyState host.world.events host.world.events host.world :=
    (host.areLevel_refl rfl trivial).world
  -- what is told of a call does not matter, before it or after it
  have htell {world : World B S} (event : Event)
      (hsame : world.Parallel .anyState world.events host.world.events host.world) :
      (world.tell event).Parallel .anyState (world.tell event).events host.world.events
        host.world :=
    { hsame with events := ⟨[], by simp, by simp⟩ }
  cases operation with
  | invoke conn buffers => exact ⟨rfl, hinvoke conn buffers hself⟩
  | invokeUnchecked conn buffers => exact ⟨rfl, hunchecked conn buffers hself⟩
  | invokePayload conn payload =>
    have hcalled := hinvoke conn payload.call (htell (.payloadBefore conn payload.report) hself)
    refine ⟨rfl, ?_⟩
    simp only [next, Host.perform, Registry.invokePayload]
    generalize host.registry.invoke conn payload.call _ = called at hcalled ⊢
    obtain ⟨result, left⟩ := called
    cases result with
    | error error => exact hcalled
    | ok call => exact htell _ hcalled
  | _ => cases hcall

/-- A call on one of two hosts keeps them level. -/
theorem AreLevel.call (hlevel : host.AreLevel .anyState other) (hcall : operation.isCall = true) :
    (host.next operation).AreLevel .anyState other := by
  obtain ⟨hregistry, hworld⟩ := @areLevel_of_isCall B S L host operation hcall
  exact ⟨hregistry.trans hlevel.registry, hworld.files.trans hlevel.world.files,
    hworld.tempDir.trans hlevel.world.tempDir, hworld.names.trans hlevel.world.names,
    Eq.trans hworld.books hlevel.world.books, trivial, [], by simp, by simp⟩

end Host

end ControllerHost
