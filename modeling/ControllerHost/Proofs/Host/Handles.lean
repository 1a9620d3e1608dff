import ControllerHost.Controller.Samples
import ControllerHost.Proofs.Catalog.Loading
import ControllerHost.Proofs.Host.Step
import ControllerHost.Proofs.Slot.Events

/-!
# The count of open libraries

The host's own catalog counts how many of its libraries are open and how often it has opened one.
This file shows that the counts are never off, through whichever exit a load leaves: as many
libraries are open as connections are loaded, and no library is closed that is not open.

- `Event.handles?`, `Event.handlesAfter?`: the number of open libraries, as events tell it. Closing
  has no result when no library is open.
- `Loader.Tallies`: what a loader that counts does to its tally.
- `World.Balanced`: the events and the tally agree on a number.
- `World.Balanced.vacate`, `World.Balanced.attach`: what making room and a load do to the number.
- `Host.Accounted`, `Host.Accounted.change`: it is the number of loaded connections.
- `Host.openings`: the loads of a run whose library was opened.
- `Host.handles_after_and_drop`: the counts after every run.
-/

namespace ControllerHost

variable {B S L : Type}

/-! ### Counting by events -/

/-- The number of open libraries after an event, given the number before it. Closing has no result
when no library is open. -/
def Event.handles? (count : Nat) : Event → Option Nat
  | opened _ _ _ => some (count + 1)
  | closed _ _ _ =>
    match count with
    | 0 => none
    | count + 1 => some count
  | _ => some count

/-- The number of open libraries after several events, given the number before them. -/
def Event.handlesAfter? (count : Nat) (events : List Event) : Option Nat :=
  events.foldlM Event.handles? count

@[simp]
theorem Event.handlesAfter?_nil (count : Nat) : Event.handlesAfter? count [] = some count := rfl

@[simp]
theorem Event.handlesAfter?_cons (count : Nat) (event : Event) (rest : List Event) :
    Event.handlesAfter? count (event :: rest) =
      (event.handles? count).bind fun count => Event.handlesAfter? count rest := rfl

/-- Counting through two stretches of events is counting through the first and on from there. -/
theorem Event.handlesAfter?_append (count : Nat) (first second : List Event) :
    Event.handlesAfter? count (first ++ second) =
      (Event.handlesAfter? count first).bind fun count => Event.handlesAfter? count second := by
  simp [handlesAfter?, List.foldlM_append, bind]

/-- Remarks open and close nothing. -/
theorem Event.handlesAfter?_of_isRemark {events : List Event}
    (hremarks : ∀ event ∈ events, event.isRemark) (count : Nat) :
    Event.handlesAfter? count events = some count := by
  induction events with
  | nil => rfl
  | cons event rest ih =>
    have hevent : event.isRemark := hremarks event (by simp)
    have hrest := ih fun event hmem => hremarks event (by simp [hmem])
    cases event <;> first | exact hrest | cases hevent

/-- Closing a library ends one, whatever the loader says about that. -/
theorem Loader.handlesAfter?_closing (loader : Loader B S L) (conn : ConnectionId) (path : Path)
    (complaint? : Option String) (count : Nat) :
    Event.handlesAfter? (count + 1) (loader.closing conn path complaint?) = some count := by
  cases complaint? <;> rfl

/-- Deleting a copy opens and closes nothing. -/
theorem PrivateCopy.handlesAfter?_deletion (conn : ConnectionId) (copy? : Option PrivateCopy)
    (count : Nat) : Event.handlesAfter? count (deletion conn copy?) = some count := by
  cases copy? <;> rfl

/-- Releasing a controller ends one open library. -/
theorem LoadedController.handlesAfter?_parting (controller : LoadedController S L)
    (loader : Loader B S L) (conn : ConnectionId) (complaint? : Option String) (count : Nat) :
    Event.handlesAfter? (count + 1) (controller.parting loader conn complaint?) = some count := by
  rw [parting, Event.handlesAfter?_append, Event.handlesAfter?_append,
    Loader.handlesAfter?_closing]
  simp [PrivateCopy.handlesAfter?_deletion, Event.handles?]

/-- The number of libraries that a slot keeps open. -/
def Slot.handles (slot : Slot S L) : Nat := if slot.isLoaded then 1 else 0

@[simp]
theorem Slot.handles_empty : (Slot.empty : Slot S L).handles = 0 := rfl

@[simp]
theorem Slot.handles_failed (path : Path) (symbol reason : String) :
    (Slot.failed path symbol reason : Slot S L).handles = 0 := rfl

/-- A loaded slot holds one library. -/
@[simp]
theorem Slot.handles_loaded (controller : LoadedController S L) :
    (Slot.loaded controller).handles = 1 := rfl

/-- Preparing a path opens and closes nothing. -/
theorem Slot.Prepared.handlesAfter? {conn : ConnectionId} {request : LoadRequest}
    {copy? : Option PrivateCopy} {first : List Event}
    (hfirst : Slot.Prepared conn request copy? first) (count : Nat) :
    Event.handlesAfter? count first = some count := by
  cases hfirst <;> rfl

/-- A load into an empty slot opens as many libraries more than it closes as the slot keeps open in
the end. -/
theorem Slot.Story.handlesAfter? {loader : Loader B S L} {conn : ConnectionId}
    {request : LoadRequest} {outcome : LoadOutcome} {slot : Slot S L} {added : List Event}
    (hstory : Slot.Story loader conn request outcome slot added) (count : Nat) :
    Event.handlesAfter? count added = some (count + slot.handles) := by
  -- only the exits that opened the library have one to close, and all but one do close it
  cases hstory with
  | notCopied => rfl
  | notOpened hfirst | openPanicked hfirst | resolvePanicked hfirst =>
    simp [Event.handlesAfter?_append, hfirst.handlesAfter?, PrivateCopy.handlesAfter?_deletion,
      Event.handles?]
  | notResolved hfirst =>
    simp [Event.handlesAfter?_append, hfirst.handlesAfter?, Loader.handlesAfter?_closing,
      PrivateCopy.handlesAfter?_deletion, Event.handles?]
  | bound hfirst =>
    simp [Event.handlesAfter?_append, hfirst.handlesAfter?, Event.handles?]

/-! ### The loader's tally -/

/-- A loader counts in its tally what it opens and what it closes or drops, and nothing else. -/
structure Loader.Tallies (loader : Loader Tally S L) : Prop where
  /-- A library that is opened is counted. -/
  opened : ∀ {world left : World Tally S} {path library},
    loader.open world path = (.done library, left) → left.books = world.books.openOne
  /-- An attempt that fails is not. -/
  notOpened : ∀ {world left : World Tally S} {path reason},
    loader.open world path = (.failed reason, left) → left.books = world.books
  /-- Neither is one that is given up. -/
  openPanicked : ∀ {world left : World Tally S} {path message},
    loader.open world path = (.panicked message, left) → left.books = world.books
  /-- A library that is closed is counted. -/
  shut : ∀ library (world : World Tally S),
    (loader.shut library world).books = world.books.closeOne
  /-- So is one that is dropped. -/
  abandon : ∀ library (world : World Tally S),
    (loader.abandon library world).books = world.books.closeOne

/-- A catalog's loader counts, however it misbehaves. -/
theorem Catalog.tallies_loader (catalog : Catalog S) (faults : Faults) :
    (catalog.loader faults).Tallies where
  opened hopen := by rw [left_of_done faults hopen]
  notOpened hopen := by rw [left_of_not_done faults hopen (by simp)]
  openPanicked hopen := by rw [left_of_not_done faults hopen (by simp)]
  shut _ _ := rfl
  abandon _ _ := rfl

/-- The events say that a number of libraries are open, and so does the loader's tally. -/
structure World.Balanced (world : World Tally S) (count : Nat) : Prop where
  /-- No library was closed that was not open, and this many are open still. -/
  told : Event.handlesAfter? 0 world.events = some count
  /-- The tally. -/
  counted : world.books.openHandles = count

section Balance

variable {loader : Loader Tally S L} {directory? : Option Path} {conn : ConnectionId}
  {request : LoadRequest} {world left : World Tally S} {count next : Nat}

/-- A world is balanced again if as much is added to its count as its events tell. -/
theorem World.Balanced.tells (hbalanced : world.Balanced count) {added : List Event}
    (hevents : left.events = world.events ++ added)
    (hadded : Event.handlesAfter? count added = some next)
    (hcounted : left.books.openHandles = world.books.openHandles + next - count) :
    left.Balanced next where
  told := by
    rw [hevents, Event.handlesAfter?_append, hbalanced.told]
    exact hadded
  counted := by
    rw [hcounted, hbalanced.counted]
    omega

/-- Releasing a controller takes one library from the count. -/
theorem World.Balanced.release (htallies : loader.Tallies) (hbalanced : world.Balanced (count + 1))
    (controller : LoadedController S L) :
    (controller.release loader conn world).Balanced count := by
  have hshut := htallies.shut controller.library world
  rw [LoadedController.release_eq]
  refine hbalanced.tells rfl (controller.handlesAfter?_parting loader conn _ count) ?_
  simp [hshut, Tally.closeOne]
  omega

/-- Making room takes what the slot keeps open from the count. -/
theorem World.Balanced.vacate (htallies : loader.Tallies) {slot : Slot S L}
    (hbalanced : world.Balanced (count + slot.handles)) :
    (slot.vacate loader conn world).Balanced count := by
  cases slot with
  | empty => exact hbalanced
  | failed path symbol reason => exact hbalanced
  | loaded controller =>
    -- what is said before the release does not count
    have hreplacing : (world.tell (.replacing conn controller.path)).Balanced (count + 1) :=
      hbalanced.tells rfl rfl (by simp [World.tell])
    exact hreplacing.release htallies controller

/-- What a load into an empty slot does to the tally: what the slot keeps open is counted as open,
and an open is counted if there was one. -/
theorem Slot.Attached.tally (htallies : loader.Tallies) {outcome : LoadOutcome} {slot : Slot S L}
    (hexit : Slot.Attached loader directory? conn request world outcome slot left) :
    left.books.openHandles = world.books.openHandles + slot.handles
      ∧ left.books.opens = world.books.opens + if outcome.opened then 1 else 0 := by
  -- up to the attempt the tally is untouched, and what is opened and not kept is closed
  cases hexit with
  | notCopied hcopy => simp [hcopy.books, LoadOutcome.opened]
  | notOpened hcopy hopen =>
    simp [World.discard_eq, World.tell, htallies.notOpened hopen, hcopy.books, LoadOutcome.opened]
  | openPanicked hcopy hopen =>
    simp [World.discard_eq, World.tell, htallies.openPanicked hopen, hcopy.books,
      LoadOutcome.opened]
  | notResolved hcopy hopen hresolve =>
    simp [World.discard_eq, Loader.close_eq, World.tell, htallies.shut, htallies.opened hopen,
      hcopy.books, Tally.openOne, Tally.closeOne, LoadOutcome.opened]
  | resolvePanicked hcopy hopen hresolve =>
    simp [World.discard_eq, Loader.drop, World.tell, htallies.abandon, htallies.opened hopen,
      hcopy.books, Tally.openOne, Tally.closeOne, LoadOutcome.opened]
  | bound hcopy hopen hresolve =>
    simp [World.tell, htallies.opened hopen, hcopy.books, Tally.openOne, LoadOutcome.opened]

/-- A load into an empty slot adds what the slot keeps open to the count. -/
theorem World.Balanced.attach (htallies : loader.Tallies) (hbalanced : world.Balanced count)
    {outcome : LoadOutcome} {slot : Slot S L}
    (hexit : Slot.Attached loader directory? conn request world outcome slot left) :
    left.Balanced (count + slot.handles) := by
  obtain ⟨added, hevents, hstory⟩ := hexit.story
  refine hbalanced.tells hevents (hstory.handlesAfter? count) ?_
  rw [(hexit.tally htallies).1]
  omega

end Balance

/-! ### A host's count -/

/-- Another slot in a table changes how many slots have a property by the difference between the
two. -/
theorem Registry.countP_setSlot {registry : Registry B S L} {index : Nat}
    (hindex : index < registry.capacity) (p : Slot S L → Bool) (slot : Slot S L) :
    (registry.setSlot index slot).slots.countP p + (p (registry.slot index)).toNat =
      registry.slots.countP p + (p slot).toNat := by
  have hlength : index < registry.slots.length := hindex
  have hslot : registry.slot index = registry.slots[index] := by simp [Registry.slot, hlength]
  -- if the old slot has the property it is one of those that are counted, so that none is taken too
  -- many
  have hle := List.boole_getElem_le_countP (p := p) hlength
  have htoNat (b : Bool) : b.toNat = if b then 1 else 0 := by cases b <;> rfl
  rw [hslot, setSlot, List.countP_set hlength, htoNat, htoNat]
  omega

/-- Another slot in a table changes the number of loaded ones by the difference between the two. -/
theorem Registry.loadedCount_setSlot {registry : Registry B S L} {index : Nat}
    (hindex : index < registry.capacity) (slot : Slot S L) :
    (registry.setSlot index slot).loadedCount + (registry.slot index).handles =
      registry.loadedCount + slot.handles := by
  have hhandles (slot : Slot S L) : slot.handles = slot.isLoaded.toNat := by
    cases slot <;> rfl
  rw [hhandles, hhandles]
  exact registry.countP_setSlot hindex Slot.isLoaded slot

/-- Emptying a slot takes what it held from the count. -/
theorem Registry.loadedCount_setSlot_empty {registry : Registry B S L} {index : Nat}
    (hindex : index < registry.capacity) :
    registry.loadedCount =
      (registry.setSlot index .empty).loadedCount + (registry.slot index).handles :=
  (Registry.loadedCount_setSlot hindex .empty).symm

namespace Host

/-- As many libraries are open as connections are loaded. -/
def Accounted (host : Host Tally S L) : Prop := host.world.Balanced host.registry.loadedCount

/-- A host that has just started with a new tally has nothing to account for. -/
theorem accounted_start (loader : Loader Tally S L) (settings : Settings) (world : World Tally S) :
    (start loader settings { world with books := {} }).Accounted := by
  have hcount : (start loader settings { world with books := {} }).registry.loadedCount = 0 := by
    simp [start, Registry.create, Registry.loadedCount, List.countP_replicate, Slot.isLoaded,
      Slot.status]
  rw [Accounted, hcount]
  exact ⟨rfl, rfl⟩

variable {host left : Host Tally S L} {load? : Option (ConnectionId × LoadRequest)}

/-- Every change keeps the account. -/
theorem Accounted.change (htallies : host.registry.loader.Tallies) (hbalanced : host.Accounted)
    (hchange : Change host load? left) : left.Accounted := by
  unfold Accounted at hbalanced ⊢
  cases hchange with
  | remarked hremarks =>
    exact hbalanced.tells rfl (Event.handlesAfter?_of_isRemark hremarks _) (by simp [World.tells])
  | @called conn index controller buffers before after hindex hslot hbefore hafter =>
    have hcalling : Event.handlesAfter? host.registry.loadedCount
        (before ++ .calling conn controller.symbol :: after) = some host.registry.loadedCount := by
      rw [Event.handlesAfter?_append, Event.handlesAfter?_of_isRemark hbefore]
      exact Event.handlesAfter?_of_isRemark hafter _
    exact hbalanced.tells (by simp [Routine.call_eq, World.tells, World.tell]) hcalling
      (by simp [Routine.call_eq, World.tells, World.tell])
  | @loaded conn request index slot left hindex hexit =>
    have hlt := (ConnectionId.index?_eq_some_iff.1 hindex).2
    -- once the slot is released, the count is that of the table with nothing in its place
    have hwithout := Registry.loadedCount_setSlot_empty hlt
    rw [hwithout] at hbalanced
    have hreleased : (host.released conn).Balanced
        (host.registry.setSlot index .empty).loadedCount := by
      rw [released, slotOf_of_index? hindex]
      exact hbalanced.vacate htallies
    have hattached := hreleased.attach htallies hexit
    have hwith := Registry.loadedCount_setSlot hlt slot
    rw [hwithout, Nat.add_right_comm] at hwith
    rwa [← Nat.add_right_cancel hwith] at hattached
  | @unloaded place controller hplace hslot =>
    -- one slot fewer is loaded, and one library fewer is open
    rw [Registry.loadedCount_setSlot_empty hplace, hslot] at hbalanced
    exact hbalanced.release htallies controller
  | @forgotten place hplace hslot =>
    have hhandles : (host.registry.slot place).handles = 0 := by simp [Slot.handles, hslot]
    rwa [Registry.loadedCount_setSlot_empty hplace, hhandles] at hbalanced

/-! ### Opens -/

/-- Whether an operation is a load whose library is opened. -/
def opens (host : Host B S L) (operation : Operation) : Bool :=
  (host.accepted? operation).any fun (conn, request) => (host.outcome conn request).opened

/-- The number of the operations of a run that are loads whose library is opened. -/
def openings (host : Host B S L) : List Operation → Nat
  | [] => 0
  | operation :: rest =>
    (if host.opens operation then 1 else 0) + (host.next operation).openings rest

/-- Making room opens nothing. -/
theorem opens_released (htallies : host.registry.loader.Tallies) (conn : ConnectionId) :
    (host.released conn).books.opens = host.world.books.opens := by
  unfold released Slot.vacate
  split
  · simp [LoadedController.release_eq, htallies.shut, World.tell, Tally.closeOne]
  · rfl

/-- A change adds one to the count of opens if it is a load whose library is opened. -/
theorem Change.opens (htallies : host.registry.loader.Tallies)
    (hchange : Change host load? left) :
    left.world.books.opens = host.world.books.opens
      + if load?.any fun (conn, request) => (host.outcome conn request).opened then 1 else 0 := by
  cases hchange with
  | remarked hremarks => simp [World.tells]
  | called hindex hslot hbefore hafter => simp [Routine.call_eq, World.tells, World.tell]
  | loaded hindex hexit =>
    have hopens := (hexit.tally htallies).2
    rwa [opens_released htallies] at hopens
  | unloaded hplace hslot => simp [LoadedController.release_eq, htallies.shut, Tally.closeOne]
  | forgotten hplace hslot => simp

/-- Changes that are no loads open nothing. -/
theorem Changes.opens (htallies : host.registry.loader.Tallies) (hchanges : Changes host left) :
    left.world.books.opens = host.world.books.opens := by
  induction hchanges with
  | nothing => rfl
  | @more host middle left hchange hrest ih =>
    rw [ih (by rwa [hchange.constants.1]), hchange.opens htallies]
    rfl

/-- An operation adds one to the count of opens if it opens a library. -/
theorem opens_next (htallies : host.registry.loader.Tallies) (operation : Operation) :
    (host.next operation).world.books.opens =
      host.world.books.opens + if host.opens operation then 1 else 0 := by
  rcases host.change operation with hchange | ⟨haccepted, hchanges⟩
  · exact hchange.opens htallies
  -- the shutdown makes several changes, and none of them is a load
  · rw [hchanges.opens htallies]
    simp [opens, haccepted]

/-- After a run the loads whose library was opened have been counted. -/
theorem opens_after (htallies : host.registry.loader.Tallies) (operations : List Operation) :
    (host.after operations).world.books.opens =
      host.world.books.opens + host.openings operations := by
  -- on the run, for whatever has been counted when it begins
  induction operations generalizing host with
  | nil => rfl
  | cons operation rest ih =>
    have hloader := (host.after_constants [operation]).1
    rw [after_cons, ih (by rwa [← hloader] at htallies), opens_next htallies, openings,
      Nat.add_assoc]

/-- **The counts of open libraries are never off.** After every run over a new loader of a catalog,
well behaved or not, as many libraries are open as connections are loaded, and as many opens have
been counted as there were loads whose library was opened. No library is closed when none is open,
neither in the run nor when the host gives up its registry, and then none is open any more. -/
theorem handles_after_and_drop (catalog : Catalog S) (faults : Faults) (settings : Settings)
    (world : World Tally S) (operations : List Operation) :
    let start := Host.start (catalog.loader faults) settings { world with books := {} }
    let host := start.after operations
    host.world.books.openHandles = host.registry.loadedCount
      ∧ host.world.books.opens = start.openings operations
      ∧ Event.handlesAfter? 0 host.world.events = some host.registry.loadedCount
      ∧ host.drop.books.openHandles = 0
      ∧ Event.handlesAfter? 0 host.drop.events = some 0 := by
  intro start host
  have htallies : start.registry.loader.Tallies := catalog.tallies_loader faults
  -- the loader is the same in all of the run, and so it counts all the time
  let motive (left : Host Tally S (Exports S)) : Prop :=
    left.registry.loader = start.registry.loader ∧ left.Accounted
  have hkept {middle left : Host Tally S (Exports S)}
      {load? : Option (ConnectionId × LoadRequest)} (hmiddle : motive middle)
      (hchange : Change middle load? left) : motive left :=
    ⟨hchange.constants.1.trans hmiddle.1, hmiddle.2.change (hmiddle.1 ▸ htallies) hchange⟩
  have hhost : motive host :=
    after_of_change hkept ⟨rfl, accounted_start _ settings world⟩ operations
  -- giving up the registry is a shutdown, and a table without loaded slots is left
  have hdrop : host.emptied.world.Balanced 0 := by
    have hemptied := (emptied_of_change hkept hhost).2
    rwa [Accounted, emptied, Registry.loadedCount_shutDown] at hemptied
  have hopens := opens_after htallies operations
  refine ⟨hhost.2.counted, ?_, hhost.2.told, hdrop.counted, hdrop.told⟩
  rw [hopens]
  exact Nat.zero_add _

/-- A catalog that complains about every library that it has closed, and that gives up at one path.
Two connections are loaded, one of them is loaded again without success, and then the catalog gives
up. -/
theorem handles_after_complaints :
    let catalog : Catalog Nat := Catalog.register {} (.ofText "ctrl") "DISCON" .tally
    let faults : Faults :=
      { openPanic? := fun path => if path.shown = "gone" then some "gone" else none
        complaint? := some "complaint" }
    let operations : List Operation :=
      [.load 0 (.ofText "ctrl") "DISCON", .load 1 (.ofText "ctrl") "DISCON",
        .load 0 (.ofText "ctrl") "absent", .load 0 (.ofText "gone") "DISCON"]
    let host := (Host.start (catalog.loader faults) { maxConnections := 2 }
      { tempDir := .ofText "/tmp", books := {}, state := 0 }).after operations
    host.world.books.openHandles = host.registry.loadedCount
      ∧ host.world.books.openHandles = 1 ∧ host.world.books.opens = 3
      ∧ host.drop.books.openHandles = 0 := by
  have hrun := handles_after_and_drop (Catalog.register {} (.ofText "ctrl") "DISCON" .tally)
    { openPanic? := fun path => if path.shown = "gone" then some "gone" else none
      complaint? := some "complaint" }
    { maxConnections := 2 } { tempDir := .ofText "/tmp", books := {}, state := 0 }
    [.load 0 (.ofText "ctrl") "DISCON", .load 1 (.ofText "ctrl") "DISCON",
      .load 0 (.ofText "ctrl") "absent", .load 0 (.ofText "gone") "DISCON"]
  refine ⟨hrun.1, ?_, ?_, hrun.2.2.2.1⟩
  · decide +kernel
  · decide +kernel

end Host

end ControllerHost
