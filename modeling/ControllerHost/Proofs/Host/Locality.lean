import ControllerHost.Proofs.Host.Handles
import ControllerHost.Proofs.Host.Machine
import ControllerHost.Proofs.Session.Basic

/-!
# Operations on one connection

An operation that is addressed to a connection leaves the slots of all other connections alone. Over
a catalog whose routines depend on their buffers only, it does not depend on anything else either:
what it answers, and what it leaves in the connection's slot, is settled by that slot.

- `Catalog.IsPure`, `Loader.OffersPure`: catalogs of such routines, and their loaders.
- `Slot.attach_congr`: loads from a catalog.
- `Host.slot_next_of_conn?`: the other connections' slots.
- `Host.IsPure`, `Host.Alike`: the hosts that have loaded from such a catalog, and hosts that
  differ in their slots and worlds only.
- `Host.perform_congr`: such hosts do the same on a connection for which they have the same slot.
-/

namespace ControllerHost

variable {B S L : Type} {directory? : Option Path} {conn : ConnectionId} {request : LoadRequest}

/-- A payload comes back with the buffers that the call on them has left. -/
theorem Registry.fst_invokePayload (registry : Registry B S L) (conn : ConnectionId)
    (payload : Payload) (world : World B S) : (registry.invokePayload conn payload world).1 =
      (registry.invoke conn payload.call
        (world.tell (.payloadBefore conn payload.report))).1.map fun call =>
          { payload with call } := by
  unfold invokePayload
  generalize registry.invoke conn payload.call _ = outcome
  obtain ⟨result, world⟩ := outcome
  cases result <;> rfl

/-! ### Catalogs of pure routines -/

/-- What the routines of a catalog leave in their buffers depends on these only. -/
def Catalog.IsPure (catalog : Catalog S) : Prop :=
  ∀ entry ∈ catalog.entries, ∀ offer ∈ entry.2, offer.2.IsPure

/-- A loader is that of a catalog, well behaved or not, whose routines depend on their buffers
only. -/
def Loader.OffersPure (loader : Loader Tally S (Exports S)) : Prop :=
  ∃ catalog faults, loader = Catalog.loader catalog faults ∧ catalog.IsPure

/-- If a slot holds a controller, this depends on its buffers only. -/
def Slot.IsPure (slot : Slot S L) : Prop :=
  ∀ controller, slot = .loaded controller → controller.routine.IsPure

/-- An empty slot has no routine. -/
theorem Slot.isPure_empty : (Slot.empty : Slot S L).IsPure := by
  intro controller hslot
  cases hslot

/-- A catalog without entries offers nothing but pure routines. -/
theorem Catalog.isPure_empty : (⟨[]⟩ : Catalog S).IsPure := by
  simp [IsPure]

/-- With one more pure routine a catalog offers nothing but pure routines. -/
theorem Catalog.IsPure.register {catalog : Catalog S} (hcatalog : catalog.IsPure) (path : Path)
    (symbol : String) {routine : Routine S} (hroutine : routine.IsPure) :
    (catalog.register path symbol routine).IsPure := by
  obtain ⟨entries⟩ := catalog
  unfold IsPure at hcatalog ⊢
  simp only [Catalog.register] at hcatalog ⊢
  -- on the entries up to the one with that path, if there is one
  induction entries with
  | nil => simpa [registerIn] using hroutine
  | cons entry rest ih =>
    obtain ⟨listed, exports⟩ := entry
    rw [List.forall_mem_cons] at hcatalog
    obtain ⟨hexports, hrest⟩ := hcatalog
    rw [registerIn]
    split
    · exact List.forall_mem_cons.2 ⟨List.forall_mem_cons.2 ⟨hroutine, hexports⟩, hrest⟩
    · exact List.forall_mem_cons.2 ⟨hexports, ih hrest⟩

/-- What is found in a catalog of pure routines is pure. -/
theorem Catalog.IsPure.lookup {catalog : Catalog S} (hcatalog : catalog.IsPure)
    {path : Path} {exports : Exports S} (hfind : catalog.find? path = some exports)
    {symbol : String} {routine : Routine S}
    (hlookup : exports.lookup symbol = some routine) : routine.IsPure := by
  obtain ⟨entry, hentry, rfl⟩ := Option.map_eq_some_iff.1 hfind
  obtain ⟨front, back, hexports, -⟩ := List.lookup_eq_some_iff.1 hlookup
  have hoffer : (symbol, routine) ∈ entry.2 := by simp [hexports]
  exact hcatalog entry (List.mem_of_find?_eq_some hentry) _ hoffer

section Loads

variable {loader : Loader Tally S (Exports S)} {world left : World Tally S}

/-- What a catalog of pure routines opens resolves to pure routines. -/
theorem Loader.OffersPure.resolve (hloader : loader.OffersPure) {path : Path}
    {library : Exports S} {symbol : String} {routine : Routine S}
    (hopen : loader.open world path = (.done library, left))
    (hresolve : loader.resolve library symbol left = .done routine) : routine.IsPure := by
  obtain ⟨catalog, faults, rfl, hcatalog⟩ := hloader
  obtain ⟨hfind, -⟩ := Catalog.listed_of_done faults hopen
  exact hcatalog.lookup hfind (Catalog.lookup_of_done faults hresolve)

/-- A load from a catalog of pure routines leaves a pure routine in the slot, if any. -/
theorem Slot.Attached.isPure (hloader : loader.OffersPure) {outcome : LoadOutcome}
    {slot : Slot S (Exports S)}
    (hexit : Slot.Attached loader directory? conn request world outcome slot left) :
    slot.IsPure := by
  intro controller hslot
  cases hexit with
  | bound hcopy hopen hresolve =>
    cases hslot
    exact hloader.resolve hopen hresolve
  | notCopied | notOpened | openPanicked | notResolved | resolvePanicked => cases hslot

/-! ### Loads from a catalog -/

/-- The loader of a catalog copies no files. -/
theorem Loader.OffersPure.isFileBacked (hloader : loader.OffersPure) :
    loader.isFileBacked = false := by
  obtain ⟨catalog, faults, rfl, -⟩ := hloader
  rfl

/-- The loader of a catalog counts what is open. -/
theorem Loader.OffersPure.tallies (hloader : loader.OffersPure) : loader.Tallies := by
  obtain ⟨catalog, faults, rfl, -⟩ := hloader
  exact catalog.tallies_loader faults

/-- What a catalog opens is settled by the path. -/
theorem Loader.OffersPure.open_congr (hloader : loader.OffersPure) (world other : World Tally S)
    (path : Path) : (loader.open world path).1 = (loader.open other path).1 := by
  obtain ⟨catalog, faults, rfl, -⟩ := hloader
  cases hpanic : faults.openPanic? path with
  | some message =>
    rw [Catalog.open_of_panic faults hpanic, Catalog.open_of_panic faults hpanic]
  | none =>
    cases hfind : catalog.find? path with
    | none =>
      rw [Catalog.open_of_none faults hpanic hfind, Catalog.open_of_none faults hpanic hfind]
    | some exports =>
      rw [Catalog.open_of_some faults hpanic hfind, Catalog.open_of_some faults hpanic hfind]

/-- What a catalog's loader finds in a library is settled by the library. -/
theorem Loader.OffersPure.resolve_congr (hloader : loader.OffersPure)
    (world other : World Tally S) (library : Exports S) (symbol : String) :
    loader.resolve library symbol world = loader.resolve library symbol other := by
  obtain ⟨catalog, faults, rfl, -⟩ := hloader
  rfl

/-- A loader without files makes no private copies. -/
theorem Slot.copy?_of_isFileBacked {loader : Loader B S L} (hmemory : loader.isFileBacked = false)
    (world : World B S) : copy? loader directory? conn request world = (.ok none, world) := by
  simp [copy?, hmemory]

/-- What a load from a catalog comes to, and what it leaves in an empty slot, is settled by the
request. -/
theorem Slot.attach_congr (hloader : loader.OffersPure) (world other : World Tally S) :
    (attach loader directory? conn request world).1 =
        (attach loader directory? conn request other).1
      ∧ (attach loader directory? conn request world).2.1 =
        (attach loader directory? conn request other).2.1 := by
  have hopen := hloader.open_congr world other request.path
  simp only [attach, copy?_of_isFileBacked hloader.isFileBacked, PrivateCopy.openPath,
    Option.map_none, Option.getD_none]
  generalize loader.open world request.path = first at hopen ⊢
  generalize loader.open other request.path = second at hopen ⊢
  obtain ⟨attempt, world⟩ := first
  obtain ⟨attempt', other⟩ := second
  obtain rfl : attempt = attempt' := hopen
  cases attempt with
  | failed | panicked => exact ⟨rfl, rfl⟩
  | done library =>
    simp only [bind]
    rw [hloader.resolve_congr _ (other.tell (.opened conn request.path loader.isLogged))]
    cases loader.resolve library request.symbol
      (other.tell (.opened conn request.path loader.isLogged)) <;> exact ⟨rfl, rfl⟩

/-- Whether a load from a catalog opens its library is settled by the request. -/
theorem Loader.OffersPure.opened_congr (hloader : loader.OffersPure)
    (world other : World Tally S) :
    (loader.outcome directory? conn request world).opened =
      (loader.outcome directory? conn request other).opened := by
  have hopen := hloader.open_congr world other request.path
  simp only [outcome, Slot.copy?_of_isFileBacked hloader.isFileBacked, LoadRequest.openPath,
    PrivateCopy.openPath, Option.map_none, Option.getD_none]
  generalize loader.open world request.path = first at hopen ⊢
  generalize loader.open other request.path = second at hopen ⊢
  obtain ⟨attempt, world⟩ := first
  obtain ⟨attempt', other⟩ := second
  obtain rfl : attempt = attempt' := hopen
  cases attempt with
  | failed | panicked => rfl
  | done library =>
    -- what is opened is opened, whatever is found in it
    dsimp only
    cases loader.resolve library request.symbol world <;>
      cases loader.resolve library request.symbol other <;> rfl

end Loads

/-- Registries of one size with the same slot at each place have the same table. -/
theorem Registry.slots_ext {registry other : Registry B S L}
    (hcapacity : registry.capacity = other.capacity)
    (hslot : ∀ place < registry.capacity, registry.slot place = other.slot place) :
    registry.slots = other.slots := by
  apply List.ext_getElem hcapacity
  intro place hplace hplace'
  have hsame := hslot place hplace
  simpa [Registry.slot, hplace, hplace'] using hsame

namespace Host

/-! ### Other connections -/

section OtherConnections

variable {host : Host B S L} {operation : Operation}

/-- An operation on a connection changes the slot at its place at most. -/
theorem slot_next_of_conn? {place : Nat} (hconn : operation.conn? = some conn)
    (hplace : conn.index? host.registry.capacity ≠ some place) :
    (host.next operation).registry.slot place = host.registry.slot place := by
  apply slot_next_of_input?
  cases operation with
  | load | loadWith | unload =>
    cases hconn
    simp [input?, loadInput?, hplace]
  | invoke | invokeUnchecked | invokePayload | status | describe => rfl
  | loadedCount | shutDown => cases hconn

/-- A load that is carried out is the one that the operation asks for, on a connection that has a
place in the registry. -/
theorem request?_of_accepted (haccepted : host.accepted? operation = some (conn, request)) :
    operation.request? host.registry.settings = some (conn, request)
      ∧ ∃ index, conn.index? host.registry.capacity = some index := by
  obtain ⟨given, hrequest, hadmitted⟩ := Option.bind_eq_some_iff.1 haccepted
  simp only [admit?] at hadmitted
  split at hadmitted
  · rename_i hthere
    cases hadmitted
    exact ⟨hrequest, Option.isSome_iff_exists.1 hthere.1⟩
  · cases hadmitted

/-- A load that is carried out is made on the connection that the operation is addressed to. -/
theorem conn?_of_accepted (haccepted : host.accepted? operation = some (conn, request)) :
    operation.conn? = some conn ∧ ∃ index, conn.index? host.registry.capacity = some index := by
  obtain ⟨hrequest, hindex⟩ := request?_of_accepted haccepted
  refine ⟨?_, hindex⟩
  cases operation <;> cases hrequest <;> rfl

/-- An operation leaves the slots of other connections. -/
theorem slotOf_next_of_ne {conn' : ConnectionId} (hconn : operation.conn? = some conn)
    (hne : conn' ≠ conn) :
    (host.next operation).registry.slotOf conn' = host.registry.slotOf conn' := by
  have hcapacity := (host.after_constants [operation]).2.2
  change (host.next operation).registry.capacity = _ at hcapacity
  unfold Registry.slotOf
  rw [hcapacity]
  cases hindex : conn'.index? host.registry.capacity with
  | none => rfl
  | some place =>
    apply slot_next_of_conn? hconn
    intro hsame
    exact hne (ConnectionId.eq_of_index? hindex hsame)

end OtherConnections

/-! ### One connection -/

/-- A host loads from a catalog of pure routines, and has loaded nothing else. -/
structure IsPure (host : Host Tally S (Exports S)) : Prop where
  /-- The loader. -/
  loader : host.registry.loader.OffersPure
  /-- What is loaded. -/
  slots : ∀ place, (host.registry.slot place).IsPure

/-- Before the first operation every slot is empty, and the host is pure. -/
theorem isPure_start {loader : Loader Tally S (Exports S)} (hloader : loader.OffersPure)
    (settings : Settings) (world : World Tally S) : (start loader settings world).IsPure where
  loader := hloader
  slots place := by
    rw [slot_start]
    exact Slot.isPure_empty

/-- Pure hosts stay pure. -/
theorem IsPure.change {host left : Host Tally S (Exports S)}
    {load? : Option (ConnectionId × LoadRequest)} (hhost : host.IsPure)
    (hchange : Change host load? left) : left.IsPure where
  loader := by
    rw [hchange.constants.1]
    exact hhost.loader
  slots := hchange.keep_slots (motive := fun _ slot => slot.IsPure)
    (fun _ => Slot.isPure_empty) (fun _ hexit => hexit.isPure hhost.loader) hhost.slots

/-- Every change keeps the account along with that. -/
theorem IsPure.change_accounted {host left : Host Tally S (Exports S)}
    {load? : Option (ConnectionId × LoadRequest)} (hhost : host.IsPure ∧ host.Accounted)
    (hchange : Change host load? left) : left.IsPure ∧ left.Accounted :=
  ⟨hhost.1.change hchange, hhost.2.change hhost.1.loader.tallies hchange⟩

/-- Two hosts have the same loader, the same settings and tables of one size. -/
structure Alike (host other : Host B S L) : Prop where
  /-- The loaders. -/
  loader : host.registry.loader = other.registry.loader
  /-- The settings. -/
  settings : host.registry.settings = other.registry.settings
  /-- The sizes of the tables. -/
  capacity : host.registry.capacity = other.registry.capacity

/-- Hosts that are like the same host are alike. -/
theorem Alike.trans {host other third : Host B S L} (halike : host.Alike other)
    (hother : other.Alike third) :
    host.Alike third :=
  ⟨halike.loader.trans hother.loader, halike.settings.trans hother.settings,
    halike.capacity.trans hother.capacity⟩

/-- Likeness goes both ways. -/
theorem Alike.symm {host other : Host B S L} (halike : host.Alike other) : other.Alike host :=
  ⟨halike.loader.symm, halike.settings.symm, halike.capacity.symm⟩

/-- No run concerns what makes hosts alike. -/
theorem alike_after (host : Host B S L) (operations : List Operation) :
    (host.after operations).Alike host := by
  obtain ⟨hloader, hsettings, hcapacity⟩ := host.after_constants operations
  exact ⟨hloader, hsettings, hcapacity⟩

section Congruence

variable {host other : Host Tally S (Exports S)} {operation : Operation}
  (halike : host.Alike other)
  (hslot : host.registry.slotOf conn = other.registry.slotOf conn)

include halike

/-- Hosts that are alike load alike into slots that are the same. -/
theorem loadWith_congr (hhost : host.IsPure)
    (hslot : host.registry.slotOf conn = other.registry.slotOf conn) :
    (host.registry.loadWith conn request host.world).1 =
        (other.registry.loadWith conn request other.world).1
      ∧ (host.registry.loadWith conn request host.world).2.1.slotOf conn =
        (other.registry.loadWith conn request other.world).2.1.slotOf conn := by
  unfold Registry.loadWith Registry.index
  rw [← halike.capacity]
  cases hindex : conn.index? host.registry.capacity with
  | none => exact ⟨rfl, hslot⟩
  | some index =>
    cases Registry.requestFault? request with
    | some fault => exact ⟨rfl, hslot⟩
    | none =>
      -- the attempt is made in an empty slot, and so it does not matter what there was before
      have hindex' := hindex
      rw [halike.capacity] at hindex'
      simp only [Slot.load, slotOf_setSlot_of_index? hindex, slotOf_setSlot_of_index? hindex',
        if_true, ← halike.loader, ← halike.settings]
      exact Slot.attach_congr hhost.loader _ _

/-- Whether an operation opens a library is the same for hosts that are alike. -/
theorem opens_congr (hhost : host.IsPure) (operation : Operation) :
    host.opens operation = other.opens operation := by
  have hopened (conn : ConnectionId) (request : LoadRequest) :
      (host.outcome conn request).opened = (other.outcome conn request).opened := by
    unfold outcome
    rw [← halike.loader, ← halike.settings]
    exact hhost.loader.opened_congr _ _
  simp only [opens, accepted?, admit?, halike.settings, halike.capacity, hopened]

include hslot

omit halike in
/-- The slots at a connection's place are the same if the connection's are. -/
theorem slot_congr (hcapacity : host.registry.capacity = other.registry.capacity) {index : Nat}
    (hindex : conn.index? host.registry.capacity = some index) :
    host.registry.slot index = other.registry.slot index := by
  have hindex' := hindex
  rw [hcapacity] at hindex'
  rwa [slotOf_of_index? hindex, slotOf_of_index? hindex'] at hslot

/-- Hosts that are alike unload alike. -/
theorem unload_congr :
    (host.registry.unload conn host.world).1 = (other.registry.unload conn other.world).1
      ∧ (host.registry.unload conn host.world).2.1.slotOf conn =
        (other.registry.unload conn other.world).2.1.slotOf conn := by
  unfold Registry.unload Registry.index
  rw [← halike.capacity]
  cases hindex : conn.index? host.registry.capacity with
  | none => exact ⟨rfl, hslot⟩
  | some index =>
    have hindex' := hindex
    rw [halike.capacity] at hindex'
    simp only [slotOf_setSlot_of_index? hindex, slotOf_setSlot_of_index? hindex', if_true,
      ← slot_congr hslot halike.capacity hindex, true_and]
    cases host.registry.slot index <;> rfl

/-- A pure routine in the same slot leaves the same in the buffers. -/
theorem invokeUnchecked_congr (hhost : host.IsPure) (buffers : CallBuffers)
    (world left : World Tally S) :
    (host.registry.invokeUnchecked conn buffers world).1 =
      (other.registry.invokeUnchecked conn buffers left).1 := by
  unfold Registry.invokeUnchecked Registry.index
  rw [← halike.capacity]
  cases hindex : conn.index? host.registry.capacity with
  | none => rfl
  | some index =>
    simp only [← slot_congr hslot halike.capacity hindex]
    cases hloaded : host.registry.slot index with
    | empty | failed => rfl
    | loaded controller =>
      -- what the routine leaves in its buffers is settled by them
      have hroutine := hhost.slots index controller hloaded
      simp only [Routine.call_eq, hroutine _ left.state buffers, World.tell]

/-- So it does when the buffers are checked first. -/
theorem invoke_congr (hhost : host.IsPure) (buffers : CallBuffers)
    (world left : World Tally S) :
    (host.registry.invoke conn buffers world).1 = (other.registry.invoke conn buffers left).1 := by
  unfold Registry.invoke Registry.index
  rw [← halike.capacity]
  cases conn.index? host.registry.capacity with
  | none => rfl
  | some index =>
    cases buffers.firstEmpty? with
    | some name => rfl
    | none => exact invokeUnchecked_congr halike hslot hhost buffers world left

/-- So it does to the buffers of a payload. -/
theorem invokePayload_congr (hhost : host.IsPure) (payload : Payload) :
    (host.registry.invokePayload conn payload host.world).1 =
      (other.registry.invokePayload conn payload other.world).1 := by
  rw [Registry.fst_invokePayload, Registry.fst_invokePayload,
    invoke_congr halike hslot hhost payload.call]

/-- An operation on a connection does the same for hosts that load from one catalog of pure
routines and have the same slot for the connection. -/
theorem perform_congr (hhost : host.IsPure) (hconn : operation.conn? = some conn) :
    (host.perform operation).1 = (other.perform operation).1
      ∧ (host.next operation).registry.slotOf conn =
        (other.next operation).registry.slotOf conn := by
  cases operation with
  | load conn path symbol =>
    cases hconn
    -- the same settings say whether a private copy is asked for
    have hsame : other.perform (.load conn path symbol) = other.perform
        (.loadWith conn ⟨path, symbol, host.registry.settings.isolateInstances⟩) := by
      rw [halike.settings]
      rfl
    obtain ⟨hresult, hleft⟩ := loadWith_congr halike hhost hslot
    rw [next, next, hsame]
    exact ⟨congrArg Answer.load hresult, hleft⟩
  | loadWith conn request =>
    cases hconn
    obtain ⟨hresult, hleft⟩ := loadWith_congr halike hhost hslot
    exact ⟨congrArg Answer.load hresult, hleft⟩
  | unload conn =>
    cases hconn
    obtain ⟨hresult, hleft⟩ := unload_congr halike hslot
    exact ⟨congrArg Answer.unload hresult, hleft⟩
  | invoke conn buffers =>
    cases hconn
    exact ⟨congrArg Answer.invoke (invoke_congr halike hslot hhost buffers _ _), hslot⟩
  | invokeUnchecked conn buffers =>
    cases hconn
    exact ⟨congrArg Answer.invoke (invokeUnchecked_congr halike hslot hhost buffers _ _), hslot⟩
  | invokePayload conn payload =>
    cases hconn
    exact ⟨congrArg Answer.invokePayload (invokePayload_congr halike hslot hhost payload), hslot⟩
  | status conn =>
    cases hconn
    refine ⟨congrArg Answer.status ?_, hslot⟩
    unfold Registry.status Registry.index
    rw [← halike.capacity]
    cases hindex : conn.index? host.registry.capacity with
    | none => rfl
    | some index => simp only [slot_congr hslot halike.capacity hindex, Except.map]
  | describe conn =>
    cases hconn
    refine ⟨congrArg Answer.describe ?_, hslot⟩
    unfold Registry.describe? Registry.index
    rw [← halike.capacity]
    cases hindex : conn.index? host.registry.capacity with
    | none => rfl
    | some index => simp only [slot_congr hslot halike.capacity hindex]
  | loadedCount | shutDown => cases hconn

end Congruence

end Host

end ControllerHost
