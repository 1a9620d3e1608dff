import ControllerHost.Proofs.Host.Basic

/-!
# What an operation does

There are five things that can be done to a host. Every operation does one of them, but for the
shutdown, which unloads one connection after another. What is proved about every run is proved by
cases on the five.

- `World.tells`, `Event.isRemark`: several events at once, and the events that only say something.
- `Host.Change`, `Host.Changes`: the five things, and several of them.
- `Host.changes_shutDown`, `Host.change`: what a shutdown does, and what every operation does.
- `Host.after_of_change`, `Host.emptied_of_change`: what every change keeps holds after every run,
  and when the host gives up its registry.
- `Host.status_eq_loaded_iff`, `Host.exists_loaded_of_describe?`: what a connection shows is what
  its slot has.
- `Host.slotOf_setSlot`: the slots of connections in a table with one slot changed.
- `Host.after_constants`: the loader, the settings and the size of the table stay as they are.
- `Host.Placed`: a controller is loaded only where there is a connection.
-/

namespace ControllerHost

variable {B S L : Type}

/-- The world after several more events. -/
def World.tells (world : World B S) (events : List Event) : World B S :=
  { world with events := world.events ++ events }

@[simp]
theorem World.tells_nil (world : World B S) : world.tells [] = world := by
  simp [tells]

/-- Whether an event only says what a payload holds, or that everything has been given up. -/
def Event.isRemark : Event → Bool
  | payloadBefore _ _ | payloadAfter _ _ | shutDown _ => true
  | _ => false

namespace Host

/-- What an operation can do to a host, given the load that it asks for and that is not refused at
once. -/
inductive Change (host : Host B S L) : Option (ConnectionId × LoadRequest) → Host B S L → Prop
  /-- Remarks are made, or nothing is done. -/
  | remarked {remarks : List Event} (hremarks : ∀ event ∈ remarks, event.isRemark) :
      Change host none { host with world := host.world.tells remarks }
  /-- The controller of a connection is called, perhaps between remarks. -/
  | called {conn : ConnectionId} {index : Nat} {controller : LoadedController S L}
      {buffers : CallBuffers} {before after : List Event}
      (hindex : conn.index? host.registry.capacity = some index)
      (hslot : host.registry.slot index = .loaded controller)
      (hbefore : ∀ event ∈ before, event.isRemark) (hafter : ∀ event ∈ after, event.isRemark) :
      Change host none
        { host with
          world := (controller.routine.call buffers
            ((host.world.tells before).tell (.calling conn controller.symbol))).2.tells after }
  /-- What a connection holds is released, and a load made in its place. -/
  | loaded {conn : ConnectionId} {request : LoadRequest} {index : Nat} {slot : Slot S L}
      {left : World B S} (hindex : conn.index? host.registry.capacity = some index)
      (hexit : Slot.Attached host.registry.loader host.registry.settings.copyDir? conn request
        (host.released conn) (host.outcome conn request) slot left) :
      Change host (some (conn, request)) ⟨host.registry.setSlot index slot, left⟩
  /-- The controller of a connection is released. -/
  | unloaded {place : Nat} {controller : LoadedController S L}
      (hplace : place < host.registry.capacity)
      (hslot : host.registry.slot place = .loaded controller) :
      Change host none
        ⟨host.registry.setSlot place .empty,
          controller.release host.registry.loader (.ofIndex place) host.world⟩
  /-- A slot without a controller is emptied. -/
  | forgotten {place : Nat} (hplace : place < host.registry.capacity)
      (hslot : (host.registry.slot place).isLoaded = false) :
      Change host none { host with registry := host.registry.setSlot place .empty }

/-- Several changes, none of which is a load. -/
inductive Changes : Host B S L → Host B S L → Prop
  | nothing {host : Host B S L} : Changes host host
  | more {host middle left : Host B S L} (hchange : Change host none middle)
      (hrest : Changes middle left) : Changes host left

/-- Nothing may happen. -/
theorem Change.unchanged {host : Host B S L} : Change host none host := by
  simpa using @Change.remarked B S L host [] (by simp)

/-- Remarks before and after are remarks. -/
theorem Change.remarkedTwice {host : Host B S L} {before after : List Event}
    (hbefore : ∀ event ∈ before, event.isRemark) (hafter : ∀ event ∈ after, event.isRemark) :
    Change host none { host with world := (host.world.tells before).tells after } := by
  have hremarks : ∀ event ∈ before ++ after, event.isRemark := by
    intro event hevent
    rcases List.mem_append.1 hevent with h | h
    · exact hbefore event h
    · exact hafter event h
  simpa [World.tells] using Change.remarked hremarks

/-- The slot of a connection is the one at its place. -/
theorem slotOf_of_index? {registry : Registry B S L} {conn : ConnectionId} {index : Nat}
    (hindex : conn.index? registry.capacity = some index) :
    registry.slotOf conn = registry.slot index := by
  simp [Registry.slotOf, hindex]

/-- A load that is not refused at once goes into an empty slot, once what the connection holds has
been released. -/
theorem loadWith_eq {host : Host B S L} {conn : ConnectionId} {request : LoadRequest} {index : Nat}
    (hindex : conn.index? host.registry.capacity = some index)
    (hfault : Registry.requestFault? request = none) :
    let attached := Slot.attach host.registry.loader host.registry.settings.copyDir? conn request
      (host.released conn)
    host.registry.loadWith conn request host.world =
      (attached.1, host.registry.setSlot index attached.2.1, attached.2.2) := by
  have hslot := slotOf_of_index? hindex
  simp only [Registry.loadWith, Registry.index, hindex, hfault, Slot.load, released, hslot]

/-- What a load does, if it is not refused at once. -/
theorem change_of_loadWith {host : Host B S L} (conn : ConnectionId) (request : LoadRequest) :
    Change host (host.admit? conn request)
      ⟨(host.registry.loadWith conn request host.world).2.1,
        (host.registry.loadWith conn request host.world).2.2⟩ := by
  unfold admit?
  cases hindex : conn.index? host.registry.capacity with
  | none => simpa [Registry.loadWith, Registry.index, hindex] using Change.unchanged
  | some index =>
    cases hfault : Registry.requestFault? request with
    | some fault =>
      simpa [Registry.loadWith, Registry.index, hindex, hfault] using Change.unchanged
    | none =>
      have hexit := (Slot.attached host.registry.loader host.registry.settings.copyDir? conn
        request (host.released conn)).1
      simpa [loadWith_eq hindex hfault] using Change.loaded hindex hexit

/-- An unload is a change without a load. -/
theorem change_of_unload {host : Host B S L} (conn : ConnectionId) :
    Change host none
      ⟨(host.registry.unload conn host.world).2.1, (host.registry.unload conn host.world).2.2⟩ := by
  unfold Registry.unload Registry.index
  cases hindex : conn.index? host.registry.capacity with
  | none => exact .unchanged
  | some index =>
    have hback := Registry.setSlot_slot (ConnectionId.index?_eq_some_iff.1 hindex).2
    simp only
    -- a slot without a controller is put back as it was
    cases hslot : host.registry.slot index with
    | loaded controller =>
      rw [← ConnectionId.ofIndex_of_index? hindex]
      exact .unloaded (ConnectionId.index?_eq_some_iff.1 hindex).2 hslot
    | empty =>
      rw [hslot] at hback
      simpa [Slot.unload, hback] using Change.unchanged
    | failed path symbol reason =>
      rw [hslot] at hback
      simpa [Slot.unload, hback] using Change.unchanged

/-- What a call on buffers that are taken as they are does, perhaps between remarks. -/
theorem change_of_invokeUnchecked {host : Host B S L} (conn : ConnectionId) (buffers : CallBuffers)
    {before after : List Event} (hbefore : ∀ event ∈ before, event.isRemark)
    (hafter : ∀ event ∈ after, event.isRemark) :
    Change host none
      { host with
        world := (host.registry.invokeUnchecked conn buffers
          (host.world.tells before)).2.tells after } := by
  unfold Registry.invokeUnchecked Registry.index
  cases hindex : conn.index? host.registry.capacity with
  | none => exact .remarkedTwice hbefore hafter
  | some index =>
    simp only
    cases hslot : host.registry.slot index with
    | loaded controller => exact .called hindex hslot hbefore hafter
    | empty => exact .remarkedTwice hbefore hafter
    | failed path symbol reason => exact .remarkedTwice hbefore hafter

/-- A checked call is a change without a load, with remarks around it. -/
theorem change_of_invoke {host : Host B S L} (conn : ConnectionId) (buffers : CallBuffers)
    {before after : List Event} (hbefore : ∀ event ∈ before, event.isRemark)
    (hafter : ∀ event ∈ after, event.isRemark) :
    Change host none
      { host with
        world := (host.registry.invoke conn buffers (host.world.tells before)).2.tells after } := by
  unfold Registry.invoke Registry.index
  cases conn.index? host.registry.capacity with
  | none => exact .remarkedTwice hbefore hafter
  | some index =>
    simp only
    cases buffers.firstEmpty? with
    | some name => exact .remarkedTwice hbefore hafter
    | none => exact change_of_invokeUnchecked conn buffers hbefore hafter

/-- What a call on the buffers of a payload does: the payload is shown before the call, and after
it if there was one. -/
theorem change_of_invokePayload {host : Host B S L} (conn : ConnectionId) (payload : Payload) :
    Change host none
      { host with world := (host.registry.invokePayload conn payload host.world).2 } := by
  have hbefore : ∀ event ∈ [Event.payloadBefore conn payload.report], event.isRemark := by
    simp [Event.isRemark]
  unfold Registry.invokePayload
  cases hinvoke : host.registry.invoke conn payload.call
      (host.world.tell (.payloadBefore conn payload.report)) with
  | mk result world =>
    obtain rfl : (host.registry.invoke conn payload.call
        (host.world.tells [.payloadBefore conn payload.report])).2 = world :=
      congrArg Prod.snd hinvoke
    cases result with
    -- a call that is refused is not followed by a second remark
    | error error =>
      have hchange := @change_of_invoke B S L host conn payload.call _ [] hbefore (by simp)
      simp only [World.tells_nil] at hchange
      exact hchange
    | ok call =>
      exact change_of_invoke conn payload.call hbefore
        (by simp [Event.isRemark] :
          ∀ event ∈ [Event.payloadAfter conn (Payload.report { payload with call })],
            event.isRemark)

/-- One more change without a load goes on with several of them. -/
theorem Changes.concat {host middle left : Host B S L} (hchanges : Changes host middle)
    (hchange : Change middle none left) : Changes host left := by
  induction hchanges with
  | nothing => exact .more hchange .nothing
  | more hfirst hrest ih => exact .more hfirst (ih hchange)

/-- A host whose registry has given up everything. -/
def emptied (host : Host B S L) : Host B S L :=
  ⟨(host.registry.shutDown host.world).1, (host.registry.shutDown host.world).2⟩

/-- Releasing the slots of a table from a place on takes one change for each. -/
theorem changes_releaseFrom (loader : Loader B S L) (settings : Settings)
    (done rest : List (Slot S L)) (world : World B S) :
    Changes ⟨⟨loader, settings, done ++ rest⟩, world⟩
      ⟨⟨loader, settings, done ++ rest.map fun _ => .empty⟩,
        Registry.releaseFrom loader done.length rest world⟩ := by
  -- on the slots that are left, where each step adds the slot that it has emptied to `done`
  induction rest generalizing done world with
  | nil => exact .nothing
  | cons slot rest ih =>
    let registry : Registry B S L := ⟨loader, settings, done ++ slot :: rest⟩
    have hplace : done.length < registry.capacity := by simp [registry, Registry.capacity]
    have hget : registry.slot done.length = slot := by simp [registry, Registry.slot]
    have hset : registry.setSlot done.length .empty =
        ⟨loader, settings, (done ++ [.empty]) ++ rest⟩ := by
      simp [registry, Registry.setSlot]
    have hhead : Change ⟨registry, world⟩ none
        ⟨registry.setSlot done.length .empty,
          (slot.unload loader (.ofIndex done.length) world).2⟩ := by
      cases slot with
      | empty => exact .forgotten hplace (by rw [hget]; rfl)
      | failed path symbol reason => exact .forgotten hplace (by rw [hget]; rfl)
      | loaded controller => exact .unloaded hplace hget
    refine .more hhead ?_
    rw [hset]
    have hrest := ih (done ++ [.empty]) (slot.unload loader (.ofIndex done.length) world).2
    simpa [Registry.releaseFrom] using hrest

/-- A shutdown unloads one connection after another, and then says so. -/
theorem changes_shutDown (host : Host B S L) : Changes host host.emptied := by
  have hreleased : Changes host
      ⟨(host.registry.shutDown host.world).1,
        Registry.releaseFrom host.registry.loader 0 host.registry.slots host.world⟩ :=
    changes_releaseFrom host.registry.loader host.registry.settings [] host.registry.slots
      host.world
  unfold emptied
  by_cases hcount : host.registry.loadedCount = 0
  · simpa [Registry.shutDown, hcount] using hreleased
  · have hremark : ∀ event ∈ [Event.shutDown host.registry.loadedCount], event.isRemark := by
      simp [Event.isRemark]
    have hchanges := hreleased.concat (.remarked hremark)
    simpa [Registry.shutDown, hcount, World.tells, World.tell] using hchanges

/-- Every operation but the shutdown makes one of the changes, and a load that is not refused at
once makes the change that loads. -/
theorem change (host : Host B S L) (operation : Operation) :
    Change host (host.accepted? operation) (host.next operation)
      ∨ host.accepted? operation = none ∧ Changes host (host.next operation) := by
  cases operation with
  | load conn path symbol => exact .inl (change_of_loadWith conn _)
  | loadWith conn request => exact .inl (change_of_loadWith conn request)
  | unload conn => exact .inl (change_of_unload conn)
  | invoke conn buffers =>
    have hchange := @change_of_invoke B S L host conn buffers [] [] (by simp) (by simp)
    simp only [World.tells_nil] at hchange
    exact .inl hchange
  | invokeUnchecked conn buffers =>
    have hchange := @change_of_invokeUnchecked B S L host conn buffers [] [] (by simp) (by simp)
    simp only [World.tells_nil] at hchange
    exact .inl hchange
  | invokePayload conn payload => exact .inl (change_of_invokePayload conn payload)
  | status conn => exact .inl .unchanged
  | describe conn => exact .inl .unchanged
  | loadedCount => exact .inl .unchanged
  | shutDown => exact .inr ⟨rfl, host.changes_shutDown⟩

/-! ### The slots of connections -/

section SlotOf

variable {registry : Registry B S L} {conn : ConnectionId} {controller : LoadedController S L}

/-- Only a connection with a place has something in its slot. -/
theorem exists_index?_of_slotOf (hslot : registry.slotOf conn ≠ .empty) :
    ∃ index, conn.index? registry.capacity = some index := by
  unfold Registry.slotOf at hslot
  split at hslot
  · rename_i index hindex
    exact ⟨index, hindex⟩
  · exact absurd rfl hslot

/-- What a connection holds is in one of the slots of the table. -/
theorem slotOf_mem_slots (hslot : registry.slotOf conn ≠ .empty) :
    registry.slotOf conn ∈ registry.slots := by
  obtain ⟨index, hindex⟩ := exists_index?_of_slotOf hslot
  have hlength : index < registry.slots.length := (ConnectionId.index?_eq_some_iff.1 hindex).2
  rw [slotOf_of_index? hindex]
  simp [Registry.slot, hlength]

/-- A loaded connection has a place in the table. -/
theorem exists_index?_of_loaded (hslot : registry.slotOf conn = .loaded controller) :
    ∃ index, conn.index? registry.capacity = some index
      ∧ registry.slot index = .loaded controller := by
  have hsome : registry.slotOf conn ≠ .empty := by
    simp [hslot]
  obtain ⟨index, hindex⟩ := exists_index?_of_slotOf hsome
  exact ⟨index, hindex, (slotOf_of_index? hindex).symm.trans hslot⟩

/-- A connection is loaded exactly if its slot has a controller. -/
theorem status_eq_loaded_iff :
    registry.status conn = .ok .loaded ↔ (registry.slotOf conn).isLoaded = true := by
  unfold Registry.status Registry.index Registry.slotOf
  cases conn.index? registry.capacity with
  | none => simp [Except.map, Slot.isLoaded, Slot.status]
  | some index => simp [Except.map, Slot.isLoaded]

/-- A connection whose slot has a controller shows that controller. -/
theorem describe?_of_loaded (hslot : registry.slotOf conn = .loaded controller) :
    registry.describe? conn = some (Slot.loaded controller).info := by
  obtain ⟨index, hindex, hthere⟩ := exists_index?_of_loaded hslot
  simp only [Registry.describe?, Registry.index, hindex, hthere]

/-- A connection that shows a loaded controller has one in its slot. -/
theorem exists_loaded_of_describe? {info : SlotInfo} (hinfo : registry.describe? conn = some info)
    (hstatus : info.status = .loaded) :
    ∃ controller, registry.slotOf conn = .loaded controller
      ∧ info = (Slot.loaded controller).info := by
  unfold Registry.describe? Registry.index at hinfo
  unfold Registry.slotOf
  cases hindex : conn.index? registry.capacity with
  | none => simp [hindex] at hinfo
  | some index =>
    simp only [hindex, Option.some.injEq] at hinfo
    subst hinfo
    cases hslot : registry.slot index with
    | empty => simp [hslot, Slot.info] at hstatus
    | failed path symbol reason => simp [hslot, Slot.info] at hstatus
    | loaded controller => exact ⟨controller, hslot, rfl⟩

end SlotOf

/-- In a table with one slot changed, a connection has that slot if it has its place, and the slot
that it had before otherwise. -/
theorem slotOf_setSlot {registry : Registry B S L} {place : Nat}
    (hplace : place < registry.capacity) (slot : Slot S L) (conn : ConnectionId) :
    (registry.setSlot place slot).slotOf conn =
      if conn.index? registry.capacity = some place then slot else registry.slotOf conn := by
  unfold Registry.slotOf
  rw [Registry.capacity_setSlot]
  cases conn.index? registry.capacity with
  | none => rfl
  | some index =>
    simp only [Registry.slot_setSlot hplace, Option.some.injEq]
    by_cases hindex : place = index
    · rw [if_pos hindex, if_pos hindex.symm]
    · rw [if_neg hindex, if_neg (Ne.symm hindex)]

/-- Changing the slot of one connection leaves the slots of all other ones as they are. -/
theorem slotOf_setSlot_of_index? {registry : Registry B S L} {conn : ConnectionId} {index : Nat}
    (hindex : conn.index? registry.capacity = some index) (slot : Slot S L) (other : ConnectionId) :
    (registry.setSlot index slot).slotOf other =
      if other = conn then slot else registry.slotOf other := by
  rw [slotOf_setSlot (ConnectionId.index?_eq_some_iff.1 hindex).2]
  -- no two connections have one place
  by_cases hother : other = conn
  · rw [if_pos hother, if_pos (hother ▸ hindex)]
  · rw [if_neg hother, if_neg]
    intro hsame
    exact hother (ConnectionId.eq_of_index? hsame hindex)

/-- Once everything is given up all slots are empty. -/
theorem slotOf_emptied (host : Host B S L) (conn : ConnectionId) :
    host.emptied.registry.slotOf conn = .empty := by
  unfold Registry.slotOf
  split
  · exact host.registry.slot_shutDown host.world _
  · rfl

/-! ### What is kept -/

section Kept

variable {motive : Host B S L → Prop}
  (hkept : ∀ {host left load?}, motive host → Change host load? left → motive left)

include hkept

/-- What every change keeps is kept by several. -/
theorem Changes.keep {host left : Host B S L} (hchanges : Changes host left) (hhost : motive host) :
    motive left := by
  induction hchanges with
  | nothing => exact hhost
  | more hchange hrest ih => exact ih (hkept hhost hchange)

/-- What every change keeps is kept by every operation. -/
theorem next_of_change {host : Host B S L} (hhost : motive host) (operation : Operation) :
    motive (host.next operation) := by
  rcases host.change operation with hchange | ⟨-, hchanges⟩
  · exact hkept hhost hchange
  · exact hchanges.keep hkept hhost

/-- What every change keeps is kept by every run. -/
theorem after_of_change {host : Host B S L} (hhost : motive host) (operations : List Operation) :
    motive (host.after operations) := by
  induction operations generalizing host with
  | nil => exact hhost
  | cons operation rest ih => exact ih (next_of_change hkept hhost operation)

/-- What every change keeps is kept when everything is given up. -/
theorem emptied_of_change {host : Host B S L} (hhost : motive host) : motive host.emptied :=
  host.changes_shutDown.keep hkept hhost

end Kept

/-- No change concerns the loader, the settings or the size of the table. -/
theorem Change.constants {host left : Host B S L} {load? : Option (ConnectionId × LoadRequest)}
    (hchange : Change host load? left) :
    left.registry.loader = host.registry.loader ∧ left.registry.settings = host.registry.settings
      ∧ left.registry.capacity = host.registry.capacity := by
  cases hchange with
  | remarked hremarks => exact ⟨rfl, rfl, rfl⟩
  | called hindex hslot hbefore hafter => exact ⟨rfl, rfl, rfl⟩
  | loaded hindex hexit => exact ⟨rfl, rfl, Registry.capacity_setSlot _ _ _⟩
  | unloaded hplace hslot => exact ⟨rfl, rfl, Registry.capacity_setSlot _ _ _⟩
  | forgotten hplace hslot => exact ⟨rfl, rfl, Registry.capacity_setSlot _ _ _⟩

/-- No run concerns the loader, the settings or the size of the table. -/
theorem after_constants (host : Host B S L) (operations : List Operation) :
    (host.after operations).registry.loader = host.registry.loader
      ∧ (host.after operations).registry.settings = host.registry.settings
      ∧ (host.after operations).registry.capacity = host.registry.capacity := by
  -- compared with the first host of the run, whatever the host before a change is
  let motive (left : Host B S L) : Prop :=
    left.registry.loader = host.registry.loader ∧ left.registry.settings = host.registry.settings
      ∧ left.registry.capacity = host.registry.capacity
  have hkept {middle left : Host B S L} {load? : Option (ConnectionId × LoadRequest)}
      (hmiddle : motive middle) (hchange : Change middle load? left) : motive left := by
    obtain ⟨hloader, hsettings, hcapacity⟩ := hchange.constants
    exact ⟨hloader.trans hmiddle.1, hsettings.trans hmiddle.2.1, hcapacity.trans hmiddle.2.2⟩
  exact after_of_change hkept ⟨rfl, rfl, rfl⟩ operations

/-- A new table has as many slots as the settings say. -/
theorem capacity_start (loader : Loader B S L) (settings : Settings) (world : World B S) :
    (start loader settings world).registry.capacity = settings.maxConnections := by
  simp [start, Registry.create, Registry.capacity]

theorem slot_start (loader : Loader B S L) (settings : Settings) (world : World B S) (place : Nat) :
    (start loader settings world).registry.slot place = .empty := by
  simp only [start, Registry.create, Registry.slot, List.getElem?_replicate]
  split <;> rfl

/-- In a new table every connection is empty. -/
theorem slotOf_start (loader : Loader B S L) (settings : Settings) (world : World B S)
    (conn : ConnectionId) : (start loader settings world).registry.slotOf conn = .empty := by
  unfold Registry.slotOf
  split
  · exact slot_start loader settings world _
  · rfl

/-- What holds of an empty slot, and of what every load leaves in its slot, is kept by every change
for all slots. -/
theorem Change.keep_slots {motive : Nat → Slot S L → Prop} {host left : Host B S L}
    {load? : Option (ConnectionId × LoadRequest)} (hchange : Change host load? left)
    (hempty : ∀ place, motive place .empty)
    (hattached : ∀ {conn request outcome slot world place},
      conn.index? host.registry.capacity = some place →
      Slot.Attached host.registry.loader host.registry.settings.copyDir? conn request
        (host.released conn) outcome slot world → motive place slot)
    (hslots : ∀ place, motive place (host.registry.slot place)) :
    ∀ place, motive place (left.registry.slot place) := by
  -- a change concerns one slot at most
  have hset {index : Nat} {slot : Slot S L} (hindex : index < host.registry.capacity)
      (hslot : motive index slot) (place : Nat) :
      motive place ((host.registry.setSlot index slot).slot place) := by
    rw [Registry.slot_setSlot hindex]
    split
    · rename_i hplace
      rwa [← hplace]
    · exact hslots place
  cases hchange with
  | remarked hremarks => exact hslots
  | called hindex hslot hbefore hafter => exact hslots
  | loaded hindex hexit =>
    exact hset (ConnectionId.index?_eq_some_iff.1 hindex).2 (hattached hindex hexit)
  | unloaded hplace hslot => exact hset hplace (hempty _)
  | forgotten hplace hslot => exact hset hplace (hempty _)

/-- Where a controller is loaded there is a connection. -/
def Placed (host : Host B S L) : Prop :=
  ∀ place, (host.registry.slot place).isLoaded → place < 0x80000000

/-- In a new table nothing is out of place. -/
theorem placed_start (loader : Loader B S L) (settings : Settings) (world : World B S) :
    (start loader settings world).Placed := by
  intro place hloaded
  rw [slot_start] at hloaded
  cases hloaded

/-- No change puts anything out of place. -/
theorem Placed.change {host left : Host B S L} {load? : Option (ConnectionId × LoadRequest)}
    (hplaced : host.Placed) (hchange : Change host load? left) : left.Placed :=
  hchange.keep_slots (motive := fun place slot => slot.isLoaded → place < 0x80000000)
    (fun _ hloaded => by cases hloaded) (fun hindex _ _ => ConnectionId.lt_of_index? hindex) hplaced

end Host

end ControllerHost
