import ControllerHost.Payload.Report
import ControllerHost.Registry.Slot
import ControllerHost.Settings.Basic

/-!
# The registry

A registry is a table of slots, one for each connection. Every operation is addressed to one
connection and leaves the other slots alone, but for the shutdown, which empties all of them.

- `Registry.create`, `Registry.withCapacity`.
- `Registry.load`, `Registry.unload`, `Registry.shutDown`.
- `Registry.status`, `Registry.describe?`, `Registry.loadedCount`, `Registry.summary`.
- `Registry.invoke`, `Registry.invokePayload`: calls go straight to the loaded entry point.
-/

namespace ControllerHost

/-- A table of connections. -/
structure Registry (B S L : Type) where
  /-- Where the libraries come from. -/
  loader : Loader B S L
  /-- What the host has set. -/
  settings : Settings
  /-- The connections' slots, in the order of their numbers. -/
  slots : List (Slot S L)

variable {B S L : Type}

namespace Registry

/-- A registry in which nothing is loaded. -/
def create (loader : Loader B S L) (settings : Settings) : Registry B S L where
  loader := loader
  settings := settings
  slots := List.replicate settings.maxConnections .empty

/-- A registry of a given size that makes no private copies. -/
def withCapacity (loader : Loader B S L) (capacity : Nat) : Registry B S L :=
  create loader { maxConnections := capacity, isolateInstances := false }

/-- The number of connections. -/
def capacity (registry : Registry B S L) : Nat := registry.slots.length

/-- The place of a connection. -/
def index (registry : Registry B S L) (conn : ConnectionId) : Except UnknownConnection Nat :=
  match conn.index? registry.capacity with
  | some index => .ok index
  | none => .error ⟨conn, registry.capacity⟩

/-- The slot at a place. -/
def slot (registry : Registry B S L) (index : Nat) : Slot S L :=
  (registry.slots[index]?).getD .empty

/-- The registry with another slot at a place. -/
def setSlot (registry : Registry B S L) (index : Nat) (slot : Slot S L) : Registry B S L :=
  { registry with slots := registry.slots.set index slot }

@[simp]
theorem capacity_setSlot (registry : Registry B S L) (index : Nat) (slot : Slot S L) :
    (registry.setSlot index slot).capacity = registry.capacity := by
  simp [capacity, setSlot]

/-- At its place the new slot is found, and at all other places the old ones. -/
theorem slot_setSlot {registry : Registry B S L} {index : Nat} (hindex : index < registry.capacity)
    (slot : Slot S L) (place : Nat) :
    (registry.setSlot index slot).slot place =
      if index = place then slot else registry.slot place := by
  have hlength : index < registry.slots.length := hindex
  simp only [Registry.slot, setSlot, List.getElem?_set, if_pos hlength]
  split <;> rfl

theorem setSlot_slot {registry : Registry B S L} {index : Nat}
    (hindex : index < registry.capacity) :
    registry.setSlot index (registry.slot index) = registry := by
  have hlength : index < registry.slots.length := hindex
  have hget : registry.slots[index]? = some registry.slots[index] :=
    List.getElem?_eq_getElem hlength
  simp only [setSlot, Registry.slot, hget, Option.getD_some, List.set_getElem_self]

/-- What holds of all slots of a registry and of another slot holds of all slots once that is in its
place. -/
theorem forall_mem_setSlot {registry : Registry B S L} {slot : Slot S L} {p : Slot S L → Prop}
    (hslots : ∀ other ∈ registry.slots, p other) (hslot : p slot) (index : Nat) :
    ∀ other ∈ (registry.setSlot index slot).slots, p other := by
  intro other hother
  rcases List.mem_or_eq_of_mem_set hother with hthere | rfl
  · exact hslots other hthere
  · exact hslot

@[simp]
theorem setSlot_setSlot (registry : Registry B S L) (index : Nat) (first second : Slot S L) :
    (registry.setSlot index first).setSlot index second = registry.setSlot index second := by
  simp [setSlot]

/-- Why a load request is refused before anything is touched. -/
def requestFault? (request : LoadRequest) : Option LoadError :=
  if request.path.bytes = [] then some (.invalidArgument "library path is empty")
  else if request.symbol = "" then some (.invalidArgument "symbol name is empty")
  else none

/-- Loads a controller into a connection, with or without a private copy. -/
def loadWith (registry : Registry B S L) (conn : ConnectionId) (request : LoadRequest)
    (world : World B S) :
    LoadResult × Registry B S L × World B S :=
  match registry.index conn with
  | .error unknown => (.failed (.unknownConnection unknown), registry, world)
  | .ok index =>
    match requestFault? request with
    | some error => (.failed error, registry, world)
    | none =>
      let (result, slot, world) :=
        (registry.slot index).load registry.loader registry.settings.copyDir? conn request world
      (result, registry.setSlot index slot, world)

/-- Loads a controller into a connection as the settings say. -/
def load (registry : Registry B S L) (conn : ConnectionId) (path : Path) (symbol : String)
    (world : World B S) : LoadResult × Registry B S L × World B S :=
  registry.loadWith conn ⟨path, symbol, registry.settings.isolateInstances⟩ world

/-- Gives up what is loaded on a connection. -/
def unload (registry : Registry B S L) (conn : ConnectionId) (world : World B S) :
    Except UnknownConnection Unit × Registry B S L × World B S :=
  match registry.index conn with
  | .error unknown => (.error unknown, registry, world)
  | .ok index =>
    let (slot, world) := (registry.slot index).unload registry.loader conn world
    (.ok (), registry.setSlot index slot, world)

/-- Releases what is loaded in the slots of a table from a place on. -/
def releaseFrom (loader : Loader B S L) : Nat → List (Slot S L) → World B S → World B S
  | _, [], world => world
  | index, slot :: rest, world =>
    releaseFrom loader (index + 1) rest
      (slot.unload loader (ConnectionId.ofIndex index) world).2

/-- The number of connections with a loaded controller. -/
def loadedCount (registry : Registry B S L) : Nat := registry.slots.countP Slot.isLoaded

/-- Gives up everything that is loaded, and forgets failed loads. -/
def shutDown (registry : Registry B S L) (world : World B S) : Registry B S L × World B S :=
  let released := registry.loadedCount
  let world := releaseFrom registry.loader 0 registry.slots world
  ({ registry with slots := registry.slots.map fun _ => .empty },
    if released = 0 then world else world.tell (.shutDown released))

@[simp]
theorem slot_shutDown (registry : Registry B S L) (world : World B S) (index : Nat) :
    (registry.shutDown world).1.slot index = .empty := by
  simp only [shutDown, Registry.slot, List.getElem?_map]
  cases registry.slots[index]? <;> rfl

@[simp]
theorem loadedCount_shutDown (registry : Registry B S L) (world : World B S) :
    (registry.shutDown world).1.loadedCount = 0 := by
  change (registry.slots.map fun _ => (Slot.empty : Slot S L)).countP Slot.isLoaded = 0
  rw [List.countP_eq_zero]
  intro slot hslot
  obtain ⟨old, hold, rfl⟩ := List.mem_map.1 hslot
  simp [Slot.isLoaded, Slot.status]

/-- The state of a connection. -/
def status (registry : Registry B S L) (conn : ConnectionId) :
    Except UnknownConnection SlotStatus :=
  (registry.index conn).map fun index => (registry.slot index).status

/-- What a host can learn about a connection, if there is one. -/
def describe? (registry : Registry B S L) (conn : ConnectionId) : Option SlotInfo :=
  match registry.index conn with
  | .ok index => some (registry.slot index).info
  | .error _ => none

/-- A registry in one line. -/
def summary (registry : Registry B S L) : String :=
  "Registry \x7b capacity: " ++ toString registry.capacity ++ ", loaded: "
    ++ toString registry.loadedCount ++ ", isolate: "
    ++ toString registry.settings.isolateInstances ++ ", .. \x7d"

/-- Calls the controller of a connection on buffers that are taken as they are. -/
def invokeUnchecked (registry : Registry B S L) (conn : ConnectionId) (buffers : CallBuffers)
    (world : World B S) : Except DispatchError CallBuffers × World B S :=
  match registry.index conn with
  | .error unknown => (.error (.unknownConnection unknown), world)
  | .ok index =>
    match registry.slot index with
    | .loaded controller =>
      let (buffers, world) :=
        controller.routine.call buffers (world.tell (.calling conn controller.symbol))
      (.ok buffers, world)
    | _ => (.error (.notLoaded conn), world)

/-- Calls the controller of a connection on buffers that must have storage. -/
def invoke (registry : Registry B S L) (conn : ConnectionId) (buffers : CallBuffers)
    (world : World B S) :
    Except DispatchError CallBuffers × World B S :=
  match registry.index conn with
  | .error unknown => (.error (.unknownConnection unknown), world)
  | .ok _ =>
    match buffers.firstEmpty? with
    | some name => (.error (.emptyBuffer name), world)
    | none => registry.invokeUnchecked conn buffers world

/-- Calls the controller of a connection on the buffers of a payload. -/
def invokePayload (registry : Registry B S L) (conn : ConnectionId) (payload : Payload)
    (world : World B S) : Except DispatchError Payload × World B S :=
  match registry.invoke conn payload.call (world.tell (.payloadBefore conn payload.report)) with
  | (.error error, world) => (.error error, world)
  | (.ok call, world) =>
    let payload := { payload with call }
    (.ok payload, world.tell (.payloadAfter conn payload.report))

end Registry

end ControllerHost
