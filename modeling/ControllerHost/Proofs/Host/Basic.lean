import ControllerHost.Proofs.Slot.Exits
import ControllerHost.Registry.Basic

/-!
# Runs of a host

A host holds a registry and acts on a world. It performs one operation after another; each
operation gives an answer and leaves a host. The theory of the registry is about the hosts that a
run of operations can lead to.

- `Operation`, `Answer`: what can be asked of a registry, and what it says.
- `Host.perform`, `Host.after`: one operation, and a run of them.
- `Host.start`, `Host.drop`: the first host of a run, and the world that is left when the host
  gives up its registry.
- `Host.released`, `Host.outcome`: the world in which a load makes its attempt, and what the loader
  makes of it.
- `Host.accepted?`: the load that an operation asks for, unless it is refused at once.
-/

namespace ControllerHost

/-- What can be asked of a registry. -/
inductive Operation where
  /-- Load a controller, from a private copy if the settings say so. -/
  | load (conn : ConnectionId) (path : Path) (symbol : String)
  /-- Load a controller, from a private copy or not. -/
  | loadWith (conn : ConnectionId) (request : LoadRequest)
  /-- Give up what is loaded. -/
  | unload (conn : ConnectionId)
  /-- Call the loaded controller on buffers that must have storage. -/
  | invoke (conn : ConnectionId) (buffers : CallBuffers)
  /-- Call the loaded controller on buffers that are taken as they are. -/
  | invokeUnchecked (conn : ConnectionId) (buffers : CallBuffers)
  /-- Call the loaded controller on the buffers of a payload. -/
  | invokePayload (conn : ConnectionId) (payload : Payload)
  /-- Ask for the state of a connection. -/
  | status (conn : ConnectionId)
  /-- Ask for all that can be learned about a connection. -/
  | describe (conn : ConnectionId)
  /-- Ask for the number of loaded controllers. -/
  | loadedCount
  /-- Give up everything. -/
  | shutDown

/-- What a registry says to an operation. -/
inductive Answer where
  /-- What a load came to. -/
  | load (result : LoadResult)
  /-- What an unload came to. -/
  | unload (result : Except UnknownConnection Unit)
  /-- What a call came to, with the buffers that it left. -/
  | invoke (result : Except DispatchError CallBuffers)
  /-- What a call came to, with the payload that it left. -/
  | invokePayload (result : Except DispatchError Payload)
  /-- The state of a connection. -/
  | status (result : Except UnknownConnection SlotStatus)
  /-- All that can be learned about a connection. -/
  | describe (info? : Option SlotInfo)
  /-- The number of loaded controllers. -/
  | loadedCount (count : Nat)
  /-- Everything has been given up. -/
  | shutDown

/-- The connection and the request of an operation that asks for a load. -/
def Operation.request? (settings : Settings) : Operation → Option (ConnectionId × LoadRequest)
  | load conn path symbol => some (conn, ⟨path, symbol, settings.isolateInstances⟩)
  | loadWith conn request => some (conn, request)
  | _ => none

/-- Whether an operation is a call. -/
def Operation.isCall : Operation → Bool
  | invoke _ _ | invokeUnchecked _ _ | invokePayload _ _ => true
  | _ => false

variable {B S L : Type}

/-- The slot of a connection. A connection that the table has no place for has an empty one. -/
def Registry.slotOf (registry : Registry B S L) (conn : ConnectionId) : Slot S L :=
  match conn.index? registry.capacity with
  | some index => registry.slot index
  | none => .empty

/-- A registry and the world that it acts on. -/
structure Host (B S L : Type) where
  /-- The registry. -/
  registry : Registry B S L
  /-- The world. -/
  world : World B S

namespace Host

/-- A host that has just made its registry: nothing is loaded, and nothing has happened yet. -/
def start (loader : Loader B S L) (settings : Settings) (world : World B S) : Host B S L where
  registry := .create loader settings
  world := { world with events := [] }

/-- What an operation gives and leaves. -/
def perform (host : Host B S L) : Operation → Answer × Host B S L
  | .load conn path symbol =>
    let (result, registry, world) := host.registry.load conn path symbol host.world
    (.load result, ⟨registry, world⟩)
  | .loadWith conn request =>
    let (result, registry, world) := host.registry.loadWith conn request host.world
    (.load result, ⟨registry, world⟩)
  | .unload conn =>
    let (result, registry, world) := host.registry.unload conn host.world
    (.unload result, ⟨registry, world⟩)
  | .invoke conn buffers =>
    let (result, world) := host.registry.invoke conn buffers host.world
    (.invoke result, { host with world })
  | .invokeUnchecked conn buffers =>
    let (result, world) := host.registry.invokeUnchecked conn buffers host.world
    (.invoke result, { host with world })
  | .invokePayload conn payload =>
    let (result, world) := host.registry.invokePayload conn payload host.world
    (.invokePayload result, { host with world })
  | .status conn => (.status (host.registry.status conn), host)
  | .describe conn => (.describe (host.registry.describe? conn), host)
  | .loadedCount => (.loadedCount host.registry.loadedCount, host)
  | .shutDown =>
    let (registry, world) := host.registry.shutDown host.world
    (.shutDown, ⟨registry, world⟩)

/-- The host that an operation leaves. -/
abbrev next (host : Host B S L) (operation : Operation) : Host B S L := (host.perform operation).2

/-- The host that several operations leave, one after another. -/
def after (host : Host B S L) (operations : List Operation) : Host B S L :=
  operations.foldl next host

/-- The world that is left when a host gives up its registry. -/
def drop (host : Host B S L) : World B S := (host.registry.shutDown host.world).2

@[simp]
theorem after_cons (host : Host B S L) (operation : Operation) (operations : List Operation) :
    host.after (operation :: operations) = (host.next operation).after operations := rfl

/-- The world once what a connection holds has been released. -/
def released (host : Host B S L) (conn : ConnectionId) : World B S :=
  (host.registry.slotOf conn).vacate host.registry.loader conn host.world

/-- What the loader makes of a request, once what the connection holds has been released. -/
def outcome (host : Host B S L) (conn : ConnectionId) (request : LoadRequest) : LoadOutcome :=
  host.registry.loader.outcome host.registry.settings.copyDir? conn request (host.released conn)

/-- A load, unless it is refused at once: for a connection that the table has no place for, or for
an empty path or symbol. -/
def admit? (host : Host B S L) (conn : ConnectionId) (request : LoadRequest) :
    Option (ConnectionId × LoadRequest) :=
  if (conn.index? host.registry.capacity).isSome ∧ Registry.requestFault? request = none then
    some (conn, request)
  else none

/-- The load that an operation asks for, unless it is refused at once. -/
def accepted? (host : Host B S L) (operation : Operation) : Option (ConnectionId × LoadRequest) :=
  (operation.request? host.registry.settings).bind fun (conn, request) => host.admit? conn request

end Host

end ControllerHost
