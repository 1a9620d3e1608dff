import ControllerHost.Proofs.Host.Step

/-!
# Connections as three-state machines

To its host, a registry of `N` connections is a row of `N` machines with three states each. A
machine is moved by the loads and unloads of its own connection and by the shutdown, and by nothing
else; what a registry answers depends on the row alone, and on what the loader makes of a load.

- `Machine`, `Machine.move`: the states, and what moves a machine between them.
- `Machine.answer`: what a row of machines answers.
- `Host.input?`, `Host.inputs`: what reaches a machine in one operation and in a run of them.
- `Host.machine_next`, `Host.forget_answer`: one operation moves and answers as the machines do.
- `Host.machines_after_and_answers`: so does every run.
-/

namespace ControllerHost

variable {B S L : Type}

/-- The state of a connection, as a host can learn it. -/
inductive Machine where
  /-- Nothing is loaded. -/
  | empty
  /-- A controller is loaded, from a private copy or not. -/
  | loaded (path : Path) (symbol : String) (copy? : Option Path)
  /-- The last load found no entry point. -/
  | failed (path : Path) (symbol reason : String)
deriving DecidableEq

namespace Machine

/-- What can move a machine. -/
inductive Input where
  /-- A load that was not refused at once, and its outcome. -/
  | load (request : LoadRequest) (outcome : LoadOutcome)
  /-- An unload. -/
  | unload
  /-- The shutdown. -/
  | shutDown

/-- The state of a machine after an input. A load moves a machine from whatever state it was in. -/
def move (machine : Machine) : Input → Machine
  | .load request (.bound copy?) => loaded request.path request.symbol copy?
  | .load request (.notResolved reason _) => failed request.path request.symbol reason
  | .load _ _ => empty
  | .unload =>
    match machine with
    | loaded _ _ _ => empty
    | empty => empty
    | failed path symbol reason => failed path symbol reason
  | .shutDown => empty

/-- The state of a slot that a machine stands for. -/
def status : Machine → SlotStatus
  | empty => .empty
  | loaded _ _ _ => .loaded
  | failed _ _ _ => .failed

/-- What a host can learn about a machine. -/
def info : Machine → SlotInfo
  | empty => ⟨.empty, none, none, none, none⟩
  | loaded path symbol copy? => ⟨.loaded, some path, some symbol, copy?, none⟩
  | failed path symbol reason => ⟨.failed, some path, some symbol, none, some reason⟩

/-- The machine of a connection in a row. -/
def find (machines : List Machine) (conn : ConnectionId) : Except UnknownConnection Machine :=
  match conn.index? machines.length with
  | some place => .ok ((machines[place]?).getD .empty)
  | none => .error ⟨conn, machines.length⟩

/-- What a load comes to, given the outcome that it has unless it is refused at once. -/
def loadResult (machines : List Machine) (conn : ConnectionId) (request : LoadRequest)
    (outcome : LoadOutcome) : LoadResult :=
  match find machines conn with
  | .error unknown => .failed (.unknownConnection unknown)
  | .ok _ =>
    match Registry.requestFault? request with
    | some fault => .failed fault
    | none => outcome.result request

/-- Whether a call reaches a controller, given the buffer that has no storage. -/
def callResult (machines : List Machine) (conn : ConnectionId) (missing? : Option String) :
    Except DispatchError Unit :=
  match find machines conn with
  | .error unknown => .error (.unknownConnection unknown)
  | .ok machine =>
    match missing? with
    | some name => .error (.emptyBuffer name)
    | none => if machine.status = .loaded then .ok () else .error (.notLoaded conn)

/-- What a row of machines answers. What a controller writes to its buffers is not theirs to say,
and shows as empty buffers. -/
def answer (machines : List Machine) (isolate : Bool)
    (outcome : ConnectionId → LoadRequest → LoadOutcome) : Operation → Answer
  | .load conn path symbol =>
    .load (loadResult machines conn ⟨path, symbol, isolate⟩ (outcome conn ⟨path, symbol, isolate⟩))
  | .loadWith conn request => .load (loadResult machines conn request (outcome conn request))
  | .unload conn => .unload ((find machines conn).map fun _ => ())
  | .invoke conn buffers =>
    .invoke ((callResult machines conn buffers.firstEmpty?).map fun _ => default)
  | .invokeUnchecked conn _ => .invoke ((callResult machines conn none).map fun _ => default)
  | .invokePayload conn payload =>
    .invokePayload ((callResult machines conn payload.call.firstEmpty?).map fun _ => default)
  | .status conn => .status ((find machines conn).map status)
  | .describe conn => .describe ((find machines conn).map info).toOption
  | .loadedCount => .loadedCount (machines.countP fun machine => machine.status = .loaded)
  | .shutDown => .shutDown

end Machine

/-- The machine that a slot implements. -/
def Slot.machine : Slot S L → Machine
  | empty => .empty
  | loaded controller =>
    .loaded controller.path controller.symbol (controller.copy?.map PrivateCopy.path)
  | failed path symbol reason => .failed path symbol reason

/-- An answer without what a controller has written. -/
def Answer.forget : Answer → Answer
  | invoke result => invoke (result.map fun _ => default)
  | invokePayload result => invokePayload (result.map fun _ => default)
  | answer => answer

namespace Host

/-- The row of machines that a host's registry implements. -/
def machines (host : Host B S L) : List Machine := host.registry.slots.map Slot.machine

/-- What reaches the machine at a place when a load is asked for: the load, if the place is the
connection's and the load is not refused at once. -/
def loadInput? (host : Host B S L) (place : Nat) (conn : ConnectionId) (request : LoadRequest) :
    Option Machine.Input :=
  if conn.index? host.registry.capacity = some place ∧ Registry.requestFault? request = none then
    some (.load request (host.outcome conn request))
  else none

/-- What reaches the machine at a place in one operation: a load or an unload of the connection that
has this place, or the shutdown. -/
def input? (host : Host B S L) (place : Nat) : Operation → Option Machine.Input
  | .load conn path symbol =>
    host.loadInput? place conn ⟨path, symbol, host.registry.settings.isolateInstances⟩
  | .loadWith conn request => host.loadInput? place conn request
  | .unload conn => if conn.index? host.registry.capacity = some place then some .unload else none
  | .shutDown => some .shutDown
  | _ => none

/-- What reaches the machine at a place in a run, in order. -/
def inputs (host : Host B S L) (place : Nat) : List Operation → List Machine.Input
  | [] => []
  | operation :: rest =>
    (host.input? place operation).toList ++ (host.next operation).inputs place rest

/-! ### One operation -/

/-- A slot's machine has the slot's status. -/
@[simp]
theorem status_machine (slot : Slot S L) : slot.machine.status = slot.status := by
  cases slot <;> rfl

/-- A slot's machine is described as the slot is. -/
@[simp]
theorem info_machine (slot : Slot S L) : slot.machine.info = slot.info := by
  cases slot <;> rfl

@[simp]
theorem length_machines (host : Host B S L) : host.machines.length = host.registry.capacity := by
  simp [machines, Registry.capacity]

/-- The machine of a connection stands at the connection's place. -/
theorem find_machines (host : Host B S L) (conn : ConnectionId) :
    Machine.find host.machines conn =
      (host.registry.index conn).map fun index => (host.registry.slot index).machine := by
  unfold Machine.find Registry.index
  rw [length_machines]
  cases hindex : conn.index? host.registry.capacity with
  | none => rfl
  | some index =>
    have hlength : index < host.registry.slots.length :=
      (ConnectionId.index?_eq_some_iff.1 hindex).2
    simp [machines, Registry.slot, Except.map, hlength]

/-- Through whichever exit a load leaves, the slot that it leaves is what the load makes of a
machine. -/
theorem machine_of_attached {loader : Loader B S L} {directory? : Option Path} {conn : ConnectionId}
    {request : LoadRequest} {world left : World B S} {outcome : LoadOutcome} {slot : Slot S L}
    (hexit : Slot.Attached loader directory? conn request world outcome slot left)
    (machine : Machine) : slot.machine = machine.move (.load request outcome) := by
  cases hexit <;> rfl

/-- Unloading a slot moves its machine by an unload. -/
theorem machine_unload (slot : Slot S L) (loader : Loader B S L) (conn : ConnectionId)
    (world : World B S) :
    (slot.unload loader conn world).1.machine = slot.machine.move .unload := by
  cases slot <;> rfl

/-- The registry after a load that is not refused at once. -/
theorem registry_loadWith {host : Host B S L} {conn : ConnectionId} {request : LoadRequest}
    {index : Nat} (hindex : conn.index? host.registry.capacity = some index)
    (hfault : Registry.requestFault? request = none) :
    ∃ slot left,
      host.registry.loadWith conn request host.world =
          ((host.outcome conn request).result request, host.registry.setSlot index slot, left)
        ∧ Slot.Attached host.registry.loader host.registry.settings.copyDir? conn request
          (host.released conn) (host.outcome conn request) slot left := by
  obtain ⟨hexit, hresult⟩ := Slot.attached host.registry.loader host.registry.settings.copyDir? conn
    request (host.released conn)
  refine ⟨_, _, ?_, hexit⟩
  rw [loadWith_eq hindex hfault, outcome, ← hresult]

/-- A load moves the machine of its connection, unless it is refused at once, and no other one. -/
theorem machine_loadWith (host : Host B S L) (conn : ConnectionId) (request : LoadRequest)
    (place : Nat) :
    (((host.registry.loadWith conn request host.world).2.1).slot place).machine =
      (host.loadInput? place conn request).elim (host.registry.slot place).machine
        (host.registry.slot place).machine.move := by
  unfold loadInput?
  cases hindex : conn.index? host.registry.capacity with
  | none => simp [Registry.loadWith, Registry.index, hindex]
  | some index =>
    cases hfault : Registry.requestFault? request with
    | some fault => simp [Registry.loadWith, Registry.index, hindex, hfault]
    | none =>
      obtain ⟨slot, left, hload, hexit⟩ := registry_loadWith hindex hfault
      -- the slot that the load leaves is the machine's next state, whatever the slot was before
      have hlt := (ConnectionId.index?_eq_some_iff.1 hindex).2
      rw [hload, Registry.slot_setSlot hlt]
      by_cases hplace : index = place
      · simp [hplace, machine_of_attached hexit (host.registry.slot place).machine]
      · simp [hplace]

/-- An unload moves the machine of its own connection and leaves the others. -/
theorem machine_unloadAt (host : Host B S L) (conn : ConnectionId) (place : Nat) :
    (((host.registry.unload conn host.world).2.1).slot place).machine =
      (host.input? place (.unload conn)).elim (host.registry.slot place).machine
        (host.registry.slot place).machine.move := by
  unfold input?
  cases hindex : conn.index? host.registry.capacity with
  | none => simp [Registry.unload, Registry.index, hindex]
  | some index =>
    have hlt := (ConnectionId.index?_eq_some_iff.1 hindex).2
    simp only [Registry.unload, Registry.index, hindex]
    rw [Registry.slot_setSlot hlt]
    by_cases hplace : index = place
    · simp [hplace, machine_unload]
    · simp [hplace]

/-- An operation moves each machine by what reaches it, and leaves a machine that nothing reaches as
it is. -/
theorem machine_next (host : Host B S L) (operation : Operation) (place : Nat) :
    ((host.next operation).registry.slot place).machine =
      (host.input? place operation).elim (host.registry.slot place).machine
        (host.registry.slot place).machine.move := by
  cases operation with
  | load conn path symbol => exact machine_loadWith host conn _ place
  | loadWith conn request => exact machine_loadWith host conn request place
  | unload conn => exact machine_unloadAt host conn place
  | shutDown =>
    change ((host.registry.shutDown host.world).1.slot place).machine = .empty
    rw [Registry.slot_shutDown]
    rfl
  | invoke conn buffers => rfl
  | invokeUnchecked conn buffers => rfl
  | invokePayload conn payload => rfl
  | status conn => rfl
  | describe conn => rfl
  | loadedCount => rfl

/-- A slot whose machine nothing reaches stays exactly what it is. -/
theorem slot_next_of_input? (host : Host B S L) (operation : Operation) (place : Nat)
    (hinput : host.input? place operation = none) :
    (host.next operation).registry.slot place = host.registry.slot place := by
  -- both kinds of load come to this one
  have hload (conn : ConnectionId) (request : LoadRequest)
      (hinput : host.loadInput? place conn request = none) :
      ((host.registry.loadWith conn request host.world).2.1).slot place =
        host.registry.slot place := by
    cases hindex : conn.index? host.registry.capacity with
    | none => simp [Registry.loadWith, Registry.index, hindex]
    | some index =>
      cases hfault : Registry.requestFault? request with
      | some fault => simp [Registry.loadWith, Registry.index, hindex, hfault]
      | none =>
        obtain ⟨slot, left, hload, -⟩ := registry_loadWith hindex hfault
        have hne : index ≠ place := by simpa [loadInput?, hindex, hfault] using hinput
        rw [hload, Registry.slot_setSlot (ConnectionId.index?_eq_some_iff.1 hindex).2, if_neg hne]
  cases operation with
  | load conn path symbol => exact hload conn _ hinput
  | loadWith conn request => exact hload conn request hinput
  | unload conn =>
    change ((host.registry.unload conn host.world).2.1).slot place = _
    cases hindex : conn.index? host.registry.capacity with
    | none => simp [Registry.unload, Registry.index, hindex]
    | some index =>
      have hne : index ≠ place := by simpa [input?, hindex] using hinput
      simp only [Registry.unload, Registry.index, hindex]
      rw [Registry.slot_setSlot (ConnectionId.index?_eq_some_iff.1 hindex).2, if_neg hne]
  | shutDown => cases hinput
  | invoke conn buffers => rfl
  | invokeUnchecked conn buffers => rfl
  | invokePayload conn payload => rfl
  | status conn => rfl
  | describe conn => rfl
  | loadedCount => rfl

/-! ### Answers -/

/-- A load's result is that of the machines for the outcome the load has. -/
theorem loadWith_result (host : Host B S L) (conn : ConnectionId) (request : LoadRequest) :
    (host.registry.loadWith conn request host.world).1 =
      Machine.loadResult host.machines conn request (host.outcome conn request) := by
  unfold Machine.loadResult
  rw [find_machines]
  cases hindex : conn.index? host.registry.capacity with
  | none => simp [Registry.loadWith, Registry.index, hindex, Except.map]
  | some index =>
    cases hfault : Registry.requestFault? request with
    | some fault => simp [Registry.loadWith, Registry.index, hindex, hfault, Except.map]
    | none =>
      obtain ⟨slot, left, hload, -⟩ := registry_loadWith hindex hfault
      simp [hload, Registry.index, hindex, Except.map]

/-- A call on buffers that are taken as they are reaches a controller as the machines say. -/
theorem invokeUnchecked_result (host : Host B S L) (conn : ConnectionId) (buffers : CallBuffers)
    (world : World B S) :
    (host.registry.invokeUnchecked conn buffers world).1.map (fun _ => ()) =
      Machine.callResult host.machines conn none := by
  unfold Machine.callResult Registry.invokeUnchecked
  rw [find_machines]
  cases hindex : host.registry.index conn with
  | error unknown => simp [Except.map]
  | ok index =>
    cases hslot : host.registry.slot index <;>
      simp [Except.map, Slot.machine, Machine.status, hslot]

/-- Whether a call goes through is for the machines and the first empty buffer to say. -/
theorem invoke_result (host : Host B S L) (conn : ConnectionId) (buffers : CallBuffers)
    (world : World B S) :
    (host.registry.invoke conn buffers world).1.map (fun _ => ()) =
      Machine.callResult host.machines conn buffers.firstEmpty? := by
  have hunchecked := invokeUnchecked_result host conn buffers world
  unfold Machine.callResult Registry.invoke at *
  rw [find_machines] at *
  cases hindex : host.registry.index conn with
  | error unknown => simp [Except.map]
  | ok index =>
    cases hempty : buffers.firstEmpty? with
    | some name => simp [Except.map]
    | none => simpa [hindex, hempty, Except.map] using hunchecked

/-- Whether a call with a payload goes through is for the machines and the first empty buffer to
say. -/
theorem invokePayload_result (host : Host B S L) (conn : ConnectionId) (payload : Payload) :
    (host.registry.invokePayload conn payload host.world).1.map (fun _ => ()) =
      Machine.callResult host.machines conn payload.call.firstEmpty? := by
  rw [← invoke_result host conn payload.call (host.world.tell (.payloadBefore conn payload.report))]
  unfold Registry.invokePayload
  generalize host.registry.invoke conn payload.call
    (host.world.tell (.payloadBefore conn payload.report)) = called
  obtain ⟨_ | call, world⟩ := called <;> rfl

/-- Two results that agree up to what they carry agree once that is forgotten. -/
theorem map_default {ε α : Type} [Inhabited α] {result : Except ε α} {reached : Except ε Unit}
    (hreached : result.map (fun _ => ()) = reached) :
    (result.map fun _ => (default : α)) = reached.map fun _ => default := by
  subst hreached
  cases result <;> rfl

/-- An operation answers as the machines do. -/
theorem forget_answer (host : Host B S L) (operation : Operation) :
    (host.perform operation).1.forget =
      Machine.answer host.machines host.registry.settings.isolateInstances host.outcome
        operation := by
  cases operation with
  | load conn path symbol => exact congrArg Answer.load (loadWith_result host conn _)
  | loadWith conn request => exact congrArg Answer.load (loadWith_result host conn request)
  | unload conn =>
    change Answer.unload (host.registry.unload conn host.world).1 = _
    simp only [Machine.answer, find_machines, Registry.unload]
    cases host.registry.index conn <;> rfl
  | invoke conn buffers =>
    exact congrArg Answer.invoke (map_default (invoke_result host conn buffers host.world))
  | invokeUnchecked conn buffers =>
    exact congrArg Answer.invoke (map_default (invokeUnchecked_result host conn buffers host.world))
  | invokePayload conn payload =>
    exact congrArg Answer.invokePayload (map_default (invokePayload_result host conn payload))
  | status conn =>
    change Answer.status (host.registry.status conn) = _
    simp only [Machine.answer, find_machines, Registry.status]
    cases host.registry.index conn <;> simp [Except.map]
  | describe conn =>
    change Answer.describe (host.registry.describe? conn) = _
    simp only [Machine.answer, find_machines, Registry.describe?]
    cases host.registry.index conn <;> simp [Except.map, Except.toOption]
  | loadedCount =>
    change Answer.loadedCount host.registry.loadedCount = _
    simp only [Machine.answer, machines, Registry.loadedCount, List.countP_map]
    congr 2
    funext slot
    simp [Slot.isLoaded]
  | shutDown => rfl

/-! ### Runs -/

/-- In a run each machine is moved by what reaches it, in order. -/
theorem machine_after (host : Host B S L) (operations : List Operation) (place : Nat) :
    ((host.after operations).registry.slot place).machine =
      (host.inputs place operations).foldl Machine.move (host.registry.slot place).machine := by
  -- on the run: the inputs of the rest are those of the host that the first operation leaves
  induction operations generalizing host with
  | nil => rfl
  | cons operation rest ih =>
    rw [after_cons, ih, inputs, List.foldl_append, machine_next]
    cases host.input? place operation <;> rfl

/-- **A registry is a row of independent three-state machines.** After every run over every loader,
each machine is where its own inputs have led it from the empty state, every answer to a further
operation is the machines' answer, and a slot that the operation does not reach stays exactly what
it is. -/
theorem machines_after_and_answers (loader : Loader B S L) (settings : Settings) (world : World B S)
    (operations : List Operation) :
    let start := Host.start loader settings world
    let host := start.after operations
    host.machines =
        (List.range settings.maxConnections).map
          (fun place => (start.inputs place operations).foldl Machine.move .empty)
      ∧ (∀ operation, (host.perform operation).1.forget =
          Machine.answer host.machines settings.isolateInstances host.outcome operation)
      ∧ ∀ operation place, host.input? place operation = none →
          (host.next operation).registry.slot place = host.registry.slot place := by
  intro start host
  obtain ⟨-, hsettings, hcapacity⟩ := start.after_constants operations
  have hlength : host.registry.slots.length = settings.maxConnections :=
    hcapacity.trans (capacity_start loader settings world)
  refine ⟨?_, ?_, ?_⟩
  -- the row has a machine for each place of the table, and each is known from the run before
  · apply List.ext_getElem?
    intro place
    have hmachine := machine_after start operations place
    rw [slot_start] at hmachine
    simp only [machines, List.getElem?_map]
    by_cases hplace : place < settings.maxConnections
    · have hlt : place < host.registry.slots.length := by rwa [hlength]
      have hget : host.registry.slots[place]? = some (host.registry.slot place) := by
        simp [Registry.slot, hlt]
      rw [hget, List.getElem?_range hplace]
      exact congrArg some hmachine
    · have hle : host.registry.slots.length ≤ place := by
        rw [hlength]
        exact Nat.le_of_not_lt hplace
      rw [List.getElem?_eq_none hle, List.getElem?_eq_none (by simpa using hplace)]
      rfl
  · intro operation
    rw [forget_answer]
    exact congrArg (fun settings =>
      Machine.answer host.machines settings.isolateInstances host.outcome operation) hsettings
  · exact slot_next_of_input? host

end Host

end ControllerHost
