import ControllerHost.Proofs.Session.Refusals

/-!
# Calls

A call that is not refused finds a controller and runs that controller's routine once, on the state
that all controllers keep and on the buffers that it is given. What the routine leaves in the
buffers is the answer, what it leaves in the state is the state, and besides that nothing is done
but for what is said about the call.

- `Operation.call?`, `Operation.called`: the calls among the operations, and how they are answered.
- `Host.calling?`: the controller that is called, and what it is handed.
- `Host.perform_calling`: what comes of a call.
- `Host.perform_of_not_calling`: what comes of a call that finds no controller.
-/

namespace ControllerHost

variable {B S L : Type}

namespace Operation

/-- The connection and the buffers of a call, unless a buffer has no storage and must have some. -/
def call? : Operation → Option (ConnectionId × CallBuffers)
  | invoke conn buffers => if buffers.firstEmpty? = none then some (conn, buffers) else none
  | invokeUnchecked conn buffers => some (conn, buffers)
  | invokePayload conn payload =>
    if payload.call.firstEmpty? = none then some (conn, payload.call) else none
  | _ => none

/-- What is answered to a call that leaves the given buffers. -/
def called (buffers : CallBuffers) : Operation → Answer
  | invokePayload _ payload => .invokePayload (.ok { payload with call := buffers })
  | _ => .invoke (.ok buffers)

/-- Nothing but a call is one. -/
theorem call?_of_not_call {operation : Operation} (hcall : operation.isCall = false) :
    operation.call? = none := by
  cases operation <;> first | rfl | cases hcall

end Operation

namespace Host

/-- The controller that an operation calls, if it gets that far, and the buffers that the controller
is handed. -/
def calling? (host : Host B S L) (operation : Operation) :
    Option (LoadedController S L × CallBuffers) :=
  operation.call?.bind fun (conn, buffers) =>
    match host.registry.slotOf conn with
    | .loaded controller => some (controller, buffers)
    | _ => none

variable {host : Host B S L} {operation : Operation} {controller : LoadedController S L}
  {buffers : CallBuffers}

theorem calling?_eq_some : host.calling? operation = some (controller, buffers) ↔
    ∃ conn, operation.call? = some (conn, buffers)
      ∧ host.registry.slotOf conn = .loaded controller := by
  simp only [calling?, Option.bind_eq_some_iff, Prod.exists]
  constructor
  · rintro ⟨conn, given, hcall, hcalling⟩
    split at hcalling
    · cases hcalling
      exact ⟨conn, hcall, ‹_›⟩
    · cases hcalling
  · rintro ⟨conn, hcall, hslot⟩
    exact ⟨conn, buffers, hcall, by simp [hslot]⟩

/-- A call that finds storage behind its buffers, and a controller on its connection, runs that
controller's routine. -/
theorem invoke_of_loaded {registry : Registry B S L} {conn : ConnectionId}
    (hslot : registry.slotOf conn = .loaded controller) (world : World B S) :
    registry.invokeUnchecked conn buffers world =
        (.ok (controller.routine.run world.state buffers).2,
          { world.tell (.calling conn controller.symbol) with
            state := (controller.routine.run world.state buffers).1 })
      ∧ (buffers.firstEmpty? = none →
        registry.invoke conn buffers world = registry.invokeUnchecked conn buffers world) := by
  obtain ⟨index, hindex, hthere⟩ := exists_index?_of_loaded hslot
  constructor
  · simp only [Registry.invokeUnchecked, Registry.index, hindex, hthere, Routine.call_eq,
      World.tell]
  · intro hstorage
    simp only [Registry.invoke, Registry.index, hindex, hstorage]

/-- A call runs the controller's routine once, and changes nothing but the state that the routine
leaves and what has happened. -/
theorem perform_calling (hcalling : host.calling? operation = some (controller, buffers)) :
    (host.perform operation).1 =
        operation.called (controller.routine.run host.world.state buffers).2
      ∧ ∃ events, host.next operation =
        { host with
          world := { host.world with
            state := (controller.routine.run host.world.state buffers).1
            events } } := by
  obtain ⟨conn, hcall, hslot⟩ := calling?_eq_some.1 hcalling
  have hunchecked (world : World B S) :=
    (@invoke_of_loaded B S L controller buffers _ _ hslot world).1
  have hchecked (hstorage : buffers.firstEmpty? = none) (world : World B S) :=
    (@invoke_of_loaded B S L controller buffers _ _ hslot world).2 hstorage
  -- a checked call goes through if there is storage behind each of its buffers
  cases operation with
  | invokeUnchecked conn' buffers' =>
    cases hcall
    simp only [next, perform, hunchecked, Operation.called, World.tell]
    exact ⟨trivial, _, rfl⟩
  | invoke conn' buffers' =>
    simp only [Operation.call?] at hcall
    split at hcall
    · cases hcall
      simp only [next, perform, hchecked ‹_›, hunchecked, Operation.called, World.tell]
      exact ⟨trivial, _, rfl⟩
    · cases hcall
  | invokePayload conn' payload =>
    simp only [Operation.call?] at hcall
    split at hcall
    · cases hcall
      simp only [next, perform, Registry.invokePayload, hchecked ‹_›, hunchecked, Operation.called,
        World.tell]
      exact ⟨trivial, _, rfl⟩
    · cases hcall
  | _ => cases hcall

/-- A call that is not refused finds a controller, and storage if it must have some. -/
theorem exists_calling (hcall : operation.isCall = true)
    (hrefusal : host.refusal? operation = none) :
    ∃ controller buffers, host.calling? operation = some (controller, buffers) := by
  -- the last check of every call is that a controller is loaded
  have hunchecked {conn : ConnectionId}
      (hfault : firstFault? (host.registry.uncheckedCallChecks conn) = none) :
      ∃ controller, host.registry.slotOf conn = .loaded controller := by
    cases hslot : host.registry.slotOf conn with
    | loaded controller => exact ⟨controller, rfl⟩
    | empty | failed =>
      rw [Registry.uncheckedCallChecks, firstFault?_cons] at hfault
      split at hfault
      · cases hfault
      · simp [Registry.loadedCheck, hslot, Slot.isLoaded, Slot.status] at hfault
  have hchecked {conn : ConnectionId} {buffers : CallBuffers}
      (hfault : firstFault? (host.registry.callChecks conn buffers) = none) :
      buffers.firstEmpty? = none
        ∧ ∃ controller, host.registry.slotOf conn = .loaded controller := by
    rw [Registry.firstFault?_callChecks] at hfault
    split at hfault
    · cases hfault
    · split at hfault
      · cases hfault
      · exact ⟨‹_›, hunchecked hfault⟩
  cases operation with
  | invokeUnchecked conn buffers =>
    simp only [refusal?, checks, firstFault?_map, Option.map_eq_none_iff] at hrefusal
    obtain ⟨controller, hslot⟩ := hunchecked hrefusal
    exact ⟨controller, buffers, calling?_eq_some.2 ⟨conn, rfl, hslot⟩⟩
  | invoke conn buffers =>
    simp only [refusal?, checks, firstFault?_map, Option.map_eq_none_iff] at hrefusal
    obtain ⟨hstorage, controller, hslot⟩ := hchecked hrefusal
    exact ⟨controller, buffers,
      calling?_eq_some.2 ⟨conn, by simp [Operation.call?, hstorage], hslot⟩⟩
  | invokePayload conn payload =>
    simp only [refusal?, checks, firstFault?_map, Option.map_eq_none_iff] at hrefusal
    obtain ⟨hstorage, controller, hslot⟩ := hchecked hrefusal
    exact ⟨controller, payload.call,
      calling?_eq_some.2 ⟨conn, by simp [Operation.call?, hstorage], hslot⟩⟩
  | _ => cases hcall

/-- A call that finds no controller is refused, and at most a payload has been shown then. -/
theorem perform_of_not_calling (hcall : operation.isCall = true)
    (hnone : host.calling? operation = none) :
    ∃ answer, host.refusal? operation = some answer
      ∧ host.perform operation =
        (answer, { host with world := host.world.tells operation.shown }) := by
  cases hrefusal : host.refusal? operation with
  | some answer =>
    have hperform := host.perform_checked operation
    rw [hrefusal] at hperform
    exact ⟨answer, rfl, hperform⟩
  | none =>
    obtain ⟨controller, buffers, hcalling⟩ := exists_calling hcall hrefusal
    rw [hnone] at hcalling
    cases hcalling

end Host

end ControllerHost
