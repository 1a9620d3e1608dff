import ControllerHost.Controller.Samples
import ControllerHost.Proofs.Catalog.Loading
import ControllerHost.Proofs.Host.Calling
import ControllerHost.Proofs.Session.Run

/-!
# Calls reach the listed routine

What a connection holds after a load from the host's own catalog is the routine that the catalog
lists under the path and the symbol that the connection shows. No later operation changes that, so
every call runs that routine, once, on the buffers that it is given, and does nothing else.

- `Catalog.routine?`: the routine that a catalog lists under a path and a symbol.
- `LoadedController.IsListed`, `Host.FromCatalog`: controllers that come from a catalog's list, and
  hosts that hold no others.
- `Host.FromCatalog.change`, `Session.fromCatalog_after`: so it is after every run.
- `Session.perform_call_of_loaded`: what a call that reaches a controller gives and leaves.
- `Session.call_runs_listed`: what a call gives and leaves after every run.
-/

namespace ControllerHost

variable {B S L : Type}

/-- The routine that a catalog lists under a path and a symbol. -/
def Catalog.routine? (catalog : Catalog S) (path : Path) (symbol : String) : Option (Routine S) :=
  (catalog.find? path).bind fun exports => exports.lookup symbol

/-- A controller's routine is the one that a catalog lists under the controller's path and
symbol. -/
def LoadedController.IsListed (controller : LoadedController S L) (catalog : Catalog S) : Prop :=
  catalog.routine? controller.path controller.symbol = some controller.routine

section Loads

variable {catalog : Catalog S} {faults : Faults} {directory? : Option Path} {conn : ConnectionId}
  {request : LoadRequest} {world left : World Tally S}

/-- What is opened from a catalog and resolved is listed under the path and the symbol. -/
theorem Catalog.routine?_of_resolve {path : Path} {exports : Exports S} {symbol : String}
    {routine : Routine S}
    (hopen : (catalog.loader faults).open world path = (.done exports, left))
    (hresolve : (catalog.loader faults).resolve exports symbol left = .done routine) :
    catalog.routine? path symbol = some routine := by
  obtain ⟨hfind, -⟩ := listed_of_done faults hopen
  simp [routine?, hfind, lookup_of_done faults hresolve]

/-- A load from a catalog leaves the listed routine, if it leaves any. -/
theorem Slot.Attached.isListed {outcome : LoadOutcome}
    {controller : LoadedController S (Exports S)}
    (hexit : Slot.Attached (catalog.loader faults) directory? conn request world outcome
      (.loaded controller) left) : controller.IsListed catalog := by
  cases hexit with
  | @bound copy? copied opened library routine hcopy hopen hresolve =>
    -- a catalog's paths lead to no files, so the path itself is what is looked up
    obtain rfl : copy? = none := by
      cases hcopy with
      | unasked hunasked => rfl
      | noFile hasked hfile => rfl
      | made hasked hfile hcreate => simp at hasked
    exact Catalog.routine?_of_resolve hopen hresolve

end Loads

namespace Host

/-- A host loads from a catalog, and every controller that it holds is listed there. -/
structure FromCatalog (host : Host Tally S (Exports S)) (catalog : Catalog S) (faults : Faults) :
    Prop where
  /-- The loader is the catalog's. -/
  loader : host.registry.loader = catalog.loader faults
  /-- What is loaded is listed. -/
  listed : ∀ place controller, host.registry.slot place = .loaded controller →
    controller.IsListed catalog

/-- In the beginning nothing is loaded. -/
theorem fromCatalog_start (catalog : Catalog S) (faults : Faults) (settings : Settings)
    (world : World Tally S) :
    (start (catalog.loader faults) settings world).FromCatalog catalog faults where
  loader := rfl
  listed place controller hslot := by
    rw [slot_start] at hslot
    cases hslot

/-- No change leads to a controller that is not listed. -/
theorem FromCatalog.change {catalog : Catalog S} {faults : Faults}
    {host left : Host Tally S (Exports S)} {load? : Option (ConnectionId × LoadRequest)}
    (hhost : host.FromCatalog catalog faults) (hchange : Change host load? left) :
    left.FromCatalog catalog faults where
  loader := hchange.constants.1.trans hhost.loader
  listed := by
    refine hchange.keep_slots
      (motive := fun _ slot => ∀ controller, slot = .loaded controller →
        controller.IsListed catalog) ?_ ?_ hhost.listed
    · intro place controller hslot
      cases hslot
    · intro conn request outcome slot world place hindex hexit controller hslot
      subst hslot
      rw [hhost.loader] at hexit
      exact hexit.isListed

end Host

/-! ### Calls -/

/-- The events of a call that reaches a controller, with the payload shown in the log or not. -/
def Event.ofCall (conn : ConnectionId) (symbol : String) (before after : Payload) (shown : Bool) :
    List Event :=
  if shown then
    [.payloadBefore conn before.report, .calling conn symbol, .payloadAfter conn after.report]
  else [.calling conn symbol]

/-- No buffer is empty exactly if each of them has storage. -/
theorem CallBuffers.firstEmpty?_eq_none {buffers : CallBuffers} :
    buffers.firstEmpty? = none ↔
      buffers.swap ≠ [] ∧ buffers.inFile ≠ [] ∧ buffers.outName ≠ [] ∧ buffers.msg ≠ [] := by
  unfold firstEmpty?
  grind

namespace Session

/-- A call that reaches a controller runs its routine once on the buffers of the payload. The
payload keeps the rest of what it holds, and all that is changed besides is the controllers' state
and what has been logged. -/
theorem perform_call_of_loaded {session : Session B S L} {conn : ConnectionId}
    {controller : LoadedController S L} {name : String}
    (hslot : session.host.registry.slotOf conn = .loaded controller)
    (hbuffers : (session.payloads name).call.firstEmpty? = none) (shown : Bool) :
    let payload := session.payloads name
    let ran := controller.routine.run session.host.world.state payload.call
    let left : Payload := { payload with call := ran.2 }
    session.perform (.call conn name shown) =
      (.call (.ok ()) left,
        { host :=
            { registry := session.host.registry
              world :=
                { session.host.world with
                  state := ran.1
                  events := session.host.world.events
                    ++ Event.ofCall conn controller.symbol payload left shown } }
          payloads := Function.update session.payloads name left }) := by
  intro payload ran left
  -- handing the payload over is one call, shown in the log or not
  have hhand : session.handOver conn name shown =
      (.ok left,
        { session.host.world with
          state := ran.1
          events := session.host.world.events
            ++ Event.ofCall conn controller.symbol payload left shown }) := by
    have hinvoke (world : World B S) :=
      @Host.invoke_of_loaded B S L controller payload.call _ conn hslot world
    unfold handOver
    cases shown with
    | true =>
      simp [Registry.invokePayload, (hinvoke _).2 hbuffers, (hinvoke _).1, World.tell,
        Event.ofCall, payload, ran, left]
    | false =>
      simp [(hinvoke _).2 hbuffers, (hinvoke _).1, World.tell, Event.ofCall, payload, ran, left,
        Except.map]
  simp only [perform_call, returned, hhand, Except.map, Except.toOption, Option.getD_some]

/-- After every run over a catalog, what is loaded is listed. -/
theorem fromCatalog_after {catalog : Catalog S} {faults : Faults}
    {session : Session Tally S (Exports S)} (hsession : session.host.FromCatalog catalog faults)
    (steps : List Step) :
    (Run.after Session.perform session steps).host.FromCatalog catalog faults := by
  induction steps generalizing session with
  | nil => exact hsession
  | cons step rest ih => exact ih (perform_of_change Host.FromCatalog.change hsession step)

/-- **A call runs the listed routine, once, and does nothing else.** After every run over a catalog,
take a connection that shows a loaded controller, and a payload whose buffers have storage. The
catalog lists a routine under the path and the symbol that the connection shows. A call, with the
payload shown in the log or not, succeeds. It leaves in the payload what that routine makes of its
buffers in one run, all of them as long as before, and keeps the file's contents and where they
belong. All other payloads, the registry, the files and the counts of libraries stay as they are:
the world has only the state that the routine has left, and the events of this one call. -/
theorem call_runs_listed (catalog : Catalog S) (faults : Faults) (settings : Settings)
    (world : World Tally S) (payloads : String → Payload) (steps : List Step)
    {conn : ConnectionId} {name : String} {info : SlotInfo} :
    let session := Run.after Session.perform
      ⟨Host.start (catalog.loader faults) settings world, payloads⟩ steps
    let payload := session.payloads name
    session.host.registry.describe? conn = some info → info.status = .loaded →
      payload.call.swap ≠ [] → payload.call.inFile ≠ [] → payload.call.outName ≠ [] →
      payload.call.msg ≠ [] →
    ∃ path symbol routine, info.path? = some path ∧ info.symbol? = some symbol
      ∧ catalog.routine? path symbol = some routine
      ∧ let ran := routine.run session.host.world.state payload.call
        let left : Payload := { payload with call := ran.2 }
        payload.call.KeepsLengths left.call
          ∧ ∀ shown, session.perform (.call conn name shown) =
            (.call (.ok ()) left,
              { host :=
                  { registry := session.host.registry
                    world :=
                      { session.host.world with
                        state := ran.1
                        events := session.host.world.events
                          ++ Event.ofCall conn symbol payload left shown } }
                payloads := Function.update session.payloads name left }) := by
  intro session payload hinfo hstatus hswap hinFile houtName hmsg
  have hcatalog : session.host.FromCatalog catalog faults :=
    fromCatalog_after (Host.fromCatalog_start catalog faults settings world) steps
  obtain ⟨controller, hslot, rfl⟩ := Host.exists_loaded_of_describe? hinfo hstatus
  obtain ⟨index, hindex, hthere⟩ := Host.exists_index?_of_loaded hslot
  have hbuffers : payload.call.firstEmpty? = none :=
    CallBuffers.firstEmpty?_eq_none.2 ⟨hswap, hinFile, houtName, hmsg⟩
  exact ⟨controller.path, controller.symbol, controller.routine, rfl, rfl,
    hcatalog.listed index controller hthere, controller.routine.keepsLengths _ _,
    perform_call_of_loaded hslot hbuffers⟩

/-- Two connections share one catalog: the first has been loaded again, after a load that failed,
from another path with the same components, and the second has been called. A call of the first
counts on from what the second has left, and the other payload stays as it is. -/
theorem call_runs_listed_reloaded :
    let catalog : Catalog Nat := (Catalog.register {} (.ofText "a/ctrl") "DISCON" .tally).register
      (.ofText "other") "DISCON" (.mark 2)
    let steps : List Step :=
      [.payload (.putZeros "mine" 1 4), .payload (.putZeros "theirs" 2 3),
        .registry (.load 0 (.ofText "other") "DISCON"),
        .registry (.load 1 (.ofText "a/ctrl") "DISCON"), .call 1 "theirs" true,
        .registry (.load 0 (.ofText "a/ctrl") "absent"),
        .registry (.load 0 (.ofText "a//ctrl/") "DISCON")]
    let session := Run.after Session.perform
      ⟨Host.start catalog.loader { maxConnections := 2 }
        { tempDir := .ofText "/tmp", books := {}, state := 0 }, fun _ => {}⟩ steps
    let info : SlotInfo :=
      { status := .loaded, path? := some (.ofText "a//ctrl/"), symbol? := some "DISCON" }
    session.host.registry.describe? 0 = some info
      ∧ (session.payloads "mine").call.firstEmpty? = none
      ∧ session.host.world.state = 1
      ∧ ∀ shown,
        (session.perform (.call 0 "mine" shown)).2.host.registry = session.host.registry
          ∧ (session.perform (.call 0 "mine" shown)).2.host.world.state = 2
          ∧ (session.perform (.call 0 "mine" shown)).2.payloads "theirs" =
            session.payloads "theirs" := by
  intro catalog steps session info
  obtain ⟨path, symbol, routine, hpath, hsymbol, hroutine, -, hperform⟩ :=
    @call_runs_listed Nat catalog {} { maxConnections := 2 }
      { tempDir := .ofText "/tmp", books := {}, state := 0 } (fun _ => {})
      steps 0 "mine" info (by decide +kernel) rfl (by decide +kernel) (by decide +kernel)
      (by decide +kernel) (by decide +kernel)
  cases hpath
  cases hsymbol
  obtain rfl : routine = .tally := by
    have hlisted : catalog.routine? (.ofText "a//ctrl/") "DISCON" = some .tally := rfl
    exact Option.some.inj (hroutine.symm.trans hlisted)
  have hinfo : session.host.registry.describe? 0 = some info := by decide +kernel
  have hbuffers : (session.payloads "mine").call.firstEmpty? = none := by decide +kernel
  have hcalls : session.host.world.state = 1 := by decide +kernel
  have hother : "theirs" ≠ "mine" := by decide
  -- from here on it does not matter what led to the session
  generalize hreached : Run.after Session.perform _ steps = reached at hperform
  replace hreached : session = reached := hreached
  clear_value session
  subst hreached
  refine ⟨hinfo, hbuffers, hcalls, fun shown => ?_⟩
  rw [hperform shown]
  exact ⟨rfl, congrArg (· + 1) hcalls, by simp only [Function.update_of_ne hother]⟩

end Session

end ControllerHost
