import ControllerHost.Proofs.Host.Handles
import ControllerHost.Proofs.Host.Locality
import ControllerHost.Proofs.Host.Parallel
import ControllerHost.Proofs.Session.Refusals
import ControllerHost.Proofs.Session.Run

/-!
# Loaders that give up

A loader can give up in the middle of a load, when it opens the library or when it looks for the
entry point. What the load has done until then is undone, and what is left is what would be left if
the library could not have been opened. Nothing that comes later can tell the two apart.

- `LoadOutcome.giveUp`: the events of a load in which the loader gives up.
- `Slot.Attached.of_panicked`, `Slot.Attached.of_notOpened`: what such a load leaves, and one whose
  library is not opened.
- `Host.unopened`: the host that is left when the library is not opened.
- `Leeway.aheadBy`: tallies that differ in the opens that they have counted.
- `Session.AheadBy.perform`, `Session.AheadBy.run`: steps and runs of two sessions that differ in
  what has happened and in such tallies.
- `Session.panicked_as_unopened`: no run can tell a loader that gave up from a failure to open.
-/

namespace ControllerHost

variable {S : Type} {catalog : Catalog S} {faults : Faults} {directory? : Option Path}
  {conn : ConnectionId} {request : LoadRequest} {world left : World Tally S}
  {outcome : LoadOutcome} {slot : Slot S (Exports S)}

/-! ### Loads from a catalog that come to nothing -/

/-- The events of a load in which the loader gives up, by whether it had opened the library. -/
def LoadOutcome.giveUp (outcome : LoadOutcome) (conn : ConnectionId) (path : Path) : List Event :=
  if outcome.opened then [.opened conn path false, .resolvePanicked conn, .closed conn path false]
  else [.openPanicked conn]

/-- No private copy is made of what a catalog lists. -/
theorem Slot.Copied.of_catalog {copy? : Option PrivateCopy}
    (hcopy : Slot.Copied (catalog.loader faults) directory? conn request world (.ok copy?) left) :
    copy? = none ∧ left = world := by
  cases hcopy with
  | unasked hunasked => exact ⟨rfl, rfl⟩
  | noFile hasked hfile => simp at hasked
  | made hasked hfile hcreate => simp at hasked

/-- A load in which the loader gives up leaves an empty slot, and no library open that was not open
before. -/
theorem Slot.Attached.of_panicked
    (hexit : Slot.Attached (catalog.loader faults) directory? conn request world outcome slot left)
    {message : String} (hresult : outcome.result request = .panicked message) :
    slot = .empty
      ∧ left =
        { world with
          events := world.events ++ outcome.giveUp conn request.path
          books.opens := world.books.opens + if outcome.opened then 1 else 0 } := by
  cases hexit with
  | notCopied | notOpened | notResolved | bound => cases hresult
  | openPanicked hcopy hopen =>
    obtain ⟨rfl, rfl⟩ := hcopy.of_catalog
    obtain rfl := Catalog.left_of_not_done faults hopen (by simp)
    exact ⟨rfl, rfl⟩
  | resolvePanicked hcopy hopen hresolve =>
    obtain ⟨rfl, rfl⟩ := hcopy.of_catalog
    obtain rfl := Catalog.left_of_done faults hopen
    -- the library that was opened is closed again
    simp [World.discard, Loader.drop, World.tell, Tally.openOne, Tally.closeOne,
      PrivateCopy.openPath, LoadOutcome.giveUp, LoadOutcome.opened]

/-- A load whose library is not opened leaves an empty slot, and has said so. -/
theorem Slot.Attached.of_notOpened
    (hexit : Slot.Attached (catalog.loader faults) directory? conn request world outcome slot left)
    {path : Path} {reason : String}
    (hresult : outcome.result request = .failed (.libraryNotFound path reason)) :
    slot = .empty ∧ left = world.tell (.openFailed conn path reason) := by
  cases hexit with
  | openPanicked | resolvePanicked | notResolved | bound => cases hresult
  | notCopied hcopy =>
    cases hcopy with
    | refused hasked hfile hcreate => simp at hasked
  | notOpened hcopy hopen =>
    obtain ⟨rfl, rfl⟩ := hcopy.of_catalog
    obtain rfl := Catalog.left_of_not_done faults hopen (by simp)
    cases hresult
    exact ⟨rfl, rfl⟩

/-! ### Tallies of different opens -/

/-- The tally may have counted some opens more. The state has to be the same. -/
def Leeway.aheadBy (extra : Nat) : Leeway Tally S where
  books tally other := tally = { other with opens := other.opens + extra }
  state := Eq

theorem Leeway.isExact_aheadBy (extra : Nat) : (aheadBy extra : Leeway Tally S).IsExact :=
  fun _ _ => Iff.rfl

/-- A catalog's loader does not look at how many opens it has counted. -/
theorem Catalog.respects_aheadBy (catalog : Catalog S) (faults : Faults) (extra : Nat) :
    (catalog.loader faults).Respects (.aheadBy extra) where
  opening files path hahead := by
    cases (hahead : _ = _)
    simp only [loader]
    cases faults.openPanic? path with
    | some message => exact ⟨rfl, rfl, fun _ _ hstate => hstate⟩
    | none =>
      simp only [openListed]
      cases catalog.find? path with
      | none => exact ⟨rfl, rfl, fun _ _ hstate => hstate⟩
      | some exports =>
        refine ⟨rfl, ?_, fun _ _ hstate => hstate⟩
        simp [Leeway.aheadBy, Tally.openOne, Nat.add_right_comm]
  finding library symbol hahead := rfl
  closing library hahead := by
    cases (hahead : _ = _)
    exact ⟨rfl, rfl, fun _ _ hstate => hstate⟩
  dropping library hahead := by
    cases (hahead : _ = _)
    exact ⟨rfl, fun _ _ hstate => hstate⟩

namespace Host

section Attached

variable {B L : Type} {host : Host B S L} {operation : Operation}

theorem perform_of_request?
    (hrequest : operation.request? host.registry.settings = some (conn, request)) :
    host.perform operation = host.perform (.loadWith conn request) := by
  cases operation <;> cases hrequest <;> rfl

/-- A load that is not refused leaves through one of the exits. -/
theorem attached_of_not_refused
    (hrequest : operation.request? host.registry.settings = some (conn, request))
    {result : LoadResult} (hanswer : (host.perform operation).1 = .load result)
    (haccepted : (Answer.load result).isRefusal = false) :
    ∃ slot left,
      conn.index? host.registry.capacity = some conn.toInt.toNat
        ∧ (host.outcome conn request).result request = result
        ∧ host.next operation = ⟨host.registry.setSlot conn.toInt.toNat slot, left⟩
        ∧ Slot.Attached host.registry.loader host.registry.settings.copyDir? conn request
          (host.released conn) (host.outcome conn request) slot left := by
  obtain ⟨hindex, hfault⟩ := admitted_of_refusal? hrequest
    (refusal?_eq_none (hanswer ▸ haccepted))
  obtain ⟨slot, left, hload, hexit⟩ := registry_loadWith hindex hfault
  have hperform : host.perform operation =
      (.load ((host.outcome conn request).result request),
        ⟨host.registry.setSlot conn.toInt.toNat slot, left⟩) := by
    rw [perform_of_request? hrequest]
    simp only [perform, hload]
  rw [hperform] at hanswer
  exact ⟨slot, left, hindex, Answer.load.inj hanswer, congrArg Prod.snd hperform, hexit⟩

/-- The host that a load leaves when the library is not opened. -/
def unopened (host : Host B S L) (conn : ConnectionId) (path : Path) (reason : String) :
    Host B S L where
  registry := host.registry.setSlot conn.toInt.toNat .empty
  world := (host.released conn).tell (.openFailed conn path reason)

end Attached

variable {host : Host Tally S (Exports S)} {operation : Operation}
  (hloader : host.registry.loader = catalog.loader faults)
  (hrequest : operation.request? host.registry.settings = some (conn, request))

include hloader hrequest

/-- A load whose library is not opened leaves the host that it is meant to leave. -/
theorem next_of_notOpened {path : Path} {reason : String}
    (hanswer : (host.perform operation).1 = .load (.failed (.libraryNotFound path reason))) :
    host.next operation = host.unopened conn path reason := by
  obtain ⟨slot, left, -, hresult, hnext, hexit⟩ :=
    attached_of_not_refused hrequest hanswer rfl
  rw [hloader] at hexit
  obtain ⟨rfl, rfl⟩ := hexit.of_notOpened hresult
  exact hnext

/-- A load in which the loader gives up leaves what is left when the library is not opened, but for
the events and perhaps one open more. -/
theorem next_of_panicked {message : String}
    (hanswer : (host.perform operation).1 = .load (.panicked message)) :
    (host.next operation).registry.slotOf conn = .empty
      ∧ (host.next operation).world.events =
        host.world.events
          ++ (host.registry.slotOf conn).leaving (catalog.loader faults) conn host.world
          ++ (host.outcome conn request).giveUp conn request.path
      ∧ ∀ path reason,
        (host.next operation).AreLevel
          (.aheadBy (if (host.outcome conn request).opened then 1 else 0))
          (host.unopened conn path reason) := by
  obtain ⟨slot, left, hindex, hresult, hnext, hexit⟩ :=
    attached_of_not_refused hrequest hanswer rfl
  rw [hloader] at hexit
  obtain ⟨rfl, rfl⟩ := hexit.of_panicked hresult
  rw [hnext]
  refine ⟨?_, ?_, fun path reason => ⟨rfl, rfl, rfl, rfl, rfl, rfl, [], by simp, by simp⟩⟩
  · rw [slotOf_setSlot_of_index? hindex, if_pos rfl]
  · rw [released, Slot.events_vacate, hloader]

end Host

/-! ### Sessions with different pasts -/

namespace Session

/-- Two sessions have the same payloads and the same registry, in worlds that differ in what has
happened and in how many opens have been counted. -/
structure AheadBy (session : Session Tally S (Exports S)) (extra : Nat)
    (other : Session Tally S (Exports S)) : Prop where
  /-- The hosts. -/
  host : session.host.AreLevel (.aheadBy extra) other.host
  /-- The payloads. -/
  payloads : session.payloads = other.payloads

variable {session other : Session Tally S (Exports S)} {extra : Nat}

theorem AheadBy.handOver (hahead : session.AheadBy extra other) (conn : ConnectionId)
    (name : String) (shown : Bool) :
    World.SameResult (.aheadBy extra) session.host.world.events other.host.world.events
      (session.handOver conn name shown) (other.handOver conn name shown) := by
  have hexact := @Leeway.isExact_aheadBy S extra
  obtain ⟨⟨hregistry, hworld⟩, hpayloads⟩ := hahead
  unfold Session.handOver
  rw [hregistry, hpayloads]
  cases shown with
  | true => exact other.host.registry.invokePayload_parallel hexact hworld (other.payloads name)
  | false =>
    obtain ⟨hresult, hleft⟩ : World.SameResult (.aheadBy extra) _ _
      (other.host.registry.invoke conn (other.payloads name).call session.host.world)
      (other.host.registry.invoke conn (other.payloads name).call other.host.world) :=
        other.host.registry.invoke_parallel hexact hworld _
    simp only [Bool.false_eq_true, if_false, hresult]
    exact ⟨rfl, hleft⟩

/-- A step of a session does not depend on what has happened. -/
theorem AheadBy.perform (hloader : session.host.registry.loader = catalog.loader faults)
    (hahead : session.AheadBy extra other) (step : Step) :
    (session.perform step).1 = (other.perform step).1
      ∧ (session.perform step).2.AheadBy extra (other.perform step).2 := by
  cases step with
  | registry operation =>
    have hrespects : session.host.registry.loader.Respects (.aheadBy extra) := by
      rw [hloader]
      exact catalog.respects_aheadBy faults extra
    obtain ⟨hanswer, -, hnext⟩ :=
      hahead.host.perform hrespects fun _ => Leeway.isExact_aheadBy extra
    exact ⟨congrArg Answer.registry hanswer, hnext, hahead.payloads⟩
  | call conn name shown =>
    obtain ⟨hresult, hworld⟩ := hahead.handOver conn name shown
    simp only [perform_call, returned, hresult, hahead.payloads]
    exact ⟨trivial, ⟨hahead.host.registry, hworld.level⟩, rfl⟩
  | payload step =>
    simp only [Session.perform, hahead.payloads]
    exact ⟨trivial, hahead.host, rfl⟩

/-- A run of a session does not depend on what has happened before it. -/
theorem AheadBy.run (hloader : session.host.registry.loader = catalog.loader faults)
    (hahead : session.AheadBy extra other) (steps : List Step) :
    Run.trace Session.perform session steps = Run.trace Session.perform other steps
      ∧ (Run.after Session.perform session steps).AheadBy extra
        (Run.after Session.perform other steps)
      ∧ (Run.after Session.perform session steps).host.registry.loader = catalog.loader faults := by
  -- on the run, from any two sessions that differ in the past alone
  induction steps generalizing session other with
  | nil => exact ⟨rfl, hahead, hloader⟩
  | cons step rest ih =>
    have hkept : (session.perform step).2.host.registry.loader = catalog.loader faults :=
      perform_of_change (motive := fun host => host.registry.loader = catalog.loader faults)
        (fun hhost hchange => hchange.constants.1.trans hhost) hloader step
    obtain ⟨hanswer, hnext⟩ := hahead.perform hloader step
    obtain ⟨htrace, hafter⟩ := ih hkept hnext
    exact ⟨by rw [Run.trace, Run.trace, hanswer, htrace], hafter⟩

/-- **Nobody can tell a loader that gave up from a library that could not be opened.** After every
run over a catalog that gives up, a load in which it does so leaves its connection empty and all
other ones as they are; what the connection held has been closed, and so has a library that was
opened before the catalog gave up. From there every run gives the answers, and leaves the slots,
payloads, files and open libraries, that it gives and leaves from where a failure to open would have
led, and so does giving up the registry. The catalog has counted one open more if it gave up
after it had opened the library, and none more otherwise. -/
theorem panicked_as_unopened {catalog : Catalog S} {faults : Faults} {settings : Settings}
    {world : World Tally S} {history : List Operation} {operation : Operation}
    {conn : ConnectionId} {request : LoadRequest} {message : String}
    (hrequest : operation.request? settings = some (conn, request))
    (hpanicked :
      (((Host.start (catalog.loader faults) settings
        { world with books := {} }).after history).perform operation).1 =
          .load (.panicked message)) :
    let host :=
      (Host.start (catalog.loader faults) settings { world with books := {} }).after history
    let panicked := host.next operation
    let outcome := host.outcome conn request
    let extra := if outcome.opened then 1 else 0
    panicked.registry.slotOf conn = .empty
      ∧ (∀ other, other ≠ conn → panicked.registry.slotOf other = host.registry.slotOf other)
      ∧ panicked.world.books.openHandles = panicked.registry.loadedCount
      ∧ panicked.world.events =
        host.world.events
          ++ (host.registry.slotOf conn).leaving (catalog.loader faults) conn host.world
          ++ outcome.giveUp conn request.path
      ∧ (∀ instead wanted path reason, instead.request? settings = some (conn, wanted) →
          (host.perform instead).1 = .load (.failed (.libraryNotFound path reason)) →
          host.next instead = host.unopened conn path reason)
      ∧ ∀ path reason payloads steps,
        let unopened := host.unopened conn path reason
        let left := Run.after perform ⟨panicked, payloads⟩ steps
        let left' := Run.after perform ⟨unopened, payloads⟩ steps
        Run.trace perform ⟨panicked, payloads⟩ steps = Run.trace perform ⟨unopened, payloads⟩ steps
          ∧ left.AheadBy extra left'
          ∧ left.host.drop.Parallel (.aheadBy extra) left.host.world.events
            left'.host.world.events left'.host.drop := by
  intro host panicked outcome extra
  -- the loader and the settings are those of the start throughout
  have hconstants :=
    (Host.start (catalog.loader faults) settings { world with books := {} }).after_constants history
  have hloader : host.registry.loader = catalog.loader faults := hconstants.1
  have hsettings : host.registry.settings = settings := hconstants.2.1
  have hconn : operation.conn? = some conn := by
    cases operation <;> cases hrequest <;> rfl
  rw [← hsettings] at hrequest
  -- after the panic the host is ahead of the other one by one open at most
  obtain ⟨hempty, hevents, hlevel⟩ := Host.next_of_panicked hloader hrequest hpanicked
  have hhandles := (Host.handles_after_and_drop catalog faults settings world
    (history ++ [operation])).1
  rw [Host.after, List.foldl_append] at hhandles
  refine ⟨hempty, fun other hother => Host.slotOf_next_of_ne hconn hother, hhandles, hevents, ?_,
    ?_⟩
  · intro instead wanted path reason hwanted hanswer
    rw [← hsettings] at hwanted
    exact Host.next_of_notOpened hloader hwanted hanswer
  · intro path reason payloads steps
    have hkept : panicked.registry.loader = catalog.loader faults :=
      (host.after_constants [operation]).1.trans hloader
    have hsessions :
        AheadBy ⟨panicked, payloads⟩ extra ⟨host.unopened conn path reason, payloads⟩ :=
      ⟨hlevel path reason, rfl⟩
    obtain ⟨htrace, hleft, hstill⟩ := hsessions.run hkept steps
    refine ⟨htrace, hleft, hleft.host.drop ?_⟩
    rw [hstill]
    exact catalog.respects_aheadBy faults extra

/-- A catalog that gives up looking for an entry point while another library is loaded on the
connection. A library that is not listed would have left the same. -/
theorem panicked_as_unopened_resolve :
    let catalog : Catalog Nat := Catalog.register {} (.ofText "ctrl") "DISCON" .tally
    let faults : Faults :=
      { resolvePanic? := fun symbol => if symbol = "gone" then some "gone" else none }
    let settings : Settings := { maxConnections := 2, serializeLoader := true }
    let host :=
      (Host.start (catalog.loader faults) settings
        { tempDir := .ofText "/tmp", books := {}, state := 0 }).after
          [.load 0 (.ofText "ctrl") "DISCON"]
    let operation : Operation := .load 0 (.ofText "ctrl") "gone"
    let instead : Operation := .load 0 (.ofText "absent") "DISCON"
    operation.request? settings = some (0, ⟨.ofText "ctrl", "gone", true⟩)
      ∧ (host.perform operation).1 = .load (.panicked "gone")
      ∧ (host.next operation).registry.slotOf 0 = .empty
      ∧ (host.next operation).world.books.openHandles = 0
      ∧ (host.next operation).world.books.opens = 2
      ∧ ∀ payloads steps,
        Run.trace perform ⟨host.next operation, payloads⟩ steps =
          Run.trace perform ⟨host.next instead, payloads⟩ steps := by
  intro catalog faults settings host operation instead
  have hrequest : operation.request? settings = some (0, ⟨.ofText "ctrl", "gone", true⟩) := rfl
  have hpanicked : (host.perform operation).1 = .load (.panicked "gone") :=
    congrArg Answer.load (by decide +kernel)
  have hfailed : (host.perform instead).1 =
      .load (.failed (.libraryNotFound (.ofText "absent")
        "absent: no such library registered")) :=
    congrArg Answer.load (by decide +kernel)
  obtain ⟨hempty, -, -, -, hinstead, hruns⟩ := @panicked_as_unopened Nat catalog faults settings
    { tempDir := .ofText "/tmp", books := {}, state := 0 } _ _ _ _ _ hrequest hpanicked
  refine ⟨hrequest, hpanicked, hempty, by decide +kernel, by decide +kernel, ?_⟩
  intro payloads steps
  rw [hinstead instead ⟨.ofText "absent", "DISCON", true⟩ _ _ rfl hfailed]
  exact (hruns _ _ payloads steps).1

end Session

end ControllerHost
