import ControllerHost.Linker.Samples
import ControllerHost.Proofs.Host.Counterpart
import ControllerHost.Proofs.Linker.Contents
import ControllerHost.Proofs.Session.Run

/-!
# Connections that do not notice each other

When every load asks for a private copy of contents that stand alone, connections with payloads of
their own do not notice each other: whatever the others load, call and unload, each is told what it
would be told if it were alone, up to the random parts of the copies' names. So the state of a
library that several connections have loaded is, for each of them, that of its own calls. Private
copies alone do not keep connections apart, since the platform knows open libraries by names as
well.

- `Session.Turn`, `Session.act`: steps for which the random parts of names come from anywhere.
- `Session.Step.IsFor`, `Session.Step.IsWithin`: the parts of a session.
- `Session.Permits`: the loads that are made.
- `Session.callsSince`: the calls of each connection since it was loaded.
- `Session.answered_as_alone`: each part of a session fares as it does alone.
- `Session.Interferes`, `Session.not_answered_as_alone`: sessions in which a part does not.
-/

namespace ControllerHost.Session

variable {B S L File State : Type} {platform : Platform B S L}

/-! ### Turns -/

/-- A step, and where the random part of a name comes from if the step makes a private copy. -/
structure Turn where
  /-- The source of random parts. -/
  names : NameSource
  /-- The step. -/
  step : Step

/-- The session with another source of random parts. -/
def drawing (session : Session B S L) (names : NameSource) : Session B S L where
  host := ⟨session.host.registry, { session.host.world with names }⟩
  payloads := session.payloads

/-- What a turn gives and leaves. -/
def act (session : Session B S L) (turn : Turn) : Answer × Session B S L :=
  (session.drawing turn.names).perform turn.step

/-- Two turns make the same step, with sources that can pick a part in the same situations. -/
structure Turn.Alike (turn other : Turn) : Prop where
  /-- The step. -/
  step : turn.step = other.step
  /-- The sources. -/
  names : ∀ taken, (turn.names.pick taken).isSome = (other.names.pick taken).isSome

/-- Two answers are the same, up to the random part of a copy's name. -/
inductive Answer.Matches (conn : ConnectionId) : Answer → Answer → Prop
  | same (answer : Answer) : Matches conn answer answer
  | registry {answer answer' : ControllerHost.Answer} (hanswer : answer.Matches conn answer') :
      Matches conn (.registry answer) (.registry answer')

/-! ### Parts of a session -/

/-- The connection whose part something belongs to, for an owner of each payload. -/
def Resource.part (owner : String → ConnectionId) : Resource → ConnectionId
  | connection conn => conn
  | payload name => owner name

/-- A step is addressed to a connection, or to payloads of its own. -/
def Step.IsFor (owner : String → ConnectionId) (conn : ConnectionId) (step : Step) : Prop :=
  step.resources ≠ [] ∧ ∀ resource ∈ step.resources, resource.part owner = conn

instance (owner : String → ConnectionId) (conn : ConnectionId) (step : Step) :
    Decidable (step.IsFor owner conn) := inferInstanceAs (Decidable (_ ∧ _))

/-- Whether a step gives up everything. -/
def Step.isShutDown : Step → Bool
  | registry .shutDown => true
  | _ => false

/-- All that a step uses belongs to one part, and it is not the shutdown. -/
def Step.IsWithin (owner : String → ConnectionId) (step : Step) : Prop :=
  step.isShutDown = false ∧ ∀ resource ∈ step.resources, ∀ other ∈ step.resources,
    resource.part owner = other.part owner

instance (owner : String → ConnectionId) (step : Step) : Decidable (step.IsWithin owner) :=
  inferInstanceAs (Decidable (_ ∧ _))

/-- A turn stays within one part. If it makes a load, the load is one that is allowed, by a path
that avoids all private copies. -/
structure Permits (owner : String → ConnectionId) (allowed : LoadRequest → Prop)
    (session : Session B S L) (turn : Turn) : Prop where
  /-- The part. -/
  within : turn.step.IsWithin owner
  /-- The load. -/
  loads : ∀ operation ∈ turn.step.operation? session, ∀ conn request,
    session.host.accepted? operation = some (conn, request) →
      allowed request ∧ session.host.Avoids request.path

instance (owner : String → ConnectionId) (allowed : LoadRequest → Prop) [DecidablePred allowed]
    (session : Session B S L) (turn : Turn) : Decidable (Permits owner allowed session turn) :=
  decidable_of_iff (turn.step.IsWithin owner ∧ ∀ operation ∈ turn.step.operation? session,
      ∀ load ∈ session.host.accepted? operation, allowed load.2 ∧ session.host.Avoids load.2.path)
    ⟨fun ⟨hwithin, hloads⟩ => ⟨hwithin, fun operation hoperation _ _ haccepted =>
        hloads operation hoperation _ haccepted⟩,
      fun hmay => ⟨hmay.within, fun operation hoperation load haccepted =>
        hmay.loads operation hoperation load.1 load.2 haccepted⟩⟩

/-- A turn that makes a load is permitted if the load is. -/
theorem permits_load {owner : String → ConnectionId} {allowed : LoadRequest → Prop}
    {session : Session B S L} {names : NameSource} {conn : ConnectionId} {path : Path}
    {symbol : String} {request : LoadRequest}
    (haccepted : session.host.accepted? (.load conn path symbol) = some (conn, request))
    (hallowed : allowed request) (havoids : session.host.Avoids request.path) :
    Permits owner allowed session ⟨names, .registry (.load conn path symbol)⟩ := by
  refine ⟨⟨rfl, by simp [Step.resources, Operation.conn?]⟩, ?_⟩
  rintro _ ⟨⟩ conn' request' hrequest
  cases haccepted.symm.trans hrequest
  exact ⟨hallowed, havoids⟩

/-- A turn that hands a payload over is permitted if the payload belongs to the connection. -/
theorem permits_call {owner : String → ConnectionId} {allowed : LoadRequest → Prop}
    {session : Session B S L} {names : NameSource} {conn : ConnectionId} {name : String}
    (shown : Bool) (howner : owner name = conn) :
    Permits owner allowed session ⟨names, .call conn name shown⟩ := by
  refine ⟨⟨rfl, by simp [Step.resources, Resource.part, howner]⟩, ?_⟩
  cases shown <;> rintro _ ⟨⟩ conn' request ⟨⟩

/-- Drawing names from elsewhere permits no less. -/
theorem Permits.drawing {owner : String → ConnectionId} {allowed : LoadRequest → Prop}
    {session : Session B S L} {turn : Turn} (hmay : Permits owner allowed session turn) :
    Permits owner allowed (session.drawing turn.names) turn :=
  ⟨hmay.within, hmay.loads⟩

/-- The calls of each connection since it was loaded, after one more turn. -/
def recount (session : Session B S L) (calls : ConnectionId → List CallBuffers) (step : Step) :
    ConnectionId → List CallBuffers :=
  (step.operation? session).elim calls fun operation =>
    Host.recount calls operation (session.host.perform operation).1

/-- The calls of each connection since it was loaded, after several turns. -/
def callsSince (session : Session B S L) (calls : ConnectionId → List CallBuffers) :
    List Turn → ConnectionId → List CallBuffers
  | [] => calls
  | turn :: rest =>
    callsSince (act session turn).2 (recount (session.drawing turn.names) calls turn.step) rest

variable {contents : platform.Contents File State} {aside : Bytes → Prop}
  {owner : String → ConnectionId} {conn : ConnectionId} {before : FileSystem} {directory : Path}
  {calls calls' : ConnectionId → List CallBuffers} {session solo : Session B S L} {step : Step}
  {turn other : Turn} {allowed : LoadRequest → Prop}

theorem Step.IsFor.conn? (hfor : step.IsFor owner conn) (session : Session B S L)
    {operation : Operation} (hoperation : operation ∈ step.operation? session) :
    operation.conn? = some conn := by
  obtain ⟨hused, hparts⟩ := hfor
  cases step with
  | registry asked =>
    cases hoperation
    cases hconn : operation.conn? with
    | none => simp [resources, hconn] at hused
    | some conn' =>
      have hpart := hparts (.connection conn') (by simp [resources, hconn])
      exact congrArg some hpart
  | call conn' name shown =>
    have hpart : conn' = conn := hparts (.connection conn') (by simp [resources])
    cases shown <;> cases hoperation <;> exact congrArg some hpart
  | payload step => cases hoperation

theorem Step.IsWithin.ne_shutDown (hwithin : step.IsWithin owner) {operation : Operation}
    (hoperation : operation ∈ step.operation? session) : operation ≠ .shutDown := by
  rintro rfl
  cases step with
  | registry asked =>
    cases hoperation
    cases hwithin.1
  | call conn name shown => cases shown <;> cases hoperation
  | payload step => cases hoperation

/-- A step of another part asks nothing on the connection. -/
theorem Step.IsWithin.conn?_ne (hwithin : step.IsWithin owner) (hother : ¬ step.IsFor owner conn)
    {operation : Operation} (hoperation : operation ∈ step.operation? session) :
    operation.conn? ≠ some conn := by
  have hunused : .connection conn ∉ step.resources := by
    intro hmem
    refine hother ⟨List.ne_nil_of_mem hmem, fun resource hresource => ?_⟩
    exact hwithin.2 resource hresource _ hmem
  cases step with
  | registry asked =>
    cases hoperation
    exact fun hconn => hunused (by simp [resources, hconn])
  | call conn' name shown =>
    have hne : conn' ≠ conn := by
      rintro rfl
      exact hunused (by simp [resources])
    cases shown <;> cases hoperation <;> simp [Operation.conn?, hne]
  | payload step => cases hoperation

theorem Step.IsWithin.payload_not_mem (hwithin : step.IsWithin owner)
    (hother : ¬ step.IsFor owner conn) {name : String} (hname : owner name = conn) :
    .payload name ∉ step.resources := by
  intro hmem
  refine hother ⟨List.ne_nil_of_mem hmem, fun resource hresource => ?_⟩
  exact (hwithin.2 resource hresource _ hmem).trans hname

/-! ### One part and all parts -/

/-- A part of a session stands where it does in a session of its own. -/
structure Counterpart (contents : platform.Contents File State) (aside : Bytes → Prop)
    (owner : String → ConnectionId) (conn : ConnectionId) (before : FileSystem) (directory : Path)
    (session solo : Session B S L) : Prop where
  host : ∃ calls calls', Host.Counterpart contents aside conn before directory calls calls'
    session.host solo.host
  payloads : ∀ name, owner name = conn → session.payloads name = solo.payloads name

namespace Counterpart

theorem drawing
    (hcounter : Counterpart contents aside owner conn before directory session solo)
    (names names' : NameSource) : Counterpart contents aside owner conn before directory
      (session.drawing names) (solo.drawing names') where
  host := by
    obtain ⟨calls, calls', hhost⟩ := hcounter.host
    exact ⟨calls, calls', hhost.inWorlds rfl rfl rfl rfl rfl rfl rfl rfl⟩
  payloads := hcounter.payloads

/-- A step of the part asks the same in both sessions. -/
theorem operation? (hcounter : Counterpart contents aside owner conn before directory session solo)
    (hfor : step.IsFor owner conn) : step.operation? session = step.operation? solo := by
  cases step with
  | registry operation | payload step => rfl
  | call conn' name shown =>
    have hname : owner name = conn := hfor.2 (.payload name) (by simp [Step.resources])
    cases shown <;> simp only [Step.operation?, hcounter.payloads name hname]

/-- A payload of the part that is handed over comes back the same in both sessions. -/
theorem handOver (hcounter : Counterpart contents aside owner conn before directory session solo)
    {name : String} (hname : owner name = conn) (shown : Bool) :
    (session.handOver conn name shown).1 = (solo.handOver conn name shown).1 := by
  obtain ⟨calls, calls', hhost⟩ := hcounter.host
  have hpayload := hcounter.payloads name hname
  cases shown with
  | true =>
    have hanswer : (session.host.perform (.invokePayload conn (session.payloads name))).1 =
        (solo.host.perform (.invokePayload conn (session.payloads name))).1 := hhost.call rfl rfl
    simp only [Host.perform, ControllerHost.Answer.invokePayload.injEq] at hanswer
    simpa only [Session.handOver, if_true, ← hpayload] using hanswer
  | false =>
    have hanswer : (session.host.perform (.invoke conn (session.payloads name).call)).1 =
        (solo.host.perform (.invoke conn (session.payloads name).call)).1 := hhost.call rfl rfl
    simp only [Host.perform, ControllerHost.Answer.invoke.injEq] at hanswer
    simp only [Session.handOver, Bool.false_eq_true, if_false, ← hpayload, hanswer]

/-- A step of the part is answered the same in both sessions, and leaves the part where it stands in
the other one. -/
theorem perform (hcounter : Counterpart contents aside owner conn before directory session solo)
    (hnames : ∀ taken, (session.host.world.names.pick taken).isSome =
      (solo.host.world.names.pick taken).isSome)
    (hfor : step.IsFor owner conn) {names : NameSource}
    (hmay : Permits owner (fun request => request.IsPrivate contents aside before) session
      ⟨names, step⟩) :
    (session.perform step).1.Matches conn (solo.perform step).1
      ∧ Counterpart contents aside owner conn before directory (session.perform step).2
        (solo.perform step).2 := by
  obtain ⟨calls, calls', hhost⟩ := hcounter.host
  have hleft : ∃ calls calls', Host.Counterpart contents aside conn before directory calls calls'
      (session.perform step).2.host (solo.perform step).2.host := by
    rw [host_perform, host_perform, ← hcounter.operation? hfor]
    cases hoperation : step.operation? session with
    | none => exact ⟨calls, calls', hhost⟩
    | some operation =>
      exact ⟨_, _, hhost.next hnames (hfor.conn? session hoperation)
        (hhost.insulated.loadsPrivately (hmay.loads operation hoperation))⟩
  cases step with
  | registry operation =>
    -- what a load asks for is allowed, and so the connection is told the same
    have hanswer := hhost.answer hnames (hfor.conn? session rfl)
      (hhost.insulated.loadsPrivately (hmay.loads operation rfl))
    exact ⟨.registry hanswer.1, hleft, hcounter.payloads⟩
  | call conn' name shown =>
    obtain rfl : conn' = conn := hfor.2 (.connection conn') (by simp [Step.resources])
    have hname : owner name = conn' := hfor.2 (.payload name) (by simp [Step.resources])
    -- the payload is the part's own, and so the same is handed over
    have hresult := hcounter.handOver hname shown
    have hreturned : session.returned conn' name shown = solo.returned conn' name shown := by
      rw [returned, returned, hresult, hcounter.payloads name hname]
    refine ⟨?_, hleft, fun other hother => ?_⟩
    · rw [perform_call, perform_call, hresult, hreturned]
      exact .same _
    · simp only [perform_call, Function.update_apply, hreturned, hcounter.payloads other hother]
  | payload step =>
    have hmine : ∀ name ∈ step.names, owner name = conn := fun name hmem =>
      hfor.2 (.payload name) (by simpa [Step.resources] using hmem)
    obtain ⟨hanswer, hpayloads⟩ := PayloadStep.perform_congr hmine hcounter.payloads
    refine ⟨?_, hleft, hpayloads⟩
    simp only [Session.perform, hanswer]
    exact .same _

/-- A step of another part leaves the part where it stands. -/
theorem skip (hcounter : Counterpart contents aside owner conn before directory session solo)
    (hother : ¬ step.IsFor owner conn) {names : NameSource}
    (hmay : Permits owner (fun request => request.IsPrivate contents aside before) session
      ⟨names, step⟩) :
    Counterpart contents aside owner conn before directory (session.perform step).2 solo where
  host := by
    obtain ⟨calls, calls', hhost⟩ := hcounter.host
    rw [host_perform]
    cases hoperation : step.operation? session with
    | none => exact ⟨calls, calls', hhost⟩
    | some operation =>
      exact ⟨_, _, hhost.skip (hmay.within.conn?_ne hother hoperation)
        (hmay.within.ne_shutDown hoperation)
        (hhost.insulated.loadsPrivately (hmay.loads operation hoperation))⟩
  payloads name hname := by
    rw [payloads_perform_of_not_mem session (hmay.within.payload_not_mem hother hname)]
    exact hcounter.payloads name hname

end Counterpart

/-- A part of a session fares as it does alone. -/
theorem Counterpart.run
    (hcounter : Counterpart contents aside owner conn before directory session solo)
    {turns alone : List Turn}
    (hmay : Run.Allows act
      (Permits owner fun request => request.IsPrivate contents aside before) session turns)
    (halone : List.Forall₂ Turn.Alike (turns.filter fun turn => turn.step.IsFor owner conn) alone) :
    List.Forall₂ (Answer.Matches conn)
        (((Run.trace act session turns).filter fun entry => entry.1.step.IsFor owner conn).map
          Prod.snd)
        ((Run.trace act solo alone).map Prod.snd)
      ∧ Counterpart contents aside owner conn before directory (Run.after act session turns)
        (Run.after act solo alone) := by
  have hmine {session solo : Session B S L} {turn turn' : Turn}
      (hcounter : Counterpart contents aside owner conn before directory session solo)
      (hmay : Permits owner (fun request => request.IsPrivate contents aside before) session turn)
      (hfor : decide (turn.step.IsFor owner conn))
      (halike : turn.Alike turn') : (act session turn).1.Matches conn (act solo turn').1
        ∧ Counterpart contents aside owner conn before directory (act session turn).2
          (act solo turn').2 := by
    rw [act, act, ← halike.step]
    exact (hcounter.drawing turn.names turn'.names).perform halike.names (of_decide_eq_true hfor)
      hmay.drawing
  have hother {session solo : Session B S L} {turn : Turn}
      (hcounter : Counterpart contents aside owner conn before directory session solo)
      (hmay : Permits owner (fun request => request.IsPrivate contents aside before) session turn)
      (hother : decide (turn.step.IsFor owner conn) = false) :
      Counterpart contents aside owner conn before directory (act session turn).2 solo :=
    (hcounter.drawing turn.names solo.host.world.names).skip (of_decide_eq_false hother)
      hmay.drawing
  exact Run.trace_filter hmine hother hcounter hmay halone

/-! ### The calls of a connection -/

/-- What keeps the connections to their copies is kept by every turn, and so is the count of
calls. -/
theorem insulated_act (hinsulated : session.host.Insulated contents aside before directory calls)
    (hmay : Permits owner (fun request => request.IsPrivate contents aside before) session turn) :
    (act session turn).2.host.Insulated contents aside before directory
      (recount (session.drawing turn.names) calls turn.step) := by
  have hdrawn : (session.drawing turn.names).host.Insulated contents aside before directory calls :=
    hinsulated.same rfl rfl rfl rfl rfl
  rw [act, host_perform, recount]
  cases hoperation : turn.step.operation? (session.drawing turn.names) with
  | none => exact hdrawn
  | some operation =>
    exact hdrawn.next (hmay.within.ne_shutDown hoperation)
      (hdrawn.loadsPrivately (hmay.drawing.loads operation hoperation))

theorem insulated_after (hinsulated : session.host.Insulated contents aside before directory calls)
    {turns : List Turn}
    (hmay : Run.Allows act
      (Permits owner fun request => request.IsPrivate contents aside before) session turns) :
    (Run.after act session turns).host.Insulated contents aside before directory
      (callsSince session calls turns) := by
  induction turns generalizing session calls with
  | nil => exact hinsulated
  | cons turn rest ih => exact ih (insulated_act hinsulated hmay.1) hmay.2

/-- A payload with storage that is handed to a loaded connection comes back with what the routine
makes of its buffers after the connection's calls before it. -/
theorem handOver_eq (hinsulated : session.host.Insulated contents aside before directory calls)
    {controller : LoadedController S L}
    (hslot : session.host.registry.slotOf conn = .loaded controller) {name : String}
    (hstorage : (session.payloads name).call.firstEmpty? = none) (shown : Bool) :
    (session.handOver conn name shown).1 = .ok
      { session.payloads name with
        call := ((controller.own contents.toInstances).run
          (controller.stateAfter contents (calls conn)) (session.payloads name).call).2 } := by
  cases shown with
  | true =>
    have hcall : (Operation.invokePayload conn (session.payloads name)).call? =
        some (conn, (session.payloads name).call) := by simp [Operation.call?, hstorage]
    have hanswer := hinsulated.perform_calling hcall hslot
    simp only [Host.perform, Operation.called, ControllerHost.Answer.invokePayload.injEq] at hanswer
    simpa only [handOver, if_true] using hanswer
  | false =>
    have hcall : (Operation.invoke conn (session.payloads name).call).call? =
        some (conn, (session.payloads name).call) := by simp [Operation.call?, hstorage]
    have hanswer := hinsulated.perform_calling hcall hslot
    simp only [Host.perform, Operation.called, ControllerHost.Answer.invoke.injEq] at hanswer
    simp only [handOver, Bool.false_eq_true, if_false, hanswer]
    rfl

/-- **Connections with private copies of contents that stand alone do not notice each other.** Take
any run over a platform in which nobody shuts the registry down, every step stays within the part of
one connection and its own payloads, and every load asks for a private copy, by a path that led to
such contents at the start, or to no file and that the platform refuses, and that leads to no
private copy and through none. At the start let nothing be open from where there is no file, let the
platform take the directory for copies as it is written, and let no contents go by a name that a
refusal depends on. Then each part is answered what it is answered when its steps are the only ones,
up to the random part of its copies' names. At every moment of the run, what is loaded on a
connection is what the contents of the file come to that its path leads to, and a call on it sees
the state that the connection's own calls since its last load have made of the state that these
contents begin with, however often and by whom the file has been loaded, called and unloaded. -/
theorem answered_as_alone (contents : platform.Contents File State) (aside : Bytes → Prop)
    (settings : Settings) {world : World B S} (horderly : contents.Orderly aside world)
    (hdollar : Platform.dollar ∉ ((FileSystem.absolute world.files.workDir).join
      (settings.copyDir?.getD world.tempDir)).bytes)
    (payloads : String → Payload) (owner : String → ConnectionId) {turns : List Turn}
    (hmay : Run.Allows act
      (Permits owner fun request => request.IsPrivate contents aside world.files)
      ⟨Host.start platform.loader settings world, payloads⟩ turns) :
    let session : Session B S L := ⟨Host.start platform.loader settings world, payloads⟩
    (∀ conn alone,
        List.Forall₂ Turn.Alike (turns.filter fun turn => turn.step.IsFor owner conn) alone →
          List.Forall₂ (Answer.Matches conn)
            (((Run.trace act session turns).filter fun entry =>
              entry.1.step.IsFor owner conn).map Prod.snd)
            ((Run.trace act session alone).map Prod.snd))
      ∧ ∀ done rest, turns = done ++ rest →
        let left := Run.after act session done
        let calls := callsSince session (fun _ => []) done
        ∀ conn controller, left.host.registry.slotOf conn = .loaded controller →
          controller.IsFrom contents world.files
            ∧ ∀ buffers,
              let next := ((controller.own contents.toInstances).run
                (controller.stateAfter contents (calls conn)) buffers).2
              (∀ operation, operation.call? = some (conn, buffers) →
                (left.host.perform operation).1 = operation.called next)
              ∧ (buffers.firstEmpty? = none → ∀ name shown, (left.payloads name).call = buffers →
                (left.perform (.call conn name shown)).1 =
                  .call (.ok ()) { left.payloads name with call := next }) := by
  intro session
  have hinsulated : session.host.Insulated contents aside world.files
      (settings.copyDir?.getD world.tempDir) fun _ => [] :=
    Host.insulated_start settings horderly hdollar _
  constructor
  -- the session that a part has for itself starts as the session does
  · intro conn alone halone
    have hcounter : Counterpart contents aside owner conn world.files
        (settings.copyDir?.getD world.tempDir) session session :=
      ⟨⟨_, _, Host.counterpart_start settings horderly hdollar fun _ => []⟩, fun _ _ => rfl⟩
    exact (hcounter.run hmay halone).1
  · rintro done rest rfl left calls conn controller hslot
    have hleft : left.host.Insulated contents aside world.files
        (settings.copyDir?.getD world.tempDir) calls :=
      insulated_after hinsulated hmay.left
    refine ⟨hleft.sources conn controller hslot, fun buffers => ?_⟩
    intro next
    refine ⟨fun operation hcall => hleft.perform_calling hcall hslot, ?_⟩
    rintro hstorage name shown rfl
    rw [perform_call, returned, handOver_eq hleft hslot hstorage]
    rfl

/-- Two connections have loaded one controller that counts its calls, and one of them has tried to
load what it does not export. -/
theorem answered_as_alone_two :
    let path : Path := .ofText "/lib/ctrl.so"
    let world := Linker.bare (fun _ => 0) ["lib", "tmp"] [(["lib", "ctrl.so"], "counting")]
    let steps : List Step :=
      [.registry (.load 0 path "DISCON"), .registry (.load 1 path "DISCON"), .call 0 "mine" false,
        .call 1 "theirs" true, .registry (.load 1 path "ABSENT"), .call 0 "mine" false]
    let turns := steps.map fun step => Turn.mk .firstFree step
    let owner : String → ConnectionId := fun name => if name = "mine" then 0 else 1
    let session : Session (Linker.Books Nat) (Linker.State Nat) (Linker.Handle Nat) :=
      ⟨Host.start Linker.sample.platform.loader { maxConnections := 2 } world,
        fun _ => .zeroed 1 4⟩
    let mine := turns.filter fun turn => turn.step.IsFor owner 0
    Run.Allows act (Permits owner fun request =>
        request.IsPrivate Linker.sample.contents (fun _ => False) world.files) session turns
      ∧ List.Forall₂ (Answer.Matches 0)
        (((Run.trace act session turns).filter fun entry =>
          entry.1.step.IsFor owner 0).map Prod.snd)
        ((Run.trace act session mine).map Prod.snd)
      ∧ (callsSince session (fun _ => []) (turns.take 5) 0).length = 1
      ∧ ((Run.after act session turns).payloads "mine").call.swap = [Single.ofNat 2] := by
  intro path world steps turns owner session mine
  have hlookup : world.files.lookup path =
      .ok ([Bytes.ofText "lib", Bytes.ofText "ctrl.so"], .file (Bytes.ofText "counting")) := by
    decide +kernel
  have hplain : ∀ fileName, path.fileName? = some fileName → Platform.dollar ∉ fileName := by
    decide +kernel
  have hprivate (symbol : String) : LoadRequest.IsPrivate ⟨path, symbol, true⟩
      Linker.sample.contents (fun _ => False) world.files :=
    ⟨rfl, .file hlookup Linker.standsAlone_counting (fun _ => False.elim) hplain⟩
  have hmay : Run.Allows act (Permits owner fun request =>
      request.IsPrivate Linker.sample.contents (fun _ => False) world.files) session turns := by
    refine ⟨permits_load ?_ (hprivate "DISCON") ?_, permits_load ?_ (hprivate "DISCON") ?_,
      permits_call false ?_, permits_call true ?_, permits_load ?_ (hprivate "ABSENT") ?_,
      permits_call false ?_, trivial⟩ <;> decide +kernel
  have horderly : Linker.sample.contents.Orderly (fun _ => False) world :=
    ⟨fun _ _ => rfl, fun _ => False.elim⟩
  have hrun := answered_as_alone Linker.sample.contents (fun _ => False) { maxConnections := 2 }
    horderly (by decide +kernel) (fun _ => .zeroed 1 4) owner hmay
  refine ⟨hmay, hrun.1 0 mine (List.forall₂_same.2 fun _ _ => ⟨rfl, fun _ => rfl⟩), ?_, ?_⟩ <;>
    decide +kernel

/-! ### Connections that notice each other -/

/-- A private copy is asked for, by a path without a NUL that leads to a file or that the platform
cannot open. -/
structure IsIsolated (platform : Platform B S L) (world : World B S) (request : LoadRequest) :
    Prop where
  /-- A private copy is asked for. -/
  isolate : request.isolate = true
  /-- There is no NUL. -/
  nul : 0 ∉ request.path.bytes
  /-- The path leads to a file, or is refused. -/
  leads : world.files.isFile request.path = true
    ∨ (platform.openPath world.files world.books request.path).1.isOk = false

instance (platform : Platform B S L) (world : World B S) (request : LoadRequest) :
    Decidable (IsIsolated platform world request) :=
  decidable_of_iff (request.isolate = true ∧ 0 ∉ request.path.bytes
      ∧ (world.files.isFile request.path = true
        ∨ (platform.openPath world.files world.books request.path).1.isOk = false))
    ⟨fun ⟨hisolate, hnul, hleads⟩ => ⟨hisolate, hnul, hleads⟩,
      fun hrequest => ⟨hrequest.isolate, hrequest.nul, hrequest.leads⟩⟩

/-- In a session in which every load is isolated, some part does not fare as it does alone. -/
def Interferes (platform : Platform B S L) (settings : Settings) (world : World B S)
    (owner : String → ConnectionId) (turns : List Turn) : Prop :=
  let session : Session B S L :=
    ⟨Host.start platform.loader settings world, fun _ => .zeroed 1 4⟩
  Run.Allows act (Permits owner (IsIsolated platform world)) session turns
    ∧ ∃ conn alone,
      List.Forall₂ Turn.Alike (turns.filter fun turn => turn.step.IsFor owner conn) alone
        ∧ ¬ List.Forall₂ (Answer.Matches conn)
          (((Run.trace act session turns).filter fun entry =>
            entry.1.step.IsFor owner conn).map Prod.snd)
          ((Run.trace act session alone).map Prod.snd)

/-- Something that answers which match have in common: the status of a load, and the first array of
a payload that comes back. -/
def Answer.digest : Answer → Option Status × List Single
  | .registry (.load result) => (some result.status, [])
  | .call _ returned => (none, returned.call.swap)
  | _ => (none, [])

theorem Answer.Matches.digest {answer other : Answer} (hanswer : answer.Matches conn other) :
    answer.digest = other.digest := by
  cases hanswer with
  | same => rfl
  | registry hanswer =>
    cases hanswer with
    | same => rfl
    | load hresult => simp only [Answer.digest, hresult.status]
    | describe hinfo => rfl

/-- Answers that differ in what would be in common do not match. -/
theorem not_matches_of_digest {answers others : List Answer}
    (hdigest : answers.map Answer.digest ≠ others.map Answer.digest) :
    ¬ List.Forall₂ (Answer.Matches conn) answers others := by
  intro hmatches
  refine hdigest (List.forall₂_eq_eq_eq ▸ ?_)
  exact List.forall₂_map_left_iff.2 (List.forall₂_map_right_iff.2
    (hmatches.imp fun _ _ => Answer.Matches.digest))

/-- A source that picks one of two parts, and the first of them if it can. -/
def either (first second : NamePart) : NameSource where
  pick taken :=
    if taken first = false then some first else if taken second = false then some second else none
  pick_free {taken part} hpick := by
    split at hpick
    · cases hpick
      assumption
    · split at hpick <;> cases hpick
      assumption

/-- In whichever order two parts are preferred, the same situations leave none of them. -/
theorem isSome_pick_either (first second : NamePart) (taken : NamePart → Bool) :
    ((either first second).pick taken).isSome = ((either second first).pick taken).isSome := by
  simp only [either]
  cases taken first <;> cases taken second <;> rfl

/-- **Private copies alone do not keep connections apart.** Alone, a library cannot be opened that
needs one which another connection has loaded, and a bare name cannot by which such a library goes.
Copies of one library that is kept once in the process count the calls of all connections. And where
the name of a copy or of the directory for copies has a token in it, a copy may be opened or not
depending on the random part of its name. -/
theorem not_answered_as_alone :
    let settings : Settings := { maxConnections := 2 }
    let owner : String → ConnectionId := fun name => if name = "mine" then 0 else 1
    let load (conn : ConnectionId) (path : String) : Turn :=
      ⟨.firstFree, .registry (.load conn (.ofText path) "DISCON")⟩
    let names := either (.ofNat 0) (.ofNat 1)
    Interferes Linker.entwined.platform settings
        (Linker.bare (fun _ => 0) ["lib", "tmp"]
          [(["lib", "libhelper.so"], "helper"), (["lib", "libuser.so"], "user")])
        owner [load 0 "/lib/libhelper.so", load 1 "/lib/libuser.so"]
      ∧ Interferes Linker.entwined.platform settings
        (Linker.bare (fun _ => 0) ["lib", "tmp"] [(["lib", "libhelper.so"], "helper")])
        owner [load 0 "/lib/libhelper.so", load 1 "libhelper.so"]
      ∧ Interferes Linker.sample.pooled settings
        (Linker.bare 0 ["lib", "tmp"] [(["lib", "ctrl.so"], "counting")])
        owner [load 0 "/lib/ctrl.so", load 1 "/lib/ctrl.so", ⟨names, .call 0 "mine" false⟩,
          ⟨names, .call 1 "theirs" false⟩]
      ∧ Interferes Linker.entwined.platform settings
        (Linker.bare (fun _ => 0) ["lib", "tmp"]
          [(["lib", "$LIB.so"], "helper"), (["tmp", "lib.so-000-aaaaaa.so"], "helper")])
        owner [⟨names, .registry (.load 0 (.ofText "/lib/$LIB.so") "DISCON")⟩]
      ∧ Interferes Linker.entwined.platform { settings with copyDir? := some (.ofText "/$LIB") }
        (Linker.bare (fun _ => 0) ["lib", "$LIB"]
          [(["lib", "a.so"], "helper"), (["lib", "a.so-000-aaaaaa.so"], "helper")])
        owner [⟨names, .registry (.load 0 (.ofText "/lib/a.so") "DISCON")⟩] := by
  intro settings owner load names
  have hsame (turns : List Turn) : List.Forall₂ Turn.Alike turns turns :=
    List.forall₂_same.2 fun _ _ => ⟨rfl, fun _ => rfl⟩
  have hswapped (step : Step) : Turn.Alike ⟨names, step⟩ ⟨either (.ofNat 1) (.ofNat 0), step⟩ :=
    ⟨rfl, isSome_pick_either _ _⟩
  refine ⟨⟨?_, 1, _, hsame _, not_matches_of_digest ?_⟩,
    ⟨?_, 1, _, hsame _, not_matches_of_digest ?_⟩,
    ⟨?_, 1, _, hsame _, not_matches_of_digest ?_⟩,
    ⟨?_, 0, _, .cons (hswapped _) .nil, not_matches_of_digest ?_⟩,
    ⟨?_, 0, _, .cons (hswapped _) .nil, not_matches_of_digest ?_⟩⟩ <;> decide +kernel

end ControllerHost.Session
