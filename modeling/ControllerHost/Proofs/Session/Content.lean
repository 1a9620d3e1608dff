import ControllerHost.Controller.Samples
import ControllerHost.Proofs.Host.Calling
import ControllerHost.Proofs.Log.Capture
import ControllerHost.Proofs.Payload.Content
import ControllerHost.Proofs.Session.Interleaving

/-!
# Shipped files are for the receiver alone

The contents of a file that is shipped in a payload reach neither a controller nor the log. Two
sessions whose payloads differ in the bytes of these contents alone do the same to the host and to
its controllers, and whatever they answer differs in these bytes alone.

- `Answer.Alike`, `PayloadAnswer.Alike`, `Session.Answer.Alike`: answers that differ in the bytes of
  contents alone.
- `Operation.Alike`, `PayloadStep.Alike`, `Session.Step.Alike`: what is asked for in two sessions.
- `Session.Alike`: one host, and payloads that differ in the bytes of their contents alone.
- `Session.calling?`: the controller that a step calls, and what it is handed.
- `PayloadStep.perform_alike`, `Host.perform_alike`, `Session.Alike.perform`: one step in both.
- `Session.contents_unseen`: two runs.
-/

namespace ControllerHost

variable {B S L : Type}

/-! ### What differs -/

/-- Answers of the registry that differ at most in the contents of a payload that is returned. -/
inductive Answer.Alike : Answer → Answer → Prop
  | same (answer : Answer) : Alike answer answer
  | invokePayload {payload other : Payload} (halike : payload.Alike other) :
      Alike (.invokePayload (.ok payload)) (.invokePayload (.ok other))

/-- Operations that differ at most in the contents of a payload that is handed over. -/
inductive Operation.Alike : Operation → Operation → Prop
  | same (operation : Operation) : Alike operation operation
  | invokePayload {conn : ConnectionId} {payload other : Payload} (halike : payload.Alike other) :
      Alike (.invokePayload conn payload) (.invokePayload conn other)

/-- Steps on payloads that differ at most in the contents of a payload that is kept. -/
inductive PayloadStep.Alike : PayloadStep → PayloadStep → Prop
  | same (step : PayloadStep) : Alike step step
  | put {name : String} {payload other : Payload} (halike : payload.Alike other) :
      Alike (.put name payload) (.put name other)

/-- Answers that differ in contents: those of a payload, or the part of an encoding that they take.
Whether two payloads are equal can depend on their contents. -/
inductive PayloadAnswer.Alike : PayloadAnswer → PayloadAnswer → Prop
  | same (answer : PayloadAnswer) : Alike answer answer
  | payload {payload other : Payload} (halike : payload.Alike other) :
      Alike (.payload payload) (.payload other)
  | encoded {bytes other : Bytes} {length : Nat}
      (hagree : Payload.AgreeOutsideContent bytes other) :
      Alike (.encoded bytes length) (.encoded other length)
  | decoded {result : Except Payload.Error Unit} {payload other : Payload}
      (halike : payload.Alike other) : Alike (.decoded result payload) (.decoded result other)
  | compared {equal equal' : Bool} : Alike (.compared equal) (.compared equal')

namespace Session

/-- Steps that differ in the contents of payloads alone. -/
inductive Step.Alike : Step → Step → Prop
  | registry {operation other : Operation} (halike : operation.Alike other) :
      Alike (.registry operation) (.registry other)
  | call (conn : ConnectionId) (name : String) (shown : Bool) :
      Alike (.call conn name shown) (.call conn name shown)
  | payload {step other : PayloadStep} (halike : step.Alike other) :
      Alike (.payload step) (.payload other)

/-- Answers that differ in the contents of payloads alone. -/
inductive Answer.Alike : Answer → Answer → Prop
  | registry {answer other : ControllerHost.Answer} (halike : answer.Alike other) :
      Alike (.registry answer) (.registry other)
  | call {result : Except DispatchError Unit} {payload other : Payload}
      (halike : payload.Alike other) : Alike (.call result payload) (.call result other)
  | payload {answer other : PayloadAnswer} (halike : answer.Alike other) :
      Alike (.payload answer) (.payload other)

/-- Two sessions have the same host, and payloads that differ in their contents alone. -/
structure Alike (session other : Session B S L) : Prop where
  /-- The host. -/
  host : session.host = other.host
  /-- The payloads, name by name. -/
  payloads : ∀ name, (session.payloads name).Alike (other.payloads name)

end Session

/-! ### What controllers are handed -/

/-- The controller that a step calls, if it gets that far, and the buffers that the controller is
handed. -/
def Session.calling? (session : Session B S L) (step : Session.Step) :
    Option (LoadedController S L × CallBuffers) :=
  (step.operation? session).bind session.host.calling?

/-- Operations that differ in contents alone are calls on the same buffers. -/
theorem Operation.Alike.call? {operation other : Operation} (halike : operation.Alike other) :
    operation.call? = other.call? := by
  cases halike with
  | same => rfl
  | invokePayload hpayloads => simp only [Operation.call?, hpayloads.call]

/-! ### Steps on payloads -/

namespace PayloadStep

variable {payloads others : String → Payload}

theorem update_alike (hpayloads : ∀ name, (payloads name).Alike (others name)) {target : String}
    {payload other : Payload} (halike : payload.Alike other) (name : String) :
    (Function.update payloads target payload name).Alike
      (Function.update others target other name) := by
  simp only [Function.update_apply]
  split
  · exact halike
  · exact hpayloads name

theorem receive_alike (hpayloads : ∀ name, (payloads name).Alike (others name)) (target : String)
    {bytes bytes' : Bytes} (hbytes : Payload.AgreeOutsideContent bytes bytes') :
    (receive payloads target bytes).1.Alike (receive others target bytes').1
      ∧ ∀ name, ((receive payloads target bytes).2 name).Alike
        ((receive others target bytes').2 name) := by
  obtain ⟨hdecoded, hresult⟩ := (hpayloads target).decode hbytes
  refine ⟨?_, update_alike hpayloads hdecoded⟩
  simp only [receive, hresult]
  exact .decoded hdecoded

/-- A step on payloads does the same with payloads that differ in their contents alone. -/
theorem perform_alike (hpayloads : ∀ name, (payloads name).Alike (others name))
    {step step' : PayloadStep} (hstep : step.Alike step') :
    (step.perform payloads).1.Alike (step'.perform others).1
      ∧ ∀ name, ((step.perform payloads).2 name).Alike ((step'.perform others).2 name) := by
  -- each step stores and shows the same on both sides, but for the contents
  cases hstep with
  | put halike => exact ⟨.same _, update_alike hpayloads halike⟩
  | same =>
    cases step with
    | put name payload => exact ⟨.same _, update_alike hpayloads (.refl payload)⟩
    | putZeros name swapLength textLength => exact ⟨.same _, update_alike hpayloads (.refl _)⟩
    | poke name index value =>
      simp only [perform, (hpayloads name).call]
      exact ⟨.same _, update_alike hpayloads ((hpayloads name).poke index value)⟩
    | view name => exact ⟨.payload (hpayloads name), hpayloads⟩
    | report name =>
      simp only [perform, (hpayloads name).report]
      exact ⟨.same _, hpayloads⟩
    | measure name =>
      simp only [perform, (hpayloads name).encodedLength]
      exact ⟨.same _, hpayloads⟩
    | encode name =>
      rcases (hpayloads name).encode with ⟨error, hfirst, hsecond⟩ | ⟨hfits, hfirst, hsecond⟩
      · simp only [perform, hfirst, hsecond]
        exact ⟨.same _, hpayloads⟩
      · simp only [perform, hfirst, hsecond, (hpayloads name).encodedLength]
        exact ⟨.encoded ((hpayloads name).agree_code hfits), hpayloads⟩
    | decode name bytes => exact receive_alike hpayloads name (.refl bytes)
    | read name bytes =>
      simp only [perform]
      split
      · exact ⟨.same _, update_alike hpayloads (.refl _)⟩
      · exact ⟨.same _, hpayloads⟩
    | ferry name target cut? behind =>
      rcases (hpayloads name).encode with ⟨error, hfirst, hsecond⟩ | ⟨hfits, hfirst, hsecond⟩
      · simp only [perform, hfirst, hsecond]
        exact ⟨.same _, hpayloads⟩
      · simp only [perform, hfirst, hsecond]
        cases cut? with
        | none =>
          exact receive_alike hpayloads target ((hpayloads name).agree_code_append hfits behind)
        | some count =>
          exact receive_alike hpayloads target ((hpayloads name).agree_cut hfits count behind)
    | compare name other => exact ⟨.compared, hpayloads⟩

end PayloadStep

/-! ### Operations -/

/-- Two calls fail in the same way, or return payloads that differ in their contents alone. -/
inductive CallsAlike : Except DispatchError Payload → Except DispatchError Payload → Prop
  | error (error : DispatchError) : CallsAlike (.error error) (.error error)
  | ok {payload other : Payload} (halike : payload.Alike other) :
      CallsAlike (.ok payload) (.ok other)

/-- A call on the buffers of a payload shows the payload in the log, where its contents are not
seen, and leaves them as they are. -/
theorem Registry.invokePayload_alike (registry : Registry B S L) (conn : ConnectionId)
    {payload other : Payload} (halike : payload.Alike other) (world : World B S) :
    CallsAlike (registry.invokePayload conn payload world).1
        (registry.invokePayload conn other world).1
      ∧ (registry.invokePayload conn payload world).2 =
        (registry.invokePayload conn other world).2 := by
  unfold invokePayload
  rw [halike.report, halike.call]
  generalize registry.invoke conn other.call _ = called
  obtain ⟨_ | call, left⟩ := called
  · exact ⟨.error _, rfl⟩
  · have hleft := halike.withCall call
    refine ⟨.ok hleft, ?_⟩
    simp only [hleft.report]

theorem Host.perform_alike (host : Host B S L) {operation other : Operation}
    (halike : operation.Alike other) :
    (host.perform operation).1.Alike (host.perform other).1
      ∧ host.next operation = host.next other := by
  cases halike with
  | same => exact ⟨.same _, rfl⟩
  | @invokePayload conn payload other halike =>
    obtain ⟨hresult, hworld⟩ := host.registry.invokePayload_alike conn halike host.world
    simp only [perform, next, hworld, and_true]
    generalize (host.registry.invokePayload conn payload host.world).1 = result at hresult
    generalize (host.registry.invokePayload conn other host.world).1 = result' at hresult
    cases hresult with
    | error error => exact .same _
    | ok halike => exact .invokePayload halike

/-! ### Sessions -/

namespace Session

variable {session other : Session B S L} {step step' : Step}

theorem Alike.handOver (halike : session.Alike other) (conn : ConnectionId) (name : String)
    (shown : Bool) :
    CallsAlike (session.handOver conn name shown).1 (other.handOver conn name shown).1
      ∧ (session.handOver conn name shown).2 = (other.handOver conn name shown).2 := by
  have hpayload := halike.payloads name
  cases shown with
  | true =>
    have hresult := session.host.registry.invokePayload_alike conn hpayload session.host.world
    simp only [Session.handOver, if_true, ← halike.host]
    exact hresult
  | false =>
    simp only [Session.handOver, Bool.false_eq_true, if_false, ← halike.host, hpayload.call,
      and_true]
    generalize (session.host.registry.invoke conn (other.payloads name).call _).1 = called
    cases called with
    | error error => exact .error error
    | ok call => exact .ok (hpayload.withCall call)

/-- The payload that a call leaves differs in its contents alone. -/
theorem Alike.returned (halike : session.Alike other) (conn : ConnectionId) (name : String)
    (shown : Bool) :
    (session.returned conn name shown).Alike (other.returned conn name shown) := by
  have hresult := (halike.handOver conn name shown).1
  unfold Session.returned
  generalize (session.handOver conn name shown).1 = result at hresult
  generalize (other.handOver conn name shown).1 = result' at hresult
  cases hresult with
  | error error => exact halike.payloads name
  | ok hleft => exact hleft

theorem Alike.operation? (halike : session.Alike other) (hstep : step.Alike step') :
    Option.Rel Operation.Alike (step.operation? session) (step'.operation? other) := by
  cases hstep with
  | registry hoperation => exact .some hoperation
  | call conn name shown =>
    cases shown with
    | true => exact .some (.invokePayload (halike.payloads name))
    | false =>
      simp only [Step.operation?, (halike.payloads name).call]
      exact .some (.same _)
  | payload hstep => exact .none

theorem Alike.calling? (halike : session.Alike other) (hstep : step.Alike step') :
    session.calling? step = other.calling? step' := by
  have hoperation := halike.operation? hstep
  unfold Session.calling?
  rw [← halike.host]
  generalize step.operation? session = operation? at hoperation
  generalize step'.operation? other = operation?' at hoperation
  cases hoperation with
  | none => rfl
  | some hsame => simp only [Option.bind_some, Host.calling?, hsame.call?]

/-- A step hands the same to the same controller, and answers and leaves the same but for
contents. -/
theorem Alike.perform (halike : session.Alike other) (hstep : step.Alike step') :
    (session.perform step).1.Alike (other.perform step').1
      ∧ session.calling? step = other.calling? step'
      ∧ (session.perform step).2.Alike (other.perform step').2 := by
  -- the answers first, and then the host and the payloads that are left
  refine ⟨?_, halike.calling? hstep, ?_⟩
  · cases hstep with
    | registry hoperation =>
      have hanswer := (session.host.perform_alike hoperation).1
      rw [halike.host] at hanswer
      simp only [Session.perform, halike.host]
      exact .registry hanswer
    | call conn name shown =>
      have hresult := (halike.handOver conn name shown).1
      have hreturned := halike.returned conn name shown
      rw [perform_call, perform_call]
      generalize (session.handOver conn name shown).1 = result at hresult
      generalize (other.handOver conn name shown).1 = result' at hresult
      cases hresult with
      | error error => exact .call hreturned
      | ok hleft => exact .call hreturned
    | payload hstep => exact .payload (PayloadStep.perform_alike halike.payloads hstep).1
  · constructor
    · have hoperation := halike.operation? hstep
      rw [host_perform, host_perform, ← halike.host]
      generalize step.operation? session = operation? at hoperation
      generalize step'.operation? other = operation?' at hoperation
      cases hoperation with
      | none => rfl
      | some hsame => exact (session.host.perform_alike hsame).2
    · cases hstep with
      | registry hoperation => exact halike.payloads
      | call conn name shown =>
        exact PayloadStep.update_alike halike.payloads (halike.returned conn name shown)
      | payload hstep => exact (PayloadStep.perform_alike halike.payloads hstep).2

/-- What is seen of a step besides its answer: the controller that is called, with what it is
handed, and the host that is left, with its slots, its files, its libraries and everything that has
happened. -/
def seen (session : Session B S L) (step : Step) :
    Option (LoadedController S L × CallBuffers) × Host B S L :=
  (session.calling? step, (session.perform step).2.host)

/-- **The contents of shipped files are not seen.** Take two sessions with the same host, whose
payloads differ in the bytes of their files' contents, and two runs of them whose steps differ in
the bytes of the contents that they hand over. In the two runs the same controllers are called at
the same steps and are handed the same, and every step leaves the same host. The same is captured of
the log at every level, and the answers differ in contents alone: those of a returned payload, or
the part of an encoding where they are. Only whether two payloads are equal can depend on them. -/
theorem contents_unseen {session other : Session B S L} (halike : session.Alike other)
    {steps steps' : List Step} (hsteps : List.Forall₂ Step.Alike steps steps') :
    List.Forall₂ Answer.Alike ((Run.trace perform session steps).map Prod.snd)
        ((Run.trace perform other steps').map Prod.snd)
      ∧ (Run.trace (watch seen) session steps).map Prod.snd =
        (Run.trace (watch seen) other steps').map Prod.snd
      ∧ (Run.after perform session steps).Alike (Run.after perform other steps')
      ∧ ∀ level : Log.DebugLevel,
        (Run.after perform session steps).host.drop.captured level =
          (Run.after perform other steps').host.drop.captured level := by
  -- one run of the relation gives the answers, and another what is seen besides
  obtain ⟨hanswers, hafter⟩ := @Run.forall₂_trace _ _ _ _ _ _ perform perform Step.Alike
    Answer.Alike Alike
    (fun halike hstep =>
      have hnext := halike.perform hstep
      ⟨hnext.1, hnext.2.2⟩)
    session other halike steps steps' hsteps
  obtain ⟨hseen, -⟩ := @Run.forall₂_trace _ _ _ _ _ _ (watch seen) (watch seen) Step.Alike
    Eq Alike
    (fun halike hstep =>
      have hnext := halike.perform hstep
      ⟨Prod.ext hnext.2.1 hnext.2.2.host, hnext.2.2⟩)
    session other halike steps steps' hsteps
  refine ⟨?_, ?_, hafter, fun level => by rw [hafter.host]⟩
  · rw [List.forall₂_map_left_iff, List.forall₂_map_right_iff]
    exact hanswers.imp fun _ _ hentry => hentry.2
  · rw [← List.forall₂_eq_eq_eq, List.forall₂_map_left_iff, List.forall₂_map_right_iff]
    exact hseen.imp fun _ _ hentry => hentry.2

/-- A payload with a file of three bytes is sent in full, and a second one with another file is sent
after it, cut off behind the first byte of the file and with another byte behind it. The controller
is called on what has arrived, and what has arrived is shown. -/
theorem contents_unseen_ferried :
    let catalog : Catalog Nat := Catalog.register {} (.ofText "ctrl") "DISCON" .tally
    let host : Host Tally Nat (Exports Nat) :=
      .start catalog.loader { maxConnections := 1 }
        { tempDir := .ofText "/tmp", books := {}, state := 0 }
    let shipping (content : Bytes) : Payload :=
      { Payload.zeroed 2 4 with fileContent := content, serverFilePath := [0x66, 0] }
    let session (content : Bytes) : Session Tally Nat (Exports Nat) :=
      ⟨host, fun _ => shipping content⟩
    let steps (content : Bytes) : List Step :=
      [.registry (.load 0 (.ofText "ctrl") "DISCON"), .payload (.ferry "out" "in" none []),
        .call 0 "in" true, .payload (.put "out" (shipping content)),
        .payload (.ferry "out" "in" (some 49) [9]), .call 0 "in" true]
    let last := Run.after perform (session [1, 2, 3]) (steps [7, 8, 9])
    let last' := Run.after perform (session [4, 5, 6]) (steps [10, 11, 12])
    (session [1, 2, 3]).Alike (session [4, 5, 6])
      ∧ List.Forall₂ Step.Alike (steps [7, 8, 9]) (steps [10, 11, 12])
      ∧ (last.payloads "in").fileContent = [1, 2, 3]
      ∧ (last'.payloads "in").fileContent = [4, 5, 6]
      ∧ last.host.drop.captured .verbose = last'.host.drop.captured .verbose
      ∧ (last.host.drop.captured .verbose).length = 9 := by
  intro catalog host shipping session steps last last'
  have halike : (session [1, 2, 3]).Alike (session [4, 5, 6]) :=
    ⟨rfl, fun _ => ⟨rfl, rfl, rfl⟩⟩
  have hsteps : List.Forall₂ Step.Alike (steps [7, 8, 9]) (steps [10, 11, 12]) :=
    .cons (.registry (.same _)) <| .cons (.payload (.same _)) <| .cons (.call _ _ _) <|
      .cons (.payload (.put ⟨rfl, rfl, rfl⟩)) <| .cons (.payload (.same _)) <|
        .cons (.call _ _ _) .nil
  obtain ⟨-, -, -, hcaptured⟩ := contents_unseen halike hsteps
  exact ⟨halike, hsteps, by decide +kernel, by decide +kernel, hcaptured .verbose,
    by decide +kernel⟩

end Session

end ControllerHost
