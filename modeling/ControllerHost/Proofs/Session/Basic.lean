import ControllerHost.Payload.Encoding
import ControllerHost.Proofs.Host.Step
import Mathlib.Logic.Function.Basic

/-!
# Sessions

In a session a host's registry is used together with payloads, which are kept under names. A step of
a session asks something of the registry, does something with payloads, or hands a payload to a
controller. What a step uses, the connection and the names that it mentions, is all that ties it to
other steps.

- `PayloadStep`, `PayloadStep.perform`: what can be done with payloads.
- `Session`, `Session.Step`, `Session.perform`: one step of a session.
- `Session.Step.resources`, `Session.Step.isLocal`: what a step uses.
- `Session.Step.operation?`, `Session.host_perform`: what a step does to the host.
-/

namespace ControllerHost

/-! ### Payloads -/

/-- What can be done with payloads that are kept under names. -/
inductive PayloadStep where
  /-- Keep a payload. -/
  | put (name : String) (payload : Payload)
  /-- Keep a payload of zeros. -/
  | putZeros (name : String) (swapLength textLength : Nat)
  /-- Change a swap value. -/
  | poke (name : String) (index : Nat) (value : Single)
  /-- Look at a payload. -/
  | view (name : String)
  /-- Ask for the lines that the log would show. -/
  | report (name : String)
  /-- Ask for the length of the encoding. -/
  | measure (name : String)
  /-- Ask for the encoding. -/
  | encode (name : String)
  /-- Overwrite a payload with what bytes hold. -/
  | decode (name : String) (bytes : Bytes)
  /-- Keep the payload that bytes hold, if they hold one. -/
  | read (name : String) (bytes : Bytes)
  /-- Overwrite a payload with the encoding of another one, cut off and with bytes behind it. -/
  | ferry (name target : String) (cut? : Option Nat) (behind : Bytes)
  /-- Compare two payloads, their swap values as numbers. -/
  | compare (name other : String)

/-- What comes of a step on payloads. -/
inductive PayloadAnswer where
  /-- It is done. -/
  | done
  /-- Whether there was something to change. -/
  | poked (found : Bool)
  /-- A payload. -/
  | payload (payload : Payload)
  /-- A text. -/
  | text (text : String)
  /-- A length. -/
  | length (length : Nat)
  /-- An encoding, and the length that was announced. -/
  | encoded (bytes : Bytes) (length : Nat)
  /-- What decoding came to, and the payload that it left. -/
  | decoded (result : Except Payload.Error Unit) (payload : Payload)
  /-- Whether two payloads are equal. -/
  | compared (equal : Bool)
  /-- Nothing was done, for a reason. -/
  | refused (error : Payload.Error)

namespace PayloadStep

/-- The names that a step mentions. -/
def names : PayloadStep → List String
  | put name _ | putZeros name _ _ | poke name _ _ | view name | report name | measure name
  | encode name | decode name _ | read name _ => [name]
  | ferry name other _ _ | compare name other => [name, other]

/-- The payloads once bytes have been decoded into one of them. -/
def receive (payloads : String → Payload) (name : String) (bytes : Bytes) :
    PayloadAnswer × (String → Payload) :=
  let (payload, result) := (payloads name).decode bytes
  (.decoded result payload, Function.update payloads name payload)

/-- What a step gives and leaves. -/
def perform (payloads : String → Payload) : PayloadStep → PayloadAnswer × (String → Payload)
  | put name payload => (.done, Function.update payloads name payload)
  | putZeros name swapLength textLength =>
    let payload := Payload.zeroed swapLength textLength
    (.payload payload, Function.update payloads name payload)
  | poke name index value =>
    (.poked (index < (payloads name).call.swap.length),
      Function.update payloads name ((payloads name).poke index value))
  | view name => (.payload (payloads name), payloads)
  | report name => (.text (payloads name).report, payloads)
  | measure name => (.length (payloads name).encodedLength, payloads)
  | encode name =>
    match (payloads name).encode with
    | .ok bytes => (.encoded bytes (payloads name).encodedLength, payloads)
    | .error error => (.refused error, payloads)
  | decode name bytes => receive payloads name bytes
  | read name bytes =>
    match Payload.ofBytes bytes with
    | .ok payload => (.payload payload, Function.update payloads name payload)
    | .error error => (.refused error, payloads)
  | ferry name target cut? behind =>
    match (payloads name).encode with
    | .ok bytes => receive payloads target (cut?.elim bytes bytes.take ++ behind)
    | .error error => (.refused error, payloads)
  | compare name other => (.compared ((payloads name).eqv (payloads other)), payloads)

/-- A step leaves the payloads that it does not mention. -/
theorem perform_of_not_mem (payloads : String → Payload) {step : PayloadStep} {name : String}
    (hname : name ∉ step.names) : (step.perform payloads).2 name = payloads name := by
  have hreceive {target : String} (htarget : name ≠ target) (bytes : Bytes) :
      (receive payloads target bytes).2 name = payloads name :=
    Function.update_of_ne htarget ..
  -- each step writes to the payloads that it names
  cases step with
  | ferry source target cut? behind =>
    simp only [names, List.mem_cons, List.not_mem_nil, or_false, not_or] at hname
    simp only [perform]
    split
    · exact hreceive hname.2 _
    · rfl
  | decode target bytes => exact hreceive (by simpa [names] using hname) bytes
  | read target bytes =>
    simp only [perform]
    split
    · exact Function.update_of_ne (by simpa [names] using hname) ..
    · rfl
  | encode target =>
    simp only [perform]
    split <;> rfl
  | put target _ | putZeros target _ _ | poke target _ _ =>
    exact Function.update_of_ne (by simpa [names] using hname) ..
  | view | report | measure | compare => rfl

/-- What a step gives and leaves depends on the payloads that it mentions. -/
theorem perform_congr {mine : String → Prop} {step : PayloadStep}
    (hmine : ∀ name ∈ step.names, mine name) {payloads others : String → Payload}
    (hagree : ∀ name, mine name → payloads name = others name) :
    (step.perform payloads).1 = (step.perform others).1
      ∧ ∀ name, mine name → (step.perform payloads).2 name = (step.perform others).2 name := by
  have hupdate (target : String) (payload : Payload) (name : String) (hname : mine name) :
      Function.update payloads target payload name =
        Function.update others target payload name := by
    simp only [Function.update_apply, hagree name hname]
  have hreceive {target : String} (htarget : mine target) (bytes : Bytes) :
      (receive payloads target bytes).1 = (receive others target bytes).1
        ∧ ∀ name, mine name →
          (receive payloads target bytes).2 name = (receive others target bytes).2 name := by
    simp only [receive, hagree target htarget]
    exact ⟨trivial, hupdate target _⟩
  -- once the payloads that are read are the same, the steps do the same
  cases step with
  | ferry source target cut? behind =>
    simp only [names, List.forall_mem_cons] at hmine
    simp only [perform, hagree source hmine.1]
    split
    · exact hreceive hmine.2.1 _
    · exact ⟨rfl, hagree⟩
  | compare first second =>
    simp only [names, List.forall_mem_cons] at hmine
    simp only [perform, hagree first hmine.1, hagree second hmine.2.1]
    exact ⟨trivial, hagree⟩
  | decode target bytes => exact hreceive (by simpa [names] using hmine) bytes
  | read target bytes =>
    simp only [perform]
    split
    · exact ⟨rfl, hupdate target _⟩
    · exact ⟨rfl, hagree⟩
  | encode target =>
    simp only [perform, hagree target (by simpa [names] using hmine)]
    split <;> exact ⟨rfl, hagree⟩
  | put target _ | putZeros target _ _ => exact ⟨rfl, hupdate target _⟩
  | poke target index value =>
    simp only [perform, hagree target (by simpa [names] using hmine)]
    exact ⟨trivial, hupdate target _⟩
  | view target | report target | measure target =>
    simp only [perform, hagree target (by simpa [names] using hmine)]
    exact ⟨trivial, hagree⟩

end PayloadStep

/-! ### Sessions -/

variable {B S L : Type}

/-- A host and payloads. -/
structure Session (B S L : Type) where
  /-- The host. -/
  host : Host B S L
  /-- The payloads, each under its name. -/
  payloads : String → Payload

/-- The connection that an operation is addressed to. The number of loaded controllers and the
shutdown concern all connections. -/
def Operation.conn? : Operation → Option ConnectionId
  | load conn _ _ | loadWith conn _ | unload conn | invoke conn _ | invokeUnchecked conn _
  | invokePayload conn _ | status conn | describe conn => some conn
  | loadedCount | shutDown => none

namespace Session

/-- What can be done in a session. -/
inductive Step where
  /-- Ask something of the registry. -/
  | registry (operation : Operation)
  /-- Call the controller of a connection on a payload, shown in the log or not. -/
  | call (conn : ConnectionId) (name : String) (shown : Bool)
  /-- Do something with payloads. -/
  | payload (step : PayloadStep)

/-- What comes of a step. -/
inductive Answer where
  /-- What the registry says. -/
  | registry (answer : ControllerHost.Answer)
  /-- What a call came to, and the payload that it left. -/
  | call (result : Except DispatchError Unit) (payload : Payload)
  /-- What came of a step on payloads. -/
  | payload (answer : PayloadAnswer)

/-- Something that steps use. -/
inductive Resource where
  /-- A connection. -/
  | connection (conn : ConnectionId)
  /-- The payload under a name. -/
  | payload (name : String)
deriving DecidableEq

/-- What a step uses. -/
def Step.resources : Step → List Resource
  | registry operation => operation.conn?.toList.map .connection
  | call conn name _ => [.connection conn, .payload name]
  | payload step => step.names.map .payload

/-- Whether a step is about what it uses, and not about all connections at once. -/
def Step.isLocal : Step → Bool
  | registry operation => operation.conn?.isSome
  | call _ _ _ | payload _ => true

/-- What a call on a payload comes to, with the payload that a controller leaves. -/
def handOver (session : Session B S L) (conn : ConnectionId) (name : String) (shown : Bool) :
    Except DispatchError Payload × World B S :=
  let payload := session.payloads name
  if shown then session.host.registry.invokePayload conn payload session.host.world
  else
    let (result, world) := session.host.registry.invoke conn payload.call session.host.world
    (result.map fun call => { payload with call }, world)

/-- The payload that a call leaves. One that does not reach a controller stays as it is. -/
def returned (session : Session B S L) (conn : ConnectionId) (name : String) (shown : Bool) :
    Payload :=
  (session.handOver conn name shown).1.toOption.getD (session.payloads name)

/-- What a step gives and leaves. -/
def perform (session : Session B S L) : Step → Answer × Session B S L
  | .registry operation =>
    let (answer, host) := session.host.perform operation
    (.registry answer, { session with host })
  | .call conn name shown =>
    let (result, world) := session.handOver conn name shown
    let payload := session.returned conn name shown
    (.call (result.map fun _ => ()) payload,
      ⟨{ session.host with world }, Function.update session.payloads name payload⟩)
  | .payload step =>
    let (answer, payloads) := step.perform session.payloads
    (.payload answer, { session with payloads })

/-- What a call on a payload gives and leaves. -/
theorem perform_call (session : Session B S L) (conn : ConnectionId) (name : String)
    (shown : Bool) : session.perform (.call conn name shown) =
      (.call ((session.handOver conn name shown).1.map fun _ => ())
        (session.returned conn name shown),
        ⟨{ session.host with world := (session.handOver conn name shown).2 },
          Function.update session.payloads name (session.returned conn name shown)⟩) := rfl

/-- What a step asks of the registry. -/
def Step.operation? (session : Session B S L) : Step → Option Operation
  | registry operation => some operation
  | call conn name true => some (.invokePayload conn (session.payloads name))
  | call conn name false => some (.invoke conn (session.payloads name).call)
  | payload _ => none

/-- A step does to the host what it asks of the registry. -/
theorem host_perform (session : Session B S L) (step : Step) :
    (session.perform step).2.host =
      (step.operation? session).elim session.host session.host.next := by
  cases step with
  | registry operation => rfl
  | call conn name shown => cases shown <;> rfl
  | payload step => rfl

/-- What every change of a host keeps is kept by every step. -/
theorem perform_of_change {motive : Host B S L → Prop}
    (hkept : ∀ {host left load?}, motive host → Host.Change host load? left → motive left)
    {session : Session B S L} (hsession : motive session.host) (step : Step) :
    motive (session.perform step).2.host := by
  rw [host_perform]
  cases step.operation? session with
  | none => exact hsession
  | some operation => exact Host.next_of_change hkept hsession operation

/-- A step leaves the payloads that it does not use. -/
theorem payloads_perform_of_not_mem (session : Session B S L) {step : Step} {name : String}
    (hname : .payload name ∉ step.resources) :
    (session.perform step).2.payloads name = session.payloads name := by
  cases step with
  | registry operation => rfl
  | call conn target shown =>
    have hne : name ≠ target := by simpa [Step.resources] using hname
    exact Function.update_of_ne hne ..
  | payload step => exact step.perform_of_not_mem _ (by simpa [Step.resources] using hname)

/-- The connection of what a step asks of the registry is one that the step uses. -/
theorem conn?_of_operation? {session : Session B S L} {step : Step} {operation : Operation}
    (hlocal : step.isLocal) (hoperation : step.operation? session = some operation) :
    ∃ conn, operation.conn? = some conn ∧ .connection conn ∈ step.resources := by
  cases step with
  | registry operation =>
    cases hoperation
    obtain ⟨conn, hconn⟩ := Option.isSome_iff_exists.1 hlocal
    exact ⟨conn, hconn, by simp [Step.resources, hconn]⟩
  | call conn name shown =>
    cases shown <;> cases hoperation <;> exact ⟨conn, rfl, by simp [Step.resources]⟩
  | payload step => cases hoperation

end Session

end ControllerHost
