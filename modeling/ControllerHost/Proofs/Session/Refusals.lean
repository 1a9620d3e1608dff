import ControllerHost.Catalog
import ControllerHost.Controller.Samples
import ControllerHost.Proofs.Host.Machine
import ControllerHost.Proofs.Session.Basic

/-!
# Refusals

A registry looks at what it is asked for before it does anything: at the connection first, then at
the other arguments, and at last at what is loaded. The first thing that is wrong is reported, and
then nothing has been done.

- `Check`, `firstFault?`: things that can be wrong, looked at in order.
- `Registry.loadChecks`, `Registry.callChecks`: what is looked at before a load and before a call.
- `Host.checks`, `Host.refusal?`: what is looked at before each operation, and what is answered if
  something is wrong.
- `Host.perform_checked`: an operation is refused exactly if something is wrong, and one that is
  refused does nothing.
- `Host.unknown_iff`: a connection is refused exactly if its number is no place of the table.
- `Session.refused_untouched`: so it is after every run, also for the payloads.
-/

namespace ControllerHost

variable {B S L : Type}

/-! ### Checks in order -/

/-- Something that can be wrong, and what is reported if it is. -/
structure Check (ε : Type) where
  /-- Whether it is wrong. -/
  wrong : Bool
  /-- What is reported then. -/
  report : ε

/-- A check that reports in another way. -/
def Check.map {ε ε' : Type} (f : ε → ε') (check : Check ε) : Check ε' :=
  ⟨check.wrong, f check.report⟩

/-- The report about the first thing that is wrong. -/
def firstFault? {ε : Type} (checks : List (Check ε)) : Option ε :=
  (checks.find? Check.wrong).map Check.report

section FirstFault

variable {ε ε' : Type}

@[simp]
theorem firstFault?_nil : firstFault? ([] : List (Check ε)) = none := rfl

/-- The first check that is wrong reports. -/
@[simp]
theorem firstFault?_cons (check : Check ε) (rest : List (Check ε)) :
    firstFault? (check :: rest) = if check.wrong then some check.report else firstFault? rest := by
  unfold firstFault?
  by_cases hwrong : check.wrong = true
  · rw [List.find?_cons_of_pos hwrong, if_pos hwrong, Option.map_some]
  · rw [List.find?_cons_of_neg hwrong, if_neg hwrong]

/-- Renaming the reports renames the one that is made. -/
@[simp]
theorem firstFault?_map (f : ε → ε') (checks : List (Check ε)) :
    firstFault? (checks.map (Check.map f)) = (firstFault? checks).map f := by
  induction checks with
  | nil => rfl
  | cons check rest ih =>
    rw [List.map_cons, firstFault?_cons, firstFault?_cons, ih]
    by_cases hwrong : check.wrong <;> simp [Check.map, hwrong]

/-- A fault that is reported is that of one of the checks. -/
theorem exists_of_firstFault? {checks : List (Check ε)} {report : ε}
    (hfault : firstFault? checks = some report) : ∃ check ∈ checks, check.report = report := by
  obtain ⟨check, hfound, hreport⟩ := Option.map_eq_some_iff.1 hfault
  exact ⟨check, List.mem_of_find?_eq_some hfound, hreport⟩

end FirstFault

/-! ### What is looked at -/

namespace Registry

variable (registry : Registry B S L) (conn : ConnectionId)

/-- Whether a connection's number is no place of the table. -/
def connectionCheck : Check UnknownConnection :=
  ⟨¬(0 ≤ conn.toInt ∧ conn.toInt < registry.capacity), ⟨conn, registry.capacity⟩⟩

/-- Whether nothing is loaded on a connection. -/
def loadedCheck : Check DispatchError :=
  ⟨!(registry.slotOf conn).isLoaded, .notLoaded conn⟩

/-- What is looked at before a load, in this order. -/
def loadChecks (path : Path) (symbol : String) : List (Check LoadError) :=
  [ (registry.connectionCheck conn).map .unknownConnection,
    ⟨path.bytes = [], .invalidArgument "library path is empty"⟩,
    ⟨symbol = "", .invalidArgument "symbol name is empty"⟩ ]

/-- What is looked at before a call on buffers that are taken as they are. -/
def uncheckedCallChecks : List (Check DispatchError) :=
  [ (registry.connectionCheck conn).map .unknownConnection,
    registry.loadedCheck conn ]

/-- What is looked at before a call on buffers that must have storage, in this order. -/
def callChecks (buffers : CallBuffers) : List (Check DispatchError) :=
  [ (registry.connectionCheck conn).map .unknownConnection,
    ⟨buffers.swap = [], .emptyBuffer "avrSWAP"⟩,
    ⟨buffers.inFile = [], .emptyBuffer "accINFILE"⟩,
    ⟨buffers.outName = [], .emptyBuffer "avcOUTNAME"⟩,
    ⟨buffers.msg = [], .emptyBuffer "avcMSG"⟩,
    registry.loadedCheck conn ]

/-- The table has a place for a connection, or the check of the connection finds that it has
none. -/
theorem index_cases :
    (∃ index, conn.index? registry.capacity = some index ∧ registry.index conn = .ok index
        ∧ (registry.connectionCheck conn).wrong = false)
      ∨ registry.index conn = .error (registry.connectionCheck conn).report
        ∧ (registry.connectionCheck conn).wrong = true := by
  by_cases hwithin : 0 ≤ conn.toInt ∧ conn.toInt < registry.capacity
  · have hindex : conn.index? registry.capacity = some conn.toInt.toNat := if_pos hwithin
    exact .inl ⟨_, hindex, by simp [index, hindex], by simp [connectionCheck, hwithin]⟩
  · have hindex : conn.index? registry.capacity = none := if_neg hwithin
    exact .inr ⟨by simp [index, hindex, connectionCheck], decide_eq_true hwithin⟩

/-- What a load is refused with. -/
theorem firstFault?_loadChecks (request : LoadRequest) :
    firstFault? (registry.loadChecks conn request.path request.symbol) =
      match registry.index conn with
      | .error unknown => some (.unknownConnection unknown)
      | .ok _ => requestFault? request := by
  rcases registry.index_cases conn with ⟨index, -, hindex, hright⟩ | ⟨hindex, hwrong⟩
  · simp [loadChecks, Check.map, hindex, hright, requestFault?]
  · rw [hindex, loadChecks, firstFault?_cons]
    exact if_pos hwrong

/-- What a call on buffers that are taken as they are is refused with. -/
theorem firstFault?_uncheckedCallChecks :
    firstFault? (registry.uncheckedCallChecks conn) =
      match registry.index conn with
      | .error unknown => some (.unknownConnection unknown)
      | .ok index => if (registry.slot index).isLoaded then none else some (.notLoaded conn) := by
  rcases registry.index_cases conn with ⟨index, hplace, hindex, hright⟩ | ⟨hindex, hwrong⟩
  · simp only [uncheckedCallChecks, loadedCheck, Check.map, hindex, hright,
      Host.slotOf_of_index? hplace]
    cases (registry.slot index).isLoaded <;> rfl
  · rw [hindex, uncheckedCallChecks, firstFault?_cons]
    exact if_pos hwrong

/-- What a call on buffers that must have storage is refused with. -/
theorem firstFault?_callChecks (buffers : CallBuffers) :
    firstFault? (registry.callChecks conn buffers) =
      match registry.index conn with
      | .error unknown => some (.unknownConnection unknown)
      | .ok _ =>
        match buffers.firstEmpty? with
        | some name => some (.emptyBuffer name)
        | none => firstFault? (registry.uncheckedCallChecks conn) := by
  rcases registry.index_cases conn with ⟨index, -, hindex, hright⟩ | ⟨hindex, hwrong⟩
  · simp only [callChecks, uncheckedCallChecks, Check.map, hindex, hright, firstFault?_cons,
      decide_eq_true_eq, CallBuffers.firstEmpty?]
    -- one buffer after another, as long as they have storage
    by_cases hswap : buffers.swap = []
    · simp [hswap]
    by_cases hinFile : buffers.inFile = []
    · simp [hswap, hinFile]
    by_cases houtName : buffers.outName = []
    · simp [hswap, hinFile, houtName]
    by_cases hmsg : buffers.msg = [] <;> simp [hswap, hinFile, houtName, hmsg]
  · rw [hindex, callChecks, firstFault?_cons]
    exact if_pos hwrong

/-- A call that is wrong in every way is refused for its connection. -/
example (loader : Loader B S L) : firstFault? ((withCapacity loader 2).callChecks 7 {}) =
    some (.unknownConnection ⟨7, 2⟩) := rfl

/-! ### What is refused -/

/-- A load is refused with the first thing that is wrong, and then nothing is done. One that is not
refused comes to what the loader makes of it. -/
theorem loadWith_checked (request : LoadRequest) (world : World B S) :
    match firstFault? (registry.loadChecks conn request.path request.symbol) with
    | some error => registry.loadWith conn request world = (.failed error, registry, world)
    | none =>
      ∃ outcome : LoadOutcome,
        (registry.loadWith conn request world).1 = outcome.result request := by
  rw [firstFault?_loadChecks]
  cases hindex : registry.index conn with
  | error unknown => simp only [loadWith, hindex]
  | ok index =>
    cases hfault : requestFault? request with
    | some error => simp only [loadWith, hindex, hfault]
    | none =>
      simp only [loadWith, hindex, hfault, Slot.load]
      exact ⟨_, (Slot.attached _ _ conn request _).2⟩

/-- A call past the buffers' checks is refused by its own checks, in order, and otherwise
answered. -/
theorem invokeUnchecked_checked (buffers : CallBuffers) (world : World B S) :
    match firstFault? (registry.uncheckedCallChecks conn) with
    | some error => registry.invokeUnchecked conn buffers world = (.error error, world)
    | none => ∃ left, (registry.invokeUnchecked conn buffers world).1 = .ok left := by
  rw [firstFault?_uncheckedCallChecks]
  cases hindex : registry.index conn with
  | error unknown => simp only [invokeUnchecked, hindex]
  | ok index =>
    cases hslot : registry.slot index <;>
      simp [invokeUnchecked, hindex, hslot, Slot.isLoaded, Slot.status]

/-- A call is refused with the first thing that is wrong, and then nothing is done. -/
theorem invoke_checked (buffers : CallBuffers) (world : World B S) :
    match firstFault? (registry.callChecks conn buffers) with
    | some error => registry.invoke conn buffers world = (.error error, world)
    | none => ∃ left, (registry.invoke conn buffers world).1 = .ok left := by
  rw [firstFault?_callChecks]
  cases hindex : registry.index conn with
  | error unknown => simp only [invoke, hindex]
  | ok index =>
    cases hempty : buffers.firstEmpty? with
    | some name => simp only [invoke, hindex, hempty]
    | none =>
      simp only [invoke, hindex, hempty]
      exact registry.invokeUnchecked_checked conn buffers world

/-- A call on a payload is refused with the first thing that is wrong, and then the payload has been
shown and nothing else has been done. -/
theorem invokePayload_checked (payload : Payload) (world : World B S) :
    match firstFault? (registry.callChecks conn payload.call) with
    | some error =>
      registry.invokePayload conn payload world =
        (.error error, world.tell (.payloadBefore conn payload.report))
    | none => ∃ left, (registry.invokePayload conn payload world).1 = .ok left := by
  have hcall := registry.invoke_checked conn payload.call
    (world.tell (.payloadBefore conn payload.report))
  unfold invokePayload
  generalize registry.invoke conn payload.call _ = called at hcall ⊢
  cases hfault : firstFault? (registry.callChecks conn payload.call) with
  | some error =>
    simp only [hfault] at hcall ⊢
    rw [hcall]
  | none =>
    simp only [hfault] at hcall ⊢
    obtain ⟨left, hleft⟩ := hcall
    obtain ⟨result, world⟩ := called
    obtain rfl : result = .ok left := hleft
    exact ⟨_, rfl⟩

end Registry

/-! ### Operations -/

/-- What is answered about a connection that the table has no place for. -/
def Operation.unknown (unknown : UnknownConnection) : Operation → Answer
  | load _ _ _ | loadWith _ _ => .load (.failed (.unknownConnection unknown))
  | unload _ => .unload (.error unknown)
  | invoke _ _ | invokeUnchecked _ _ => .invoke (.error (.unknownConnection unknown))
  | invokePayload _ _ => .invokePayload (.error (.unknownConnection unknown))
  | status _ => .status (.error unknown)
  | describe _ => .describe none
  | loadedCount => .loadedCount 0
  | shutDown => .shutDown

/-- What an operation says before it looks at anything. -/
def Operation.shown : Operation → List Event
  | invokePayload conn payload => [.payloadBefore conn payload.report]
  | _ => []

/-- Whether an answer refuses an operation. What a loader makes of a load is no refusal. -/
def Answer.isRefusal : Answer → Bool
  | load (.failed (.unknownConnection _)) | load (.failed (.invalidArgument _)) => true
  | load _ => false
  | unload result => !result.isOk
  | invoke result => !result.isOk
  | invokePayload result => !result.isOk
  | status result => !result.isOk
  | describe info? => info?.isNone
  | loadedCount _ | shutDown => false

/-- The outcome of a load that was carried out is no refusal. -/
theorem LoadOutcome.isRefusal_result (outcome : LoadOutcome) (request : LoadRequest) :
    (Answer.load (outcome.result request)).isRefusal = false := by
  cases outcome <;> rfl

namespace Host

/-- What is looked at before an operation. -/
def checks (host : Host B S L) : Operation → List (Check Answer)
  | .load conn path symbol =>
    (host.registry.loadChecks conn path symbol).map (.map fun error => .load (.failed error))
  | .loadWith conn request =>
    (host.registry.loadChecks conn request.path request.symbol).map
      (.map fun error => .load (.failed error))
  | .unload conn =>
    [(host.registry.connectionCheck conn).map fun unknown => .unload (.error unknown)]
  | .invoke conn buffers =>
    (host.registry.callChecks conn buffers).map (.map fun error => .invoke (.error error))
  | .invokeUnchecked conn _ =>
    (host.registry.uncheckedCallChecks conn).map (.map fun error => .invoke (.error error))
  | .invokePayload conn payload =>
    (host.registry.callChecks conn payload.call).map
      (.map fun error => .invokePayload (.error error))
  | .status conn =>
    [(host.registry.connectionCheck conn).map fun unknown => .status (.error unknown)]
  | .describe conn => [(host.registry.connectionCheck conn).map fun _ => .describe none]
  | .loadedCount | .shutDown => []

/-- What an operation is refused with, if anything is wrong. -/
def refusal? (host : Host B S L) (operation : Operation) : Option Answer :=
  firstFault? (host.checks operation)

/-- What is reported is a refusal. -/
theorem isRefusal_of_mem_checks {host : Host B S L} {operation : Operation} {check : Check Answer}
    (hcheck : check ∈ host.checks operation) : check.report.isRefusal = true := by
  revert check
  cases operation <;>
    simp [checks, Registry.loadChecks, Registry.callChecks, Registry.uncheckedCallChecks,
      Registry.loadedCheck, Check.map, Answer.isRefusal, Except.isOk, Except.toBool]

/-- A load is refused by the first of its checks that is wrong, and leaves the host as it was
then. -/
theorem load_checked (host : Host B S L) (conn : ConnectionId) (request : LoadRequest) :
    match (firstFault? (host.registry.loadChecks conn request.path request.symbol)).map
        fun error => Answer.load (.failed error) with
    | some answer =>
      host.perform (.loadWith conn request) = (answer, { host with world := host.world.tells [] })
    | none => (host.perform (.loadWith conn request)).1.isRefusal = false := by
  have hload := host.registry.loadWith_checked conn request host.world
  generalize firstFault? (host.registry.loadChecks conn request.path request.symbol) = fault?
    at hload ⊢
  cases fault? with
  | some error => simp [perform, hload]
  | none =>
    obtain ⟨outcome, hresult⟩ := hload
    simp only [perform, Option.map_none, hresult]
    exact outcome.isRefusal_result request

/-- What a call answers, from what its checks say and from an answer to a call that went through. -/
theorem call_checked {α : Type} {fault? : Option DispatchError}
    {called : Except DispatchError α × World B S} {told : World B S}
    (hcalled : match fault? with
      | some error => called = (.error error, told)
      | none => ∃ left, called.1 = .ok left)
    {answer : Except DispatchError α → Answer}
    (hanswer : ∀ left, (answer (.ok left)).isRefusal = false) (registry : Registry B S L) :
    match fault?.map fun error => answer (.error error) with
    | some refusal => (answer called.1, Host.mk registry called.2) = (refusal, ⟨registry, told⟩)
    | none => (answer called.1).isRefusal = false := by
  cases fault? with
  | some error =>
    obtain rfl := hcalled
    rfl
  | none =>
    obtain ⟨left, hleft⟩ := hcalled
    simp only [Option.map_none, hleft]
    exact hanswer left

/-- An operation is refused with the first thing that is wrong, and then nothing is done. If nothing
is wrong, it is not refused. -/
theorem perform_checked (host : Host B S L) (operation : Operation) :
    match host.refusal? operation with
    | some answer =>
      host.perform operation = (answer, { host with world := host.world.tells operation.shown })
    | none => (host.perform operation).1.isRefusal = false := by
  unfold refusal?
  -- the checks of each operation are those that its part of the registry makes
  cases operation with
  | load conn path symbol =>
    rw [checks, firstFault?_map]
    exact host.load_checked conn ⟨path, symbol, host.registry.settings.isolateInstances⟩
  | loadWith conn request =>
    rw [checks, firstFault?_map]
    exact host.load_checked conn request
  | invoke conn buffers =>
    have hshown : host.world.tells (Operation.invoke conn buffers).shown = host.world :=
      host.world.tells_nil
    rw [checks, firstFault?_map, hshown]
    exact call_checked (host.registry.invoke_checked conn buffers host.world) (fun _ => rfl)
      host.registry
  | invokeUnchecked conn buffers =>
    have hshown : host.world.tells (Operation.invokeUnchecked conn buffers).shown = host.world :=
      host.world.tells_nil
    rw [checks, firstFault?_map, hshown]
    exact call_checked (host.registry.invokeUnchecked_checked conn buffers host.world)
      (fun _ => rfl) host.registry
  | invokePayload conn payload =>
    rw [checks, firstFault?_map]
    exact call_checked (host.registry.invokePayload_checked conn payload host.world) (fun _ => rfl)
      host.registry
  | unload conn =>
    rcases host.registry.index_cases conn with ⟨index, -, hindex, hright⟩ | ⟨hindex, hwrong⟩
    · simp [checks, Check.map, hright, perform, Registry.unload, hindex, Answer.isRefusal,
        Except.isOk, Except.toBool]
    · simp [checks, Check.map, hwrong, perform, Registry.unload, hindex, Operation.shown]
  | status conn =>
    rcases host.registry.index_cases conn with ⟨index, -, hindex, hright⟩ | ⟨hindex, hwrong⟩
    · simp [checks, Check.map, hright, perform, Registry.status, hindex, Answer.isRefusal,
        Except.isOk, Except.toBool, Except.map]
    · simp [checks, Check.map, hwrong, perform, Registry.status, hindex, Operation.shown,
        Except.map]
  | describe conn =>
    rcases host.registry.index_cases conn with ⟨index, -, hindex, hright⟩ | ⟨hindex, hwrong⟩
    · simp [checks, Check.map, hright, perform, Registry.describe?, hindex, Answer.isRefusal]
    · simp [checks, Check.map, hwrong, perform, Registry.describe?, hindex, Operation.shown]
  | loadedCount | shutDown => rfl

/-- The answers that the checks give are refusals. -/
theorem isRefusal_of_refusal? {host : Host B S L} {operation : Operation} {answer : Answer}
    (hrefusal : host.refusal? operation = some answer) : answer.isRefusal = true := by
  obtain ⟨check, hmem, rfl⟩ := exists_of_firstFault? hrefusal
  exact isRefusal_of_mem_checks hmem

/-- Nothing is wrong with an operation that is not refused. -/
theorem refusal?_eq_none {host : Host B S L} {operation : Operation}
    (hanswer : (host.perform operation).1.isRefusal = false) : host.refusal? operation = none := by
  have hperform := host.perform_checked operation
  cases hrefusal : host.refusal? operation with
  | none => rfl
  | some answer =>
    rw [hrefusal] at hperform
    rw [hperform, isRefusal_of_refusal? hrefusal] at hanswer
    cases hanswer

/-- A load that is not refused has a place in the table, and a path and a symbol. -/
theorem admitted_of_refusal? {host : Host B S L} {operation : Operation} {conn : ConnectionId}
    {request : LoadRequest}
    (hrequest : operation.request? host.registry.settings = some (conn, request))
    (hrefusal : host.refusal? operation = none) :
    conn.index? host.registry.capacity = some conn.toInt.toNat
      ∧ Registry.requestFault? request = none := by
  have hfault : firstFault? (host.registry.loadChecks conn request.path request.symbol) = none := by
    cases operation <;> cases hrequest <;>
      simpa only [refusal?, checks, firstFault?_map, Option.map_eq_none_iff] using hrefusal
  rw [Registry.firstFault?_loadChecks, Registry.index] at hfault
  cases hindex : conn.index? host.registry.capacity with
  | none =>
    rw [hindex] at hfault
    cases hfault
  | some index =>
    rw [hindex] at hfault
    have hplace : index = conn.toInt.toNat := by
      rw [(ConnectionId.index?_eq_some_iff.1 hindex).1, Int.toNat_natCast]
    exact ⟨congrArg some hplace, hfault⟩

/-- Before anything else, the connection is looked at. What else can be wrong is answered in another
way. -/
theorem checks_of_conn? (host : Host B S L) {operation : Operation} {conn : ConnectionId}
    (hconn : operation.conn? = some conn) :
    ∃ rest, host.checks operation =
        (host.registry.connectionCheck conn).map (fun unknown => operation.unknown unknown) :: rest
      ∧ ∀ check ∈ rest, ∀ unknown, check.report ≠ operation.unknown unknown := by
  cases operation <;> cases hconn <;>
    refine ⟨_, rfl, ?_⟩ <;> simp [Operation.unknown, Check.map, Registry.loadedCheck]

/-- A connection is accepted exactly if its number is a place of the table. -/
theorem unknown_iff (host : Host B S L) {operation : Operation} {conn : ConnectionId}
    (hconn : operation.conn? = some conn) :
    (host.perform operation).1 = operation.unknown ⟨conn, host.registry.capacity⟩ ↔
      ¬(0 ≤ conn.toInt ∧ conn.toInt < host.registry.capacity) := by
  have hperform := host.perform_checked operation
  obtain ⟨rest, hchecks, hrest⟩ := host.checks_of_conn? hconn
  rw [refusal?, hchecks, firstFault?_cons] at hperform
  by_cases hwithin : 0 ≤ conn.toInt ∧ conn.toInt < host.registry.capacity
  · have hright : ((host.registry.connectionCheck conn).map
        fun unknown => operation.unknown unknown).wrong = false := by
      simp [Check.map, Registry.connectionCheck, hwithin]
    rw [hright, if_neg Bool.false_ne_true] at hperform
    -- neither what else is wrong nor what is done when nothing is can be answered in this way
    refine iff_of_false ?_ (not_not_intro hwithin)
    intro hanswer
    cases hfault : firstFault? rest with
    | some report =>
      obtain ⟨check, hmem, rfl⟩ := exists_of_firstFault? hfault
      rw [hfault] at hperform
      exact hrest check hmem _ ((congrArg Prod.fst hperform).symm.trans hanswer)
    | none =>
      have hrefusal : (operation.unknown ⟨conn, host.registry.capacity⟩).isRefusal = true :=
        isRefusal_of_mem_checks (hchecks ▸ List.mem_cons_self ..)
      rw [hfault] at hperform
      simp only [hanswer, hrefusal] at hperform
      cases hperform
  · have hwrong : ((host.registry.connectionCheck conn).map
        fun unknown => operation.unknown unknown).wrong = true :=
      decide_eq_true hwithin
    rw [if_pos hwrong] at hperform
    exact iff_of_true (congrArg Prod.fst hperform) hwithin

end Host

/-! ### Sessions -/

namespace Session

/-- What a call on a payload says before it looks at anything. -/
def callShown (conn : ConnectionId) (payload : Payload) (shown : Bool) : List Event :=
  if shown then [.payloadBefore conn payload.report] else []

/-- A payload is handed over unless one of the call's checks is wrong. -/
theorem handOver_checked (session : Session B S L) (conn : ConnectionId) (name : String)
    (shown : Bool) :
    match firstFault? (session.host.registry.callChecks conn (session.payloads name).call) with
    | some error =>
      session.handOver conn name shown =
        (.error error, session.host.world.tells (callShown conn (session.payloads name) shown))
    | none => ∃ payload, (session.handOver conn name shown).1 = .ok payload := by
  cases shown with
  | true => exact session.host.registry.invokePayload_checked conn _ _
  | false =>
    have hcall := session.host.registry.invoke_checked conn (session.payloads name).call
      session.host.world
    generalize firstFault? (session.host.registry.callChecks conn _) = fault? at hcall ⊢
    cases fault? with
    | some error => simp [handOver, callShown, hcall, Except.map]
    | none =>
      obtain ⟨left, hleft⟩ := hcall
      exact ⟨{ session.payloads name with call := left }, by simp [handOver, hleft, Except.map]⟩

/-- A call on a payload is refused with the first thing that is wrong, and then the payload and
everything else are as before. If nothing is wrong, the controller is called. -/
theorem call_checked (session : Session B S L) (conn : ConnectionId) (name : String)
    (shown : Bool) :
    match firstFault? (session.host.registry.callChecks conn (session.payloads name).call) with
    | some error =>
      session.perform (.call conn name shown) =
        (.call (.error error) (session.payloads name),
          { session with
            host.world :=
              session.host.world.tells (callShown conn (session.payloads name) shown) })
    | none => ∃ payload, (session.perform (.call conn name shown)).1 = .call (.ok ()) payload := by
  have hhand := session.handOver_checked conn name shown
  rw [perform_call]
  unfold returned
  generalize firstFault? (session.host.registry.callChecks conn _) = fault? at hhand ⊢
  cases fault? with
  | some error => simp [hhand, Except.map, Except.toOption]
  | none =>
    obtain ⟨payload, hpayload⟩ := hhand
    exact ⟨payload, by simp [hpayload, Except.map, Except.toOption]⟩

/-- **What is refused is refused in a fixed order, and before anything is done.** After every run
over every loader, an operation answers with the first thing that is wrong with it, and a connection
is wrong exactly if its number is no place of the table. Then the registry, the files, the
libraries, their counters and the payloads are what they were, and no controller is called: at most
a payload has been shown. If nothing is wrong, the operation is not refused. -/
theorem refused_untouched (loader : Loader B S L) (settings : Settings) (world : World B S)
    (history : List Operation) :
    let host := (Host.start loader settings world).after history
    (∀ operation,
        (match host.refusal? operation with
          | some answer =>
            answer.isRefusal = true
              ∧ host.perform operation =
                (answer, { host with world := host.world.tells operation.shown })
          | none => (host.perform operation).1.isRefusal = false)
        ∧ ∀ conn, operation.conn? = some conn →
          ((host.perform operation).1 = operation.unknown ⟨conn, settings.maxConnections⟩ ↔
            ¬(0 ≤ conn.toInt ∧ conn.toInt < settings.maxConnections)))
      ∧ ∀ payloads conn name shown,
        let session : Session B S L := ⟨host, payloads⟩
        match firstFault? (host.registry.callChecks conn (payloads name).call) with
        | some error =>
          session.perform (.call conn name shown) =
            (.call (.error error) (payloads name),
              { session with
                host.world := host.world.tells (callShown conn (payloads name) shown) })
        | none =>
          ∃ payload, (session.perform (.call conn name shown)).1 = .call (.ok ()) payload := by
  intro host
  have hcapacity : host.registry.capacity = settings.maxConnections :=
    ((Host.start loader settings world).after_constants history).2.2.trans
      (Host.capacity_start loader settings world)
  refine ⟨fun operation => ⟨?_, fun conn hconn => ?_⟩,
    fun payloads conn name shown => call_checked ⟨host, payloads⟩ conn name shown⟩
  · have hperform := host.perform_checked operation
    cases hrefusal : host.refusal? operation with
    | some answer =>
      rw [hrefusal] at hperform
      exact ⟨Host.isRefusal_of_refusal? hrefusal, hperform⟩
    | none =>
      rw [hrefusal] at hperform
      exact hperform
  · rw [← hcapacity]
    exact host.unknown_iff hconn

/-- A load that is wrong in every way, while another controller is loaded. It is refused for its
connection. -/
theorem refused_untouched_unknown :
    let catalog : Catalog Nat := Catalog.register {} (.ofText "ctrl") "DISCON" .tally
    let host := (Host.start catalog.loader { maxConnections := 2 }
      { tempDir := .ofText "/tmp", books := {}, state := 0 }).after
        [.load 0 (.ofText "ctrl") "DISCON"]
    let operation : Operation := .load 2 (.ofText "") ""
    operation.conn? = some 2
      ∧ (host.perform operation).1 = .load (.failed (.unknownConnection ⟨2, 2⟩)) := by
  intro catalog host operation
  have hconn : operation.conn? = some 2 := rfl
  have hrefused := (refused_untouched catalog.loader { maxConnections := 2 }
    { tempDir := .ofText "/tmp", books := {}, state := 0 }
    [.load 0 (.ofText "ctrl") "DISCON"]).1 operation
  exact ⟨hconn, (hrefused.2 2 hconn).2 (by decide)⟩

end Session

end ControllerHost
