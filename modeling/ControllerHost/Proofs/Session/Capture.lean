import ControllerHost.Controller.Samples
import ControllerHost.Proofs.Host.Parallel
import ControllerHost.Proofs.Host.Warnings
import ControllerHost.Proofs.Session.Interleaving

/-!
# Sessions and their logs

The debug level decides what is captured of a session's log, and nothing else: all answers and
everything that is left are the same at every level. Below the highest level the calls of a session
cannot be told from its log, and the warnings in it are those of the mishaps.

- `Log.DebugLevel.captures`: what each level captures.
- `Session.atLevel`, `Session.perform_atLevel`: a session whose settings say another level.
- `Session.transcript`: the answers of a run, each with what is captured of its step.
- `Session.transcript_atLevel`: the transcripts of one run at all levels.
- `Session.capturedOfOthers_eq`: what is captured of the other steps, with and without the calls.
- `Session.mishaps`, `Session.warned_run`: the warnings of a whole run.
- `Session.log_reveals`: all of it in one statement.
-/

namespace ControllerHost

variable {B S L : Type}

/-! ### Levels -/

/-- Whether records of a severity are captured at a debug level: warnings and errors, or all but the
calls, or everything. -/
def Log.DebugLevel.captures : Log.DebugLevel → Log.Severity → Bool
  | disabled, severity => severity = .warn ∨ severity = .error
  | basic, severity => severity ≠ .trace
  | verbose, _ => true

/-- What a level captures of some events is part of what the highest level captures. -/
theorem Event.captured_of_verbose (level : Log.DebugLevel) (events : List Event) :
    captured level events =
      (captured .verbose events).filter fun record => level.captures record.severity := by
  rw [captured_verbose, captured_eq]
  congr 1
  funext record
  cases level <;> cases record.severity <;> rfl

/-- A host whose settings say another debug level. -/
def Host.atLevel (host : Host B S L) (level : Log.DebugLevel) : Host B S L :=
  { host with registry.settings.debugLevel := level }

namespace Registry

variable (registry : Registry B S L) (level : Log.DebugLevel) (conn : ConnectionId)
  (world : World B S)

/-- A registry whose settings say another debug level. -/
def atLevel : Registry B S L := { registry with settings.debugLevel := level }

/-- A load does not look at the log's level. -/
theorem loadWith_atLevel (request : LoadRequest) :
    (registry.atLevel level).loadWith conn request world =
      ((registry.loadWith conn request world).1,
        (registry.loadWith conn request world).2.1.atLevel level,
        (registry.loadWith conn request world).2.2) := by
  have hindex : (registry.atLevel level).index conn = registry.index conn := rfl
  unfold loadWith
  rw [hindex]
  cases registry.index conn with
  | error unknown => rfl
  | ok index => cases requestFault? request <;> rfl

/-- An unload does not look at the log's level. -/
theorem unload_atLevel :
    (registry.atLevel level).unload conn world =
      ((registry.unload conn world).1, (registry.unload conn world).2.1.atLevel level,
        (registry.unload conn world).2.2) := by
  have hindex : (registry.atLevel level).index conn = registry.index conn := rfl
  unfold unload
  rw [hindex]
  cases registry.index conn <;> rfl

end Registry

/-- An operation does not depend on the debug level that the settings say, and does not change
it. -/
theorem Host.perform_atLevel (host : Host B S L) (level : Log.DebugLevel) (operation : Operation) :
    (host.atLevel level).perform operation =
      ((host.perform operation).1, (host.next operation).atLevel level) := by
  cases operation with
  | load conn path symbol =>
    have hload := host.registry.loadWith_atLevel level conn host.world
      ⟨path, symbol, host.registry.settings.isolateInstances⟩
    simp only [perform, next, Registry.load]
    exact congrArg (fun left => (Answer.load left.1, (⟨left.2.1, left.2.2⟩ : Host B S L))) hload
  | loadWith conn request =>
    have hload := host.registry.loadWith_atLevel level conn host.world request
    exact congrArg (fun left => (Answer.load left.1, (⟨left.2.1, left.2.2⟩ : Host B S L))) hload
  | unload conn =>
    have hunload := host.registry.unload_atLevel level conn host.world
    exact congrArg (fun left => (Answer.unload left.1, (⟨left.2.1, left.2.2⟩ : Host B S L))) hunload
  | invoke | invokeUnchecked | invokePayload | status | describe | loadedCount | shutDown => rfl

namespace Session

variable {level : Log.DebugLevel} {session other : Session B S L} {step : Step}

/-- A session whose settings say another debug level. -/
def atLevel (session : Session B S L) (level : Log.DebugLevel) : Session B S L :=
  { session with host := session.host.atLevel level }

/-- No step looks at the log's level. -/
theorem perform_atLevel (session : Session B S L) (level : Log.DebugLevel) (step : Step) :
    (session.atLevel level).perform step =
      ((session.perform step).1, (session.perform step).2.atLevel level) := by
  cases step with
  | registry operation =>
    have hperform := session.host.perform_atLevel level operation
    exact congrArg
      (fun left => (Answer.registry left.1, (⟨left.2, session.payloads⟩ : Session B S L))) hperform
  | call conn name shown => rfl
  | payload step => rfl

/-! ### Transcripts -/

/-- Whether a step calls a controller. -/
def Step.isCall : Step → Bool
  | registry operation => operation.isCall
  | call _ _ _ => true
  | payload _ => false

/-- What a step adds to what has happened. -/
def told (session : Session B S L) (step : Step) : List Event :=
  (session.perform step).2.host.world.events.drop session.host.world.events.length

/-- The answer to a step, and what is captured of the step at a debug level. -/
def entry (level : Log.DebugLevel) (session : Session B S L) (step : Step) :
    Answer × List Log.Record :=
  ((session.perform step).1, Event.captured level (session.told step))

/-- The steps of a run, each with its answer and what is captured of it. -/
def transcript (level : Log.DebugLevel) (session : Session B S L) (steps : List Step) :
    List (Step × Answer × List Log.Record) :=
  Run.trace (watch (entry level)) session steps

/-- What is captured of the steps of a run that call no controller. -/
def capturedOfOthers (level : Log.DebugLevel) (session : Session B S L) (steps : List Step) :
    List (List Log.Record) :=
  (((transcript level session steps).filter fun entry => !entry.1.isCall).map Prod.snd).map
    Prod.snd

/-- What is captured at a debug level when a session ends. -/
def capturedAtEnd (level : Log.DebugLevel) (session : Session B S L) : List Log.Record :=
  Event.captured level session.host.toldAtEnd

/-- What a step tells is what its operation on the host tells. -/
theorem told_eq (session : Session B S L) (step : Step) :
    session.told step = (step.operation? session).elim [] session.host.told := by
  rw [told, host_perform]
  cases step.operation? session with
  | none => exact List.drop_length
  | some operation => rfl

/-- A step adds what it tells to the events. -/
theorem events_perform (session : Session B S L) (step : Step) :
    (session.perform step).2.host.world.events =
      session.host.world.events ++ session.told step := by
  rw [told_eq, host_perform]
  cases step.operation? session with
  | none => exact (List.append_nil _).symm
  | some operation => exact session.host.events_next operation

/-- What a step tells does not depend on the log's level. -/
theorem told_atLevel (session : Session B S L) (level : Log.DebugLevel) (step : Step) :
    (session.atLevel level).told step = session.told step := by
  rw [told, perform_atLevel]
  rfl

/-- The transcripts of a run at the debug levels that the settings say have the same answers, and
differ in what the levels capture. -/
theorem transcript_atLevel (session : Session B S L) (level : Log.DebugLevel) (steps : List Step) :
    transcript level (session.atLevel level) steps =
        (transcript .verbose (session.atLevel .verbose) steps).map
          (fun (step, answer, records) =>
            (step, answer, records.filter fun record => level.captures record.severity))
      ∧ Run.after perform (session.atLevel level) steps =
        (Run.after perform session steps).atLevel level := by
  induction steps generalizing session with
  | nil => exact ⟨rfl, rfl⟩
  | cons step rest ih =>
    obtain ⟨htranscript, hafter⟩ := ih (session.perform step).2
    have hnext (level : Log.DebugLevel) : ((session.atLevel level).perform step).2 =
        (session.perform step).2.atLevel level := by
      rw [perform_atLevel]
    constructor
    · simp only [transcript, Run.trace, watch, entry, told_atLevel, perform_atLevel,
        List.map_cons] at htranscript ⊢
      rw [htranscript, Event.captured_of_verbose level]
    · rw [Run.after, List.foldl_cons, hnext]
      exact hafter

/-! ### Calls -/

/-- A step that calls a controller asks for a call. -/
theorem isCall_of_operation? {operation : Operation}
    (hoperation : step.operation? session = some operation) : step.isCall = operation.isCall := by
  cases step with
  | registry operation =>
    cases hoperation
    rfl
  | call conn name shown => cases shown <;> cases hoperation <;> rfl
  | payload step => cases hoperation

/-- Below the highest level nothing is captured of a call. -/
theorem captured_of_isCall (hlevel : level ≠ .verbose) (hcall : step.isCall) :
    Event.captured level (session.told step) = [] := by
  rw [told_eq]
  cases hoperation : step.operation? session with
  | none => rfl
  | some operation =>
    rw [isCall_of_operation? hoperation] at hcall
    obtain ⟨added, hevents, hnotes⟩ := session.host.goesOn_of_isCall hcall
    rw [Option.elim_some, session.host.told_of_events operation hevents, Event.captured_eq,
      List.filter_eq_nil_iff]
    intro record hrecord
    obtain ⟨event, hevent, hrecord⟩ := List.mem_filterMap.1 hrecord
    have hseverity := Event.severity_of_isCallNote (hnotes event hevent) hrecord
    cases level with
    | verbose => exact absurd rfl hlevel
    | disabled | basic => simp [hseverity, Log.DebugLevel.severity, Log.Severity.rank]

/-- Below the highest level no entry of a transcript has records of a call. -/
theorem records_of_isCall (hlevel : level ≠ .verbose) {steps : List Step}
    {entry : Step × Answer × List Log.Record} (hentry : entry ∈ transcript level session steps)
    (hcall : entry.1.isCall) : entry.2.2 = [] := by
  induction steps generalizing session with
  | nil => cases hentry
  | cons step rest ih =>
    rcases List.mem_cons.1 hentry with rfl | hrest
    · exact captured_of_isCall hlevel hcall
    · exact ih hrest

/-- A step that calls nothing tells the same in two sessions whose hosts differ in the controllers'
state and in what has happened. -/
theorem told_of_areLevel (hlevel : session.host.AreLevel .anyState other.host)
    (hcall : step.isCall = false) :
    session.told step = other.told step
      ∧ (session.perform step).2.host.AreLevel .anyState (other.perform step).2.host := by
  rw [told_eq, told_eq, host_perform, host_perform]
  -- what such a step asks of the registry does not depend on the payloads
  cases step with
  | registry operation =>
    have hnone : operation.isCall = true → (Leeway.anyState : Leeway B S).IsExact :=
      fun hcalled => absurd (hcalled.symm.trans hcall) (by decide)
    exact (hlevel.perform session.host.registry.loader.respects_anyState hnone).2
  | call conn name shown => cases hcall
  | payload step => exact ⟨rfl, hlevel⟩

/-- A step that calls a controller leaves such hosts. -/
theorem areLevel_of_isCall (hlevel : session.host.AreLevel .anyState other.host)
    (hcall : step.isCall) : (session.perform step).2.host.AreLevel .anyState other.host := by
  rw [host_perform]
  cases hoperation : step.operation? session with
  | none => exact hlevel
  | some operation => exact hlevel.call (isCall_of_operation? hoperation ▸ hcall)

/-- What is captured of the other steps is what is captured of them when no controller is called. -/
theorem capturedOfOthers_filter (session : Session B S L) (level : Log.DebugLevel)
    (steps : List Step) :
    let others := steps.filter fun step => !step.isCall
    capturedOfOthers level session steps =
        ((transcript level session others).map Prod.snd).map Prod.snd
      ∧ (Run.after perform session steps).host.AreLevel .anyState
        (Run.after perform session others).host := by
  intro others
  -- the runs with and without the calls stay level, up to the controllers' state
  have hself : session.host.AreLevel .anyState session.host :=
    session.host.areLevel_refl rfl trivial
  obtain ⟨hrecords, hafter⟩ := @Run.trace_filter _ _ _ _ _ _ (watch (entry level))
    (watch (entry level)) (fun _ _ => True) (fun step => !step.isCall) Eq
    (fun first second => first.2 = second.2)
    (fun session other => session.host.AreLevel .anyState other.host)
    (by
      rintro session other step _ hlevel - hcall rfl
      obtain ⟨htold, hnext⟩ := told_of_areLevel hlevel (by simpa using hcall)
      exact ⟨congrArg (Event.captured level) htold, hnext⟩)
    (fun hlevel _ hcall => areLevel_of_isCall hlevel (by simpa using hcall))
    session session hself steps (Run.allows_of_forall (fun _ _ _ => trivial) session) others
    (List.forall₂_same.2 fun _ _ => rfl)
  refine ⟨?_, hafter⟩
  rw [← List.forall₂_eq_eq_eq, capturedOfOthers, List.forall₂_map_left_iff,
    List.forall₂_map_right_iff]
  exact hrecords

/-- Two runs with the same other steps differ in the calls, and nothing of that is captured of the
other steps. -/
theorem capturedOfOthers_eq (session : Session B S L) (level : Log.DebugLevel)
    {steps steps' : List Step}
    (hothers : (steps.filter fun step => !step.isCall) = steps'.filter fun step => !step.isCall) :
    capturedOfOthers level session steps = capturedOfOthers level session steps'
      ∧ (Run.after perform session steps).capturedAtEnd level =
        (Run.after perform session steps').capturedAtEnd level := by
  obtain ⟨hrecords, hafter⟩ := session.capturedOfOthers_filter level steps
  obtain ⟨hrecords', hafter'⟩ := session.capturedOfOthers_filter level steps'
  refine ⟨?_, ?_⟩
  · rw [hrecords, hrecords', hothers]
  · have hrespects (left : Session B S L) := left.host.registry.loader.respects_anyState
    rw [capturedAtEnd, hafter.toldAtEnd (hrespects _), capturedAtEnd,
      hafter'.toldAtEnd (hrespects _), hothers]

/-! ### Warnings -/

/-- What goes wrong in a step. -/
def mishaps (session : Session B S L) (step : Step) : List Mishap :=
  (step.operation? session).elim [] session.host.mishaps

/-- What goes wrong in a run and when the session ends after it, in order. -/
def mishapsOf (session : Session B S L) (steps : List Step) : List Mishap :=
  ((Run.trace (watch mishaps) session steps).flatMap Prod.snd) ++
    (Run.after perform session steps).host.mishapsAtEnd

/-- The warnings that a step tells are those of its mishaps. -/
theorem warned (session : Session B S L) (step : Step) :
    Event.WarnOf (session.told step) (session.mishaps step) := by
  rw [told_eq, mishaps]
  cases step.operation? session with
  | none => exact Event.warnOf_nil
  | some operation => exact session.host.warned operation

/-- A run adds to what has happened, and the end of the session does, and among what they add there
are warnings of what goes wrong and no others. -/
theorem warned_run (session : Session B S L) (steps : List Step) :
    ∃ added,
      (Run.after perform session steps).host.drop.events = session.host.world.events ++ added
        ∧ Event.WarnOf added (session.mishapsOf steps) := by
  induction steps generalizing session with
  | nil => exact ⟨_, session.host.events_drop, session.host.warnedAtEnd⟩
  | cons step rest ih =>
    obtain ⟨added, hevents, hwarn⟩ := ih (session.perform step).2
    refine ⟨session.told step ++ added, ?_, ?_⟩
    · rw [Run.after, List.foldl_cons]
      exact hevents.trans (by rw [events_perform, List.append_assoc])
    · have hall := (session.warned step).append hwarn
      rw [mishapsOf, ← List.append_assoc] at hall
      exact hall

/-- **What a session's log reveals.** Take a session over any loader and any steps. At whatever
debug level its settings say and its log is captured, the answers are the same and so is what is
left, and what is captured of each step is what the level captures of the records at the highest
level. With other calls in between, at whatever places and however they end, the same is captured of
the other steps and of the end of the session, and of the calls nothing is captured below the
highest level. The warnings of the whole session are one for each load that could not be made and
one for each library whose loader complained when it was closed, in this order, each with its
connection. -/
theorem log_reveals (loader : Loader B S L) (settings : Settings) (world : World B S)
    (payloads : String → Payload) (steps : List Step) :
    let session : Session B S L := ⟨.start loader settings world, payloads⟩
    (∀ level : Log.DebugLevel,
      transcript level (session.atLevel level) steps =
          (transcript .verbose (session.atLevel .verbose) steps).map
            (fun (step, answer, records) =>
              (step, answer, records.filter fun record => level.captures record.severity))
        ∧ Run.after perform (session.atLevel level) steps =
          (Run.after perform session steps).atLevel level
        ∧ (Run.after perform session steps).capturedAtEnd level =
          ((Run.after perform session steps).capturedAtEnd .verbose).filter
            fun record => level.captures record.severity)
      ∧ (∀ (level : Log.DebugLevel) (steps' : List Step),
        ((steps.filter fun step => !step.isCall) = steps'.filter fun step => !step.isCall) →
          capturedOfOthers level session steps = capturedOfOthers level session steps'
            ∧ (Run.after perform session steps).capturedAtEnd level =
              (Run.after perform session steps').capturedAtEnd level)
      ∧ (∀ level ≠ Log.DebugLevel.verbose, ∀ entry ∈ transcript level session steps,
        entry.1.isCall → entry.2.2 = [])
      ∧ ∀ level : Log.DebugLevel, List.Forall₂ Mishap.Warns (session.mishapsOf steps)
        (((Run.after perform session steps).host.drop.captured level).filter
          fun record => record.severity = .warn) := by
  intro session
  refine ⟨fun level => ?_, fun level steps' hothers => session.capturedOfOthers_eq level hothers,
    fun level hlevel => ?_, fun level => ?_⟩
  · obtain ⟨htranscript, hafter⟩ := session.transcript_atLevel level steps
    exact ⟨htranscript, hafter, Event.captured_of_verbose level _⟩
  · exact fun entry hentry hcall => records_of_isCall hlevel hentry hcall
  · obtain ⟨added, hevents, hwarn⟩ := session.warned_run steps
    rw [World.captured_eq, Event.warnings_captured, hevents]
    exact hwarn

/-- A catalog that complains about every library that it has closed. A controller is loaded and
called, and replaced by one that lacks its entry point, and another connection asks for a library
that there is not. Without the call the same is captured of the loads, and the four warnings are
those of the two complaints and the two loads. -/
theorem log_reveals_complaints :
    let catalog : Catalog Nat := Catalog.register {} (.ofText "ctrl") "DISCON" .tally
    let loads : List Step :=
      [.registry (.load 0 (.ofText "ctrl") "absent"), .registry (.load 1 (.ofText "none") "DISCON")]
    let first : Step := .registry (.load 0 (.ofText "ctrl") "DISCON")
    let call : Step := .call 0 "data" true
    let session : Session Tally Nat (Exports Nat) :=
      ⟨.start (catalog.loader { complaint? := some "complaint" }) { maxConnections := 2 }
        { tempDir := .ofText "/tmp", books := {}, state := 0 }, fun _ => Payload.zeroed 2 4⟩
    (((first :: call :: loads).filter fun step => !step.isCall) =
        (first :: loads).filter fun step => !step.isCall)
      ∧ capturedOfOthers .basic session (first :: call :: loads) =
        capturedOfOthers .basic session (first :: loads)
      ∧ session.mishapsOf (first :: call :: loads) =
        [.close 0 "complaint",
          .load 0 (.symbolNotFound (.ofText "ctrl") "absent" "undefined symbol: absent"),
          .close 0 "complaint",
          .load 1 (.libraryNotFound (.ofText "none") "none: no such library registered")]
      ∧ List.Forall₂ Mishap.Warns (session.mishapsOf (first :: call :: loads))
        (((Run.after perform session (first :: call :: loads)).host.drop.captured .disabled).filter
          fun record => record.severity = .warn) := by
  intro catalog loads first call session
  obtain ⟨-, hothers, -, hwarned⟩ := log_reveals (catalog.loader { complaint? := some "complaint" })
    { maxConnections := 2 } { tempDir := .ofText "/tmp", books := {}, state := 0 }
    (fun _ => Payload.zeroed 2 4) (first :: call :: loads)
  exact ⟨rfl, (hothers .basic (first :: loads) rfl).1, by decide +kernel, hwarned .disabled⟩

end Session

end ControllerHost
