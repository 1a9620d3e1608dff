import ControllerHost.Log.Filter
import ControllerHost.World
import Mathlib

/-!
# What is captured of the log

When the environment holds no filter, the debug level decides which records are captured. Above the
lowest level none of those that say which controllers come and go is left out. Other records read
differently, whatever paths, names and reasons they quote, and connections are told apart by how
they are written. So what the captured records say about coming and going is what has happened.

- `World.captured`, `Event.captured`: what is captured of a world's log, and of some events.
- `Event.captured_eq`: what a debug level captures is told by the severities.
- `ConnectionId.text_injective`: connections are told apart by how they are written.
- `Event.record_cases`: no other record reads like those about coming and going.
- `Event.captured_turns`, `Event.captured_unloads`, `Event.captured_shutDowns`: the captured records
  of each kind are those of the events of that kind.
-/

namespace ControllerHost

variable {B S L : Type}

/-! ### Texts -/

/-- A text that begins differently is another text. -/
theorem Log.append_not_mem {start : String} {words : List String}
    (hstart : ∀ word ∈ words, start.toList.isPrefixOf word.toList = false) (rest : String) :
    start ++ rest ∉ words := by
  intro hmem
  have hprefix : start.toList.isPrefixOf (start ++ rest).toList = true := by
    rw [List.isPrefixOf_iff_prefix, String.toList_append]
    exact List.prefix_append _ _
  rw [hstart _ hmem] at hprefix
  cases hprefix

/-- The digits of a connection's number determine the connection. -/
theorem ConnectionId.text_injective {first second : ConnectionId}
    (hsame : first.text = second.text) : first = second :=
  Int32.toInt_inj.1 (Int.repr_injective hsame)

/-! ### Records and events -/

/-- The messages of the records about controllers that come and go. -/
def Log.trailMessages : List String :=
  ["controller loaded", "controller unloaded", "registry shut down"]

/-- Whether a record says that a controller has come or gone on a connection. -/
def Log.Record.isTurn (conn : ConnectionId) (record : Log.Record) : Bool :=
  (record.message = "controller loaded" || record.message = "controller unloaded")
    && record.fields.lookup "conn" = some conn.text

/-- Whether a record says that a controller has gone. -/
def Log.Record.isUnload (record : Log.Record) : Bool := record.message = "controller unloaded"

/-- Whether a record is about a shutdown. -/
def Log.Record.isShutDown (record : Log.Record) : Bool := record.message = "registry shut down"

/-- Whether an event says that a controller has come or gone. -/
def Event.isTurn : Event → Bool
  | loaded _ _ _ | unloaded _ _ => true
  | _ => false

/-- Whether an event says that a controller has gone. -/
def Event.isUnload : Event → Bool
  | unloaded _ _ => true
  | _ => false

/-- Whether an event is about a shutdown. -/
def Event.isShutDown : Event → Bool
  | shutDown _ => true
  | _ => false

/-- An event with a record says that a controller has come or gone, or is about a shutdown, or its
record reads differently. -/
theorem Event.record_cases {event : Event} {record : Log.Record}
    (hrecord : event.record? = some record) :
    (∃ conn path symbol, event = .loaded conn path symbol)
      ∨ (∃ conn path, event = .unloaded conn path)
      ∨ (∃ released, event = .shutDown released)
      ∨ event.isTurn = false ∧ event.isUnload = false ∧ event.isShutDown = false
        ∧ record.message ∉ Log.trailMessages := by
  cases event with
  | loaded conn path symbol => exact .inl ⟨conn, path, symbol, rfl⟩
  | unloaded conn path => exact .inr (.inl ⟨conn, path, rfl⟩)
  | shutDown released => exact .inr (.inr (.inl ⟨released, rfl⟩))
  | openPanicked | resolvePanicked | copyDeleted => cases hrecord
  -- what the loader does has a record only for libraries from files
  | opened conn path fromFile | closed conn path fromFile =>
    cases fromFile <;> cases hrecord
    exact .inr (.inr (.inr ⟨rfl, rfl, rfl, by simp [Log.trailMessages]⟩))
  | replacing | copied | notCopied | calling =>
    cases hrecord
    exact .inr (.inr (.inr ⟨rfl, rfl, rfl, by simp [Log.trailMessages]⟩))
  -- these end with a reason, a report or a path, which may be any text: their beginning decides
  | copyFailed | openFailed | resolveFailed | closeComplained | payloadBefore | payloadAfter
  | unloadIgnored =>
    cases hrecord
    exact .inr (.inr (.inr ⟨rfl, rfl, rfl, Log.append_not_mem (by decide) _⟩))
  | settingsRefused path reason =>
    cases hrecord
    refine .inr (.inr (.inr ⟨rfl, rfl, rfl, ?_⟩))
    simp only [String.append_assoc]
    exact Log.append_not_mem (by decide) _

/-- What is captured of a world's log at a debug level, when the environment holds no filter. -/
def World.captured (world : World B S) (level : Log.DebugLevel) : List Log.Record :=
  (Log.Filter.choose none level).select world.records

/-- Above the lowest level what the registry says about controllers is captured. -/
theorem Log.Filter.allows_registry {level : Log.DebugLevel} (hlevel : level ≠ .disabled) :
    (Log.Filter.choose none level).allows Log.Source.registry.target .info = true := by
  cases level with
  | disabled => exact absurd rfl hlevel
  | basic => decide
  | verbose => decide

/-- The captured records of some events. -/
def Event.captured (level : Log.DebugLevel) (events : List Event) : List Log.Record :=
  (Log.Filter.choose none level).select (events.filterMap Event.record?)

section Captured

variable {level : Log.DebugLevel} {world left : World B S} {conn : ConnectionId}

theorem Event.captured_append (first second : List Event) :
    captured level (first ++ second) = captured level first ++ captured level second := by
  simp [captured, Log.Filter.select]

theorem World.captured_eq (world : World B S) (level : Log.DebugLevel) :
    world.captured level = Event.captured level world.events := rfl

/-- What the parts of the host write is captured from the severity of the debug level up. -/
theorem Log.Filter.allows_source (level : Log.DebugLevel) (source : Log.Source)
    (severity : Log.Severity) :
    (Log.Filter.choose none level).allows source.target severity =
      decide (severity.rank ≤ level.severity.rank) := by
  -- the directive for the host's own targets decides, whichever part it is
  have hdeciding : (Log.Filter.choose none level).deciding? source.target =
      some ⟨some "discon_wrapper", .upTo level.severity⟩ := by
    cases source <;> cases level <;> decide
  rw [allows, hdeciding]
  rfl

/-- Of everything that is logged, a debug level captures what is at least as severe as it says. -/
theorem Event.captured_eq (level : Log.DebugLevel) (events : List Event) :
    captured level events =
      (events.filterMap record?).filter fun record =>
        record.severity.rank ≤ level.severity.rank := by
  simp only [captured, Log.Filter.select, Log.Filter.allows_source]

/-- At the highest level everything that is logged is captured. -/
theorem Event.captured_verbose (events : List Event) :
    captured .verbose events = events.filterMap record? := by
  rw [captured_eq, List.filter_eq_self]
  intro record _
  cases record.severity <;> rfl

/-- If the records of some kind that are captured are those of the events of some kind, the captured
records of that kind are read off the events. -/
theorem Event.filter_captured {ofKind : Log.Record → Bool} {isKind : Event → Bool}
    (hkind : ∀ event record, event.record? = some record →
      (ofKind record && (Log.Filter.choose none level).allows record.source.target
        record.severity) = isKind event) (events : List Event) :
    (captured level events).filter ofKind = (events.filter isKind).filterMap Event.record? := by
  rw [captured, Log.Filter.select, List.filter_filter, List.filter_filterMap, List.filterMap_filter]
  congr 1
  funext event
  cases hrecord : event.record? with
  | none => simp
  | some record => simp [hkind event record hrecord, Option.filter_some]

theorem Log.Record.kinds_of_not_mem {record : Log.Record}
    (hmessage : record.message ∉ Log.trailMessages) :
    (∀ conn, record.isTurn conn = false) ∧ record.isUnload = false ∧ record.isShutDown = false := by
  simp only [Log.trailMessages, List.mem_cons, List.not_mem_nil, or_false, not_or] at hmessage
  simp [isTurn, isUnload, isShutDown, hmessage]

variable (hlevel : level ≠ .disabled) (events : List Event)

include hlevel

/-- The captured records of a connection about coming and going are those of its events about
that. -/
theorem Event.captured_turns :
    (captured level events).filter (Log.Record.isTurn conn) =
      (events.filter fun event => event.isTurn && event.connection? = some conn).filterMap
        record? := by
  have hallows := Log.Filter.allows_registry hlevel
  have htext (other : ConnectionId) : other.text = conn.text ↔ other = conn :=
    ⟨ConnectionId.text_injective, congrArg _⟩
  apply filter_captured
  intro event record hrecord
  rcases record_cases hrecord with ⟨other, path, symbol, rfl⟩ | ⟨other, path, rfl⟩
    | ⟨released, rfl⟩ | ⟨hturn, -, -, hmessage⟩
  · cases hrecord
    simp [Log.Record.isTurn, hallows, isTurn, connection?, htext]
  · cases hrecord
    simp [Log.Record.isTurn, hallows, isTurn, connection?, htext]
  · cases hrecord
    simp [Log.Record.isTurn, isTurn]
  · simp [(Log.Record.kinds_of_not_mem hmessage).1, hturn]

/-- The captured records about shutdowns are those of the events about that. -/
theorem Event.captured_shutDowns :
    (captured level events).filter Log.Record.isShutDown =
      (events.filter isShutDown).filterMap record? := by
  have hallows := Log.Filter.allows_registry hlevel
  apply filter_captured
  intro event record hrecord
  rcases record_cases hrecord with ⟨other, path, symbol, rfl⟩ | ⟨other, path, rfl⟩
    | ⟨released, rfl⟩ | ⟨-, -, hshutDown, hmessage⟩
  · cases hrecord
    simp [Log.Record.isShutDown, isShutDown]
  · cases hrecord
    simp [Log.Record.isShutDown, isShutDown]
  · cases hrecord
    simp [Log.Record.isShutDown, hallows, isShutDown]
  · simp [(Log.Record.kinds_of_not_mem hmessage).2.2, hshutDown]

/-- As many records about controllers that have gone are captured as there are events about that. -/
theorem Event.captured_unloads :
    (captured level events).countP Log.Record.isUnload = events.countP isUnload := by
  have hallows := Log.Filter.allows_registry hlevel
  have hkept : (captured level events).filter Log.Record.isUnload =
      (events.filter isUnload).filterMap record? := by
    apply filter_captured
    intro event record hrecord
    rcases record_cases hrecord with ⟨other, path, symbol, rfl⟩ | ⟨other, path, rfl⟩
      | ⟨released, rfl⟩ | ⟨-, hunload, -, hmessage⟩
    · cases hrecord
      simp [Log.Record.isUnload, isUnload]
    · cases hrecord
      simp [Log.Record.isUnload, hallows, isUnload]
    · cases hrecord
      simp [Log.Record.isUnload, isUnload]
    · simp [(Log.Record.kinds_of_not_mem hmessage).2.1, hunload]
  rw [List.countP_eq_length_filter, hkept, List.length_filterMap_eq_countP,
    List.countP_eq_length.2, List.countP_eq_length_filter]
  -- each of these events has a record
  intro event hevent
  have hunload := (List.mem_filter.1 hevent).2
  cases event <;> first | rfl | cases hunload

end Captured

end ControllerHost
