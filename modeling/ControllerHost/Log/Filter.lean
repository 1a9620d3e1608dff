import ControllerHost.Log.Record
import ControllerHost.Text.Numeral

/-!
# Which records are logged

The host's debug level decides which of its records are logged, unless the environment holds a
filter of its own: directives `level` or `target=level`, separated by commas. Of the directives
whose target begins a record's target the longest decides, and of equally long ones the last.

- `Log.DebugLevel`: the three levels, with their numbers and names.
- `Log.Filter`, `Log.Filter.allows`: a filter and the records that pass it.
- `Log.Filter.parse?`: the filter that a text spells.
- `Log.Filter.choose`: the filter of the environment, or the one of the debug level.
-/

namespace ControllerHost.Log

/-- How much the host logs. -/
inductive DebugLevel where
  /-- Warnings and errors. -/
  | disabled
  /-- Also what is loaded and unloaded. -/
  | basic
  /-- Also every call. -/
  | verbose
deriving DecidableEq, Repr, Inhabited

namespace DebugLevel

/-- The number of a debug level. -/
def number : DebugLevel → Nat
  | disabled => 0
  | basic => 1
  | verbose => 2

/-- The debug level with a number. -/
def ofNumber? : Nat → Option DebugLevel
  | 0 => some disabled
  | 1 => some basic
  | 2 => some verbose
  | _ => none

/-- Every debug level is found by its number. -/
@[simp]
theorem ofNumber?_number (level : DebugLevel) : ofNumber? level.number = some level := by
  cases level <;> rfl

/-- What is said of a number that belongs to no debug level. -/
def unknownMessage (number : Nat) : String := s!"debug level {number} is not one of 0, 1, 2"

/-- The name of a debug level. -/
def name : DebugLevel → String
  | disabled => "Disabled"
  | basic => "Basic"
  | verbose => "Verbose"

/-- The least important severity that is logged. -/
def severity : DebugLevel → Severity
  | disabled => .warn
  | basic => .debug
  | verbose => .trace

end DebugLevel

/-- Where a filter cuts off: nothing passes, or everything from a severity up. -/
inductive Threshold where
  /-- Nothing passes. -/
  | off
  /-- What is at least as important passes. -/
  | upTo (severity : Severity)
deriving DecidableEq, Repr

namespace Threshold

/-- Whether a severity passes. -/
def allows : Threshold → Severity → Bool
  | off, _ => false
  | upTo least, severity => severity.rank ≤ least.rank

/-- The spelling of a threshold. -/
def text : Threshold → String
  | off => "off"
  | upTo severity => severity.name.toLower

/-- The thresholds in the order of their numbers. -/
def numbered : List Threshold := off :: Severity.all.map upTo

/-- The threshold that a text spells, by number or by name in any case. -/
def parse? (text : List Char) : Option Threshold :=
  match (Numeral.natural? text).bind fun number => numbered[number]? with
  | some threshold => some threshold
  | none =>
    if text = [] then some (upTo .error)
    else numbered.find? fun threshold => threshold.text.toList = text.map Char.toLower

end Threshold

/-- A rule of a filter: a threshold for the targets with a common beginning, or for all. -/
structure Directive where
  /-- What the targets begin with. -/
  target? : Option String
  /-- What passes of their records. -/
  threshold : Threshold
deriving DecidableEq, Repr

namespace Directive

/-- How specific a directive is. -/
def specificity (directive : Directive) : Nat :=
  match directive.target? with
  | none => 0
  | some target => target.utf8ByteSize + 1

/-- Whether a directive speaks of a target. -/
def covers (directive : Directive) (target : String) : Bool :=
  match directive.target? with
  | none => true
  | some start => start.toList.isPrefixOf target.toList

/-- The spelling of a directive. -/
def text (directive : Directive) : String :=
  match directive.target? with
  | none => directive.threshold.text
  | some target => target ++ "=" ++ directive.threshold.text

/-- Whether a directive can begin with a character. -/
def opens (c : Char) : Bool :=
  c.isAlphanum || c == '-' || c == ':' || c == '_' || c.toNat ≥ 0x80

/-- The directive that a text spells. A target alone lets everything pass, and so does one whose
level is left out. Blanks in front are part of a target, and then no level can follow it. What is
written for spans never concerns a record, hence the inner `none`. -/
def parse? (text : List Char) : Option (Option Directive) :=
  match text.dropWhile Char.isWhitespace with
  | [] => none
  | '[' :: _ => some none
  | first :: _ =>
    if !opens first then none
    else
      let target := text.takeWhile fun c => c != '=' && c != '['
      match text.dropWhile fun c => c != '=' && c != '[' with
      | [] =>
        match Threshold.parse? text with
        | some threshold => some (some ⟨none, threshold⟩)
        | none => some (some ⟨some (String.ofList text), .upTo .trace⟩)
      | '[' :: _ => some none
      -- the character that ended the target is an equals sign
      | _ :: level =>
        let threshold? := if level = [] then some (.upTo .trace) else Threshold.parse? level
        if text.head? = some first then
          threshold?.map fun threshold => some ⟨some (String.ofList target), threshold⟩
        else none

end Directive

/-- A filter: directives, the later ones replacing earlier ones for the same target. -/
structure Filter where
  /-- The directives in the order in which they were given. -/
  directives : List Directive
deriving DecidableEq, Repr

namespace Filter

/-- The more specific of two directives, the later one if they are equally specific. -/
def prefer (earlier : Option Directive) (later : Directive) : Option Directive :=
  match earlier with
  | none => some later
  | some directive => if directive.specificity ≤ later.specificity then some later else earlier

/-- The directive that decides on a target. -/
def deciding? (filter : Filter) (target : String) : Option Directive :=
  (filter.directives.filter (·.covers target)).foldl prefer none

/-- Whether records of a target and a severity pass. -/
def allows (filter : Filter) (target : String) (severity : Severity) : Bool :=
  match filter.deciding? target with
  | none => false
  | some directive => directive.threshold.allows severity

/-- The records that pass a filter. -/
def select (filter : Filter) (records : List Record) : List Record :=
  records.filter fun record => filter.allows record.source.target record.severity

/-- The filter of a debug level: warnings from everywhere, and the host's own records. -/
def ofLevel (level : DebugLevel) : Filter where
  directives :=
    [⟨some "discon_wrapper", .upTo level.severity⟩, ⟨none, .upTo .warn⟩]

/-- The pieces of a text between commas. -/
def pieces : List Char → List (List Char)
  | [] => [[]]
  | c :: rest =>
    if c = ',' then [] :: pieces rest
    else match pieces rest with
      | [] => [[c]]
      | piece :: others => (c :: piece) :: others

/-- The filter that a text spells. Empty pieces do not count, and a piece that is no directive
makes the whole text void. -/
def parse? (text : String) : Option Filter :=
  (((pieces text.toList).filter (· ≠ [])).mapM Directive.parse?).map fun directives =>
    ⟨directives.filterMap id⟩

/-- The filter that the environment spells, or else the one of the debug level. -/
def choose (environment : Option String) (level : DebugLevel) : Filter :=
  (environment.bind parse?).getD (ofLevel level)

/-- The spelling of a filter. -/
def text (filter : Filter) : String := ",".intercalate (filter.directives.map Directive.text)

end Filter

end ControllerHost.Log
