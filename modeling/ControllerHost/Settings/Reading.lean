import ControllerHost.Settings.Basic
import ControllerHost.Yaml.Event
import ControllerHost.Yaml.PlainValue

/-!
# Reading settings

A settings file holds one document: a mapping from the settings' names to their values, or nothing.
Names that are no settings are passed over with their values; a setting that is missing keeps its
default.

- `Settings.ReadingFault`: why a text holds no settings.
- `Settings.Document`: a text's first document, in which references lead to nodes.
- `Settings.parse`: the settings that a text holds.
-/

namespace ControllerHost.Settings

open Yaml

/-- Why a text holds no settings. -/
inductive ReadingFault where
  /-- It is no document of the right form. -/
  | malformed
  /-- It asks for a debug level that there is not. -/
  | unknownDebugLevel (number : Nat)
deriving DecidableEq, Repr

/-- A node of a document in which every reference leads somewhere. -/
inductive Node where
  /-- A reference to the node that was given a number. -/
  | reference (number : Nat)
  /-- A scalar. -/
  | scalar (scalar : ScalarEvent)
  /-- A collection begins. -/
  | opening (isMapping : Bool)
  /-- A collection ends. -/
  | closing (isMapping : Bool)
deriving DecidableEq, Repr

/-- A text's first document. -/
structure Document where
  /-- Its nodes in the order of the text, as far as the text keeps the rules. -/
  nodes : List Node := []
  /-- The numbers of the names in the document. -/
  names : List (List Char × Nat) := []
  /-- Where the numbered nodes are. -/
  places : List (Nat × Nat) := []
  /-- Whether the document and the text end as they should. -/
  complete : Bool := false

namespace Document

/-- A document with one node more. -/
def push (document : Document) (node : Node) : Document :=
  { document with nodes := document.nodes ++ [node] }

/-- A document in which the next node is named. Its number is the number of names there were before,
even if the name is not new. -/
def label (document : Document) : Option (List Char) → Document
  | none => document
  | some name =>
    let number := document.names.length
    { document with
      names := (name, number) :: document.names.filter fun entry => entry.1 ≠ name
      places := (number, document.nodes.length) :: document.places }

/-- The document that some events go on with. -/
def collect : Document → List Yaml.Event → Document
  | document, [] => document
  | document, .documentStart :: events => collect document events
  | document, .documentEnd :: events => { document with complete := events = [.streamEnd] }
  | document, .streamEnd :: _ => { document with complete := true }
  | document, .alias name :: events =>
    match document.names.lookup name with
    | some number => collect (document.push (.reference number)) events
    | none => document
  | document, .scalar scalar :: events =>
    collect ((document.label scalar.anchor?).push (.scalar scalar)) events
  | document, .sequenceStart anchor? :: events =>
    collect ((document.label anchor?).push (.opening false)) events
  | document, .mappingStart anchor? :: events =>
    collect ((document.label anchor?).push (.opening true)) events
  | document, .sequenceEnd :: events => collect (document.push (.closing false)) events
  | document, .mappingEnd :: events => collect (document.push (.closing true)) events

/-- The first document of a text. -/
def ofText (text : String) : Document := collect {} (events text).1

/-- The scalar that a node is or leads to. -/
def scalar? (document : Document) : Node → Option ScalarEvent
  | .scalar scalar => some scalar
  | .reference number =>
    match (document.places.lookup number).bind fun place => document.nodes[place]? with
    | some (.scalar scalar) => some scalar
    | _ => none
  | _ => none

end Document

/-- The full form of one of the tags that every document knows. -/
def standardTag (name : String) : List Char := ("tag:yaml.org,2002:" ++ name).toList

/-- Whether a scalar can stand for a value of a kind: plain, or a block with the kind's tag. -/
def standsFor (kind : String) (scalar : ScalarEvent) : Bool :=
  match scalar.style with
  | .plain => true
  | .literal => scalar.tag? = some (standardTag kind)
  | _ => false

/-- The number that a scalar stands for. -/
def number? (scalar : ScalarEvent) : Option Nat :=
  if standsFor "int" scalar then PlainValue.unsigned? (Nat.pow 2 64) scalar.text.toList else none

/-- The truth value that a scalar stands for. -/
def bool? (scalar : ScalarEvent) : Option Bool :=
  if standsFor "bool" scalar then PlainValue.bool? scalar.text else none

/-- The path, or the absence of one, that a scalar stands for. -/
def path? (scalar : ScalarEvent) : Option (Option Path) :=
  let given := some (some (Path.ofText scalar.text))
  if scalar.style ≠ .plain then given
  else match scalar.tag? with
    | some tag =>
      if tag ≠ standardTag "null" then given
      else if PlainValue.isNull scalar.text then some none
      else none
    | none => if scalar.text = "" || PlainValue.isNull scalar.text then some none else given

/-- The settings that have been read so far. -/
structure Draft where
  /-- The number of connections. -/
  maxConnections? : Option Nat := none
  /-- Whether libraries are copied. -/
  isolateInstances? : Option Bool := none
  /-- Where copies go. -/
  copyDir? : Option (Option Path) := none
  /-- Whether the loader is used by one connection at a time. -/
  serializeLoader? : Option Bool := none
  /-- How much is logged. -/
  debugLevel? : Option Log.DebugLevel := none

/-- The settings of a draft, with defaults for those that are missing. -/
def Draft.finish (draft : Draft) : Settings :=
  let default : Settings := {}
  { maxConnections := draft.maxConnections?.getD default.maxConnections
    isolateInstances := draft.isolateInstances?.getD default.isolateInstances
    copyDir? := draft.copyDir?.getD default.copyDir?
    serializeLoader := draft.serializeLoader?.getD default.serializeLoader
    debugLevel := draft.debugLevel?.getD default.debugLevel }

/-- A debug level by its number, of which a byte must hold the number. -/
def levelOf (number? : Option Nat) : Except ReadingFault Log.DebugLevel :=
  match number? with
  | none => .error .malformed
  | some number =>
    if number ≥ 256 then .error .malformed
    else match Log.DebugLevel.ofNumber? number with
      | some level => .ok level
      | none => .error (.unknownDebugLevel number)

/-- A value that must be there. -/
def require {α : Type} : Option α → Except ReadingFault α
  | some value => .ok value
  | none => .error .malformed

/-- Whether a name is that of a setting that a draft has already. -/
def Draft.has (draft : Draft) : String → Bool
  | "max_connections" => draft.maxConnections?.isSome
  | "isolate_instances" => draft.isolateInstances?.isSome
  | "copy_dir" => draft.copyDir?.isSome
  | "serialize_loader" => draft.serializeLoader?.isSome
  | "debug_level" => draft.debugLevel?.isSome
  | _ => false

/-- Whether a name is that of a setting. -/
def isSetting (name : String) : Bool :=
  ["max_connections", "isolate_instances", "copy_dir", "serialize_loader", "debug_level"].contains
    name

/-- A draft with one setting more. -/
def Draft.set (draft : Draft) (name : String) (scalar : ScalarEvent) :
    Except ReadingFault Draft :=
  match name with
  | "max_connections" => do
    let number ← require (number? scalar)
    .ok { draft with maxConnections? := some number }
  | "isolate_instances" => do
    let value ← require (Settings.bool? scalar)
    .ok { draft with isolateInstances? := some value }
  | "copy_dir" => do
    let path ← require (Settings.path? scalar)
    .ok { draft with copyDir? := some path }
  | "serialize_loader" => do
    let value ← require (Settings.bool? scalar)
    .ok { draft with serializeLoader? := some value }
  | "debug_level" => do
    let level ← levelOf (number? scalar)
    .ok { draft with debugLevel? := some level }
  | _ => .error .malformed

/-- What comes after a whole value, given how many collections around it are open. -/
def skipValue : Nat → List Node → Option (List Node)
  | _, [] => none
  | depth, .opening _ :: rest => skipValue (depth + 1) rest
  | depth, .closing _ :: rest => if depth ≤ 1 then some rest else skipValue (depth - 1) rest
  | depth, _ :: rest => if depth = 0 then some rest else skipValue depth rest

/-- Reads the settings in the rest of a mapping in a number of steps. -/
def readFields (document : Document) : Nat → Draft → List Node → Except ReadingFault Draft
  | 0, _, _ => .error .malformed
  | _ + 1, _, [] => .error .malformed
  | _ + 1, draft, .closing _ :: _ => .ok draft
  | steps + 1, draft, key :: rest => do
    let key ← require (document.scalar? key)
    if isSetting key.text then
      -- a setting may be given once, while names that are none may come again
      if draft.has key.text then .error .malformed
      else match rest with
        | [] => .error .malformed
        | value :: rest =>
          let scalar ← require (document.scalar? value)
          readFields document steps (← draft.set key.text scalar) rest
    else readFields document steps draft (← require (skipValue 0 rest))

/-- The settings that a document's nodes hold, whatever comes after them. -/
def readRoot (document : Document) : Except ReadingFault Settings :=
  match document.nodes with
  -- a text without a document, and one that holds nothing, leave all defaults
  | [] => if document.complete then .ok {} else .error .malformed
  | .scalar scalar :: _ =>
    if scalar.text = "" && scalar.style = .plain then .ok {} else .error .malformed
  | .opening true :: rest => (readFields document rest.length {} rest).map Draft.finish
  | _ => .error .malformed

/-- The settings that a text holds. -/
def parse (text : String) : Except ReadingFault Settings := do
  let document := Document.ofText text
  let settings ← readRoot document
  if document.complete then .ok settings else .error .malformed

end ControllerHost.Settings
