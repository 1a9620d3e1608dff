import ControllerHost.Yaml.Layout

/-!
# Events

A document is a tree, and its events are the tree's nodes in the order of the text. What may come
next is kept on an agenda: the innermost expectation first.

- `Yaml.Event`: the events.
- `Yaml.Expectation`, `Yaml.advance?`: what may come next, and the event and agenda that the next
  tokens lead to.
- `Yaml.events`: the events of a text's documents, and whether it keeps the rules to the end.
-/

namespace ControllerHost.Yaml

/-- A scalar as an event. -/
structure ScalarEvent where
  /-- Its name. -/
  anchor? : Option (List Char)
  /-- Its tag in full. -/
  tag? : Option (List Char)
  /-- Its text. -/
  text : String
  /-- How it is written. -/
  style : ScalarStyle
deriving DecidableEq, Repr

/-- The nodes of a document in the order of the text. -/
inductive Event where
  /-- A document begins. -/
  | documentStart
  /-- A document ends. -/
  | documentEnd
  /-- The text ends. -/
  | streamEnd
  /-- A reference to a named node. -/
  | alias (name : List Char)
  /-- A scalar. -/
  | scalar (scalar : ScalarEvent)
  /-- A sequence begins, perhaps with a name. -/
  | sequenceStart (anchor? : Option (List Char))
  /-- A sequence ends. -/
  | sequenceEnd
  /-- A mapping begins, perhaps with a name. -/
  | mappingStart (anchor? : Option (List Char))
  /-- A mapping ends. -/
  | mappingEnd
deriving DecidableEq, Repr

/-- What may come next in a text. -/
inductive Expectation where
  /-- The beginning of the text. -/
  | stream
  /-- The first document, which needs no mark, or another one. -/
  | document (first : Bool)
  /-- What a marked document holds. -/
  | content
  /-- The end of a document. -/
  | documentEnd
  /-- A node, indented or in brackets; an item without further indentation may begin it. -/
  | node (block outdented : Bool)
  /-- An item of an indented sequence. -/
  | blockItem
  /-- An item of a sequence that is no further in than the mapping around it. -/
  | outdentedItem
  /-- A key of an indented mapping. -/
  | blockKey
  /-- A value of an indented mapping. -/
  | blockValue
  /-- An item of a sequence in brackets. -/
  | flowItem (first : Bool)
  /-- The key of a mapping that is an item of a sequence in brackets. -/
  | pairKey
  /-- The value of such a mapping. -/
  | pairValue
  /-- The end of such a mapping. -/
  | pairEnd
  /-- A key of a mapping in brackets. -/
  | flowKey (first : Bool)
  /-- A value of a mapping in brackets, if it can have one. -/
  | flowValue (absent : Bool)
deriving DecidableEq, Repr

/-- The meanings of tag shorthands. -/
abbrev Shorthands := List (List Char × List Char)

/-- The shorthands that every document has. -/
def defaultShorthands : Shorthands :=
  [(['!'], ['!']), (['!', '!'], "tag:yaml.org,2002:".toList)]

/-- What may come next, and what the text has defined so far. -/
structure Agenda where
  /-- What may come next, the innermost first. -/
  expectations : List Expectation
  /-- The shorthands of the present document. -/
  shorthands : Shorthands := []

/-- A step in a text: an event, what may come next, and the tokens that are left. -/
structure Step where
  /-- The event. -/
  event : Event
  /-- What may come next. -/
  agenda : Agenda
  /-- The tokens that are left. -/
  tokens : List Token

/-- A scalar that is not written at all. -/
def emptyScalar (anchor? tag? : Option (List Char)) : Event :=
  .scalar ⟨anchor?, tag?, "", .plain⟩

/-- The name and the tag in front of a node, in either order, and the tokens after them. -/
def properties : List Token → Option (List Char) × Option (List Char × List Char) × List Token
  | .anchor name :: .tag handle rest :: tokens => (some name, some (handle, rest), tokens)
  | .tag handle rest :: .anchor name :: tokens => (some name, some (handle, rest), tokens)
  | .anchor name :: tokens => (some name, none, tokens)
  | .tag handle rest :: tokens => (none, some (handle, rest), tokens)
  | tokens => (none, none, tokens)

/-- A tag in full. The inner `none` is the absence of a tag, the outer one an unknown shorthand. -/
def resolveTag? (shorthands : Shorthands) :
    Option (List Char × List Char) → Option (Option (List Char))
  | none => some none
  | some (handle, rest) =>
    if handle = [] then some (some rest)
    else (shorthands.lookup handle).map fun meaning => some (meaning ++ rest)

/-- The directives in front of a document: the shorthands that they define, whether one asked for a
version, and the tokens after them. -/
def directives? : Bool → Shorthands → List Token → Option (Shorthands × List Token)
  | versioned, shorthands, .version major minor :: tokens =>
    if versioned || major ≠ 1 || (minor ≠ 1 && minor ≠ 2) then none
    else directives? true shorthands tokens
  | versioned, shorthands, .tagShorthand handle meaning :: tokens =>
    if (shorthands.lookup handle).isSome then none
    else directives? versioned (shorthands ++ [(handle, meaning)]) tokens
  | _, _, [] => none
  | _, shorthands, tokens => some (shorthands ++ defaultShorthands, tokens)

/-- The event of a node, and what may come next. -/
def node? (agenda : Agenda) (rest : List Expectation) (block outdented : Bool)
    (tokens : List Token) : Option Step :=
  let next (expectations : List Expectation) (event : Event) (tokens : List Token) : Option Step :=
    some ⟨event, { agenda with expectations }, tokens⟩
  match tokens with
  | .alias name :: tokens => next rest (.alias name) tokens
  | _ => do
    let (anchor?, tagParts?, tokens) := properties tokens
    let tag? ← resolveTag? agenda.shorthands tagParts?
    match tokens with
    | [] => none
    | token :: after =>
      match token with
      | .blockEntry =>
        if outdented then next (.outdentedItem :: rest) (.sequenceStart anchor?) tokens
        else if anchor?.isSome || tag?.isSome then next rest (emptyScalar anchor? tag?) tokens
        else none
      | .scalar text style =>
        -- a lone exclamation mark leaves the choice of a tag open
        let tag? := if tag? = some ['!'] then none else tag?
        next rest (.scalar ⟨anchor?, tag?, text, style⟩) after
      | .flowSequenceStart => next (.flowItem true :: rest) (.sequenceStart anchor?) after
      | .flowMappingStart => next (.flowKey true :: rest) (.mappingStart anchor?) after
      | _ =>
        if block && token = .blockSequenceStart then
          next (.blockItem :: rest) (.sequenceStart anchor?) after
        else if block && token = .blockMappingStart then
          next (.blockKey :: rest) (.mappingStart anchor?) after
        else if anchor?.isSome || tag?.isSome then next rest (emptyScalar anchor? tag?) tokens
        else none

/-- The next event of a text, unless the next tokens are not among those that may come. -/
def advance? (agenda : Agenda) (tokens : List Token) : Option Step :=
  let next (expectations : List Expectation) (event : Event) (tokens : List Token) : Option Step :=
    some ⟨event, { agenda with expectations }, tokens⟩
  let nothing := emptyScalar none none
  match agenda.expectations, tokens with
  | [], _ | _, [] => none
  | .stream :: _, _ => none
  | .document first :: rest, tokens =>
    let tokens := if first then tokens else tokens.dropWhile (· = .documentEnd)
    match tokens with
    | [] => none
    | .streamEnd :: tokens => next [] .streamEnd tokens
    | token :: _ =>
      let marked := match token with
        | .version .. | .tagShorthand .. | .documentStart => true
        | _ => false
      if first && !marked then
        some ⟨.documentStart, ⟨.node true false :: .documentEnd :: rest, defaultShorthands⟩, tokens⟩
      else
        match directives? false [] tokens with
        | some (shorthands, .documentStart :: tokens) =>
          some ⟨.documentStart, ⟨.content :: .documentEnd :: rest, shorthands⟩, tokens⟩
        | _ => none
  | .content :: rest, token :: _ =>
    match token with
    | .version .. | .tagShorthand .. | .documentStart | .documentEnd | .streamEnd =>
      next rest nothing tokens
    | _ => node? agenda rest true false tokens
  | .documentEnd :: rest, token :: after =>
    next (.document false :: rest) .documentEnd
      (if token = .documentEnd then after else tokens)
  | .node block outdented :: rest, _ => node? agenda rest block outdented tokens
  | .blockItem :: rest, token :: after =>
    match token with
    | .blockEntry =>
      match after with
      | [] => none
      | .blockEntry :: _ | .blockEnd :: _ => next (.blockItem :: rest) nothing after
      | _ => node? agenda (.blockItem :: rest) true false after
    | .blockEnd => next rest .sequenceEnd after
    | _ => none
  | .outdentedItem :: rest, token :: after =>
    match token with
    | .blockEntry =>
      match after with
      | [] => none
      | .blockEntry :: _ | .key :: _ | .value :: _ | .blockEnd :: _ =>
        next (.outdentedItem :: rest) nothing after
      | _ => node? agenda (.outdentedItem :: rest) true false after
    | _ => next rest .sequenceEnd tokens
  | .blockKey :: rest, token :: after =>
    match token with
    | .key =>
      match after with
      | [] => none
      | .key :: _ | .value :: _ | .blockEnd :: _ => next (.blockValue :: rest) nothing after
      | _ => node? agenda (.blockValue :: rest) true true after
    | .blockEnd => next rest .mappingEnd after
    | _ => none
  | .blockValue :: rest, token :: after =>
    match token with
    | .value =>
      match after with
      | [] => none
      | .key :: _ | .value :: _ | .blockEnd :: _ => next (.blockKey :: rest) nothing after
      | _ => node? agenda (.blockKey :: rest) true true after
    | _ => next (.blockKey :: rest) nothing tokens
  | .flowItem first :: rest, token :: after =>
    if token = .flowSequenceEnd then next rest .sequenceEnd after
    else if !first && token ≠ .flowEntry then none
    else match if first then tokens else after with
      | [] => none
      | .flowSequenceEnd :: tokens => next rest .sequenceEnd tokens
      | .key :: tokens => next (.pairKey :: .flowItem false :: rest) (.mappingStart none) tokens
      | tokens => node? agenda (.flowItem false :: rest) false false tokens
  | .pairKey :: rest, token :: after =>
    -- A key that is missing takes the mark in its place with it.
    match token with
    | .value | .flowEntry | .flowSequenceEnd => next (.pairValue :: rest) nothing after
    | _ => node? agenda (.pairValue :: rest) false false tokens
  | .pairValue :: rest, token :: after =>
    match token with
    | .value =>
      match after with
      | [] => none
      | .flowEntry :: _ | .flowSequenceEnd :: _ => next (.pairEnd :: rest) nothing after
      | _ => node? agenda (.pairEnd :: rest) false false after
    | _ => next (.pairEnd :: rest) nothing tokens
  | .pairEnd :: rest, _ => next rest .mappingEnd tokens
  | .flowKey first :: rest, token :: after =>
    if token = .flowMappingEnd then next rest .mappingEnd after
    else if !first && token ≠ .flowEntry then none
    else match if first then tokens else after with
      | [] => none
      | .flowMappingEnd :: tokens => next rest .mappingEnd tokens
      | .key :: tokens =>
        match tokens with
        | [] => none
        | .value :: _ | .flowEntry :: _ | .flowMappingEnd :: _ =>
          next (.flowValue false :: rest) nothing tokens
        | _ => node? agenda (.flowValue false :: rest) false false tokens
      | tokens => node? agenda (.flowValue true :: rest) false false tokens
  | .flowValue absent :: rest, token :: after =>
    if absent then next (.flowKey false :: rest) nothing tokens
    else match token with
      | .value =>
        match after with
        | [] => none
        | .flowEntry :: _ | .flowMappingEnd :: _ => next (.flowKey false :: rest) nothing after
        | _ => node? agenda (.flowKey false :: rest) false false after
      | _ => next (.flowKey false :: rest) nothing tokens

/-- The events that an agenda finds in some tokens in a number of steps, and whether the last of
them is the end of the text. -/
def eventsFrom : Nat → Agenda → List Token → List Event × Bool
  | 0, _, _ => ([], false)
  | steps + 1, agenda, tokens =>
    match advance? agenda tokens with
    | none => ([], false)
    | some step =>
      if step.event = .streamEnd then ([.streamEnd], true)
      else
        let (events, complete) := eventsFrom steps step.agenda step.tokens
        (step.event :: events, complete)

/-- The events of a text, and whether it keeps the rules to its end. Every token is good for at most
one event of its own and three that end or fill what is around it. -/
def events (text : String) : List Event × Bool :=
  match (tokens text).1 with
  | .streamStart :: rest => eventsFrom (4 * rest.length + 16) ⟨[.document true], []⟩ rest
  | _ => ([], false)

end ControllerHost.Yaml
