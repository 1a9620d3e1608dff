import ControllerHost.Yaml.Token

/-!
# The layout of a text

Indentation begins and ends collections, and a word turns out to be a key only when a colon follows
it. So tokens wait: one that may still become a key is held back until its line shows whether it
is. A text that breaks the rules has tokens up to the first that was still waiting then.

- `Yaml.Layout`: how far a text has been read, and the tokens that wait.
- `Yaml.Layout.fetch?`: reads the next token.
- `Yaml.Layout.release?`: whether the first waiting token may go.
- `Yaml.tokens`: the tokens of a text, and whether it keeps the rules to the end.
-/

namespace ControllerHost.Yaml

/-- A token that may become a key. -/
structure KeyCandidate where
  /-- Whether it must become one. -/
  required : Bool
  /-- How many tokens come before it. -/
  number : Nat
  /-- Its line. -/
  line : Nat
  /-- Its column. -/
  column : Nat
deriving DecidableEq, Repr

/-- How far a text has been read. -/
structure Layout where
  /-- What has yet to be read. -/
  rest : Rest
  /-- Whether the first token has been read. -/
  started : Bool := false
  /-- The tokens that wait, the first one first. -/
  waiting : List Token := []
  /-- How many tokens have gone. -/
  gone : Nat := 0
  /-- The column of the innermost indented collection, -1 outside all of them. -/
  indent : Int := -1
  /-- The columns of the collections around it, the innermost first. -/
  outer : List Int := []
  /-- Whether a key can begin here. -/
  keyAllowed : Bool := true
  /-- How many brackets are open. -/
  depth : Nat := 0
  /-- The token that may become a key, outside and inside each bracket, the innermost first. -/
  candidates : List (Option KeyCandidate) := [none]

namespace Layout

/-- The number of characters after which a token cannot become a key any more. -/
def keyLimit : Nat := 1024

/-- Whether brackets are open, where indentation does not count. -/
def inBrackets (layout : Layout) : Bool := layout.depth > 0

/-- The token that may become a key at the present depth. -/
def candidate? (layout : Layout) : Option KeyCandidate := (layout.candidates.head?).join

/-- Another candidate at the present depth. -/
def setCandidate (layout : Layout) (candidate? : Option KeyCandidate) : Layout :=
  { layout with candidates := candidate? :: layout.candidates.tail }

/-- One waiting token more. -/
def push (layout : Layout) (token : Token) : Layout :=
  { layout with waiting := layout.waiting ++ [token] }

/-- One waiting token more, in front of the one with a number. -/
def insert (layout : Layout) (number : Nat) (token : Token) : Layout :=
  { layout with waiting := layout.waiting.insertIdx (number - layout.gone) token }

/-- Whether a candidate is out of reach: its line has ended, or it is too long. -/
def isStale (layout : Layout) (candidate : KeyCandidate) : Bool :=
  candidate.line < layout.rest.line
    || (candidate.line == layout.rest.line && candidate.column + keyLimit < layout.rest.column)

/-- Gives up the candidates out of reach, unless one must become a key. -/
def dropStale? (layout : Layout) : Option Layout :=
  let keep (candidate? : Option KeyCandidate) : Option (Option KeyCandidate) :=
    match candidate? with
    | none => some none
    | some candidate =>
      if !layout.isStale candidate then some (some candidate)
      else if candidate.required then none
      else some none
  (layout.candidates.mapM keep).map fun candidates => { layout with candidates }

/-- Gives up the candidate at the present depth, unless it must become a key. -/
def dropCandidate? (layout : Layout) : Option Layout :=
  match layout.candidate? with
  | some candidate => if candidate.required then none else some (layout.setCandidate none)
  | none => some layout

/-- Makes the next token a candidate, if a key can begin here. -/
def markCandidate? (layout : Layout) : Option Layout :=
  if layout.keyAllowed then
    layout.dropCandidate?.map fun layout =>
      layout.setCandidate (some {
        required := !layout.inBrackets && layout.indent == layout.rest.column
        number := layout.gone + layout.waiting.length
        line := layout.rest.line
        column := layout.rest.column })
  else some layout

/-- Begins an indented collection at a column, if that is further in. The token that says so goes
to the end, or in front of the one with a number. -/
def enter (layout : Layout) (column : Nat) (number? : Option Nat) (token : Token) : Layout :=
  if layout.inBrackets || column ≤ layout.indent then layout
  else
    let layout := { layout with outer := layout.indent :: layout.outer, indent := column }
    match number? with
    | none => layout.push token
    | some number => layout.insert number token

/-- Ends the indented collections given, the innermost first, that are further in than a column. -/
def leaveAll (column : Int) : List Int → Layout → Layout
  | [], layout => layout
  | outer :: others, layout =>
    if layout.indent > column then
      leaveAll column others ({ layout with indent := outer, outer := others }.push .blockEnd)
    else layout

/-- Ends the indented collections that are further in than a column. -/
def leave (layout : Layout) (column : Int) : Layout :=
  if layout.inBrackets then layout else leaveAll column layout.outer layout

/-- What comes after blanks, comments and line ends. A tab is no indentation. The first result tells
whether a key can begin there. -/
def skipSpace (inBrackets : Bool) : (keyAllowed inComment : Bool) → Rest → Bool × Rest
  | keyAllowed, _, [] => (keyAllowed, [])
  | keyAllowed, inComment, cell :: after =>
    -- a line end also ends a comment, and outside brackets a key can follow it
    if isBreak cell.char then skipSpace inBrackets (keyAllowed || !inBrackets) false after
    else if cell.char = endOfText then (keyAllowed, cell :: after)
    else if inComment then skipSpace inBrackets keyAllowed true after
    else if cell.char = '#' then skipSpace inBrackets keyAllowed true after
    else if cell.char = ' ' || (cell.char = '\t' && (inBrackets || !keyAllowed))
        || (cell.char = orderMark && cell.column = 0) then
      skipSpace inBrackets keyAllowed false after
    else (keyAllowed, cell :: after)

/-- A single mark. -/
def takeMark (layout : Layout) (token : Token) : Layout :=
  { layout with rest := layout.rest.skip 1 }.push token

/-- The end of the text, which ends its last line too. -/
def fetchEnd? (layout : Layout) : Option Layout := do
  -- nothing is indented any more, so every indented collection ends
  let line := if layout.rest.column = 0 then layout.rest.line else layout.rest.line + 1
  let layout ← ({ layout with rest := [⟨endOfText, line, 0⟩] }.leave (-1)).dropCandidate?
  some ({ layout with keyAllowed := false }.push .streamEnd)

/-- A directive. -/
def fetchDirective? (layout : Layout) : Option Layout := do
  let layout ← (layout.leave (-1)).dropCandidate?
  let (token, rest) ← directive? (layout.rest.skip 1)
  some ({ layout with rest, keyAllowed := false }.push token)

/-- Three dashes or dots. -/
def fetchDocumentMark? (layout : Layout) : Option Layout := do
  let token := if layout.rest.next = '-' then Token.documentStart else .documentEnd
  let layout ← (layout.leave (-1)).dropCandidate?
  some ({ layout with rest := layout.rest.skip 3, keyAllowed := false }.push token)

/-- An opening bracket, which may itself begin a key. -/
def fetchOpening? (layout : Layout) (token : Token) : Option Layout := do
  let layout ← layout.markCandidate?
  some ({ layout with
    candidates := none :: layout.candidates
    depth := layout.depth + 1
    keyAllowed := true }.takeMark token)

/-- A closing bracket. -/
def fetchClosing? (layout : Layout) (token : Token) : Option Layout := do
  let layout ← layout.dropCandidate?
  let candidates := if layout.inBrackets then layout.candidates.tail else layout.candidates
  some ({ layout with candidates, depth := layout.depth - 1, keyAllowed := false }.takeMark token)

/-- A comma. -/
def fetchComma? (layout : Layout) : Option Layout := do
  let layout ← layout.dropCandidate?
  some ({ layout with keyAllowed := true }.takeMark .flowEntry)

/-- A dash before an item. -/
def fetchDash? (layout : Layout) : Option Layout := do
  if !layout.inBrackets && !layout.keyAllowed then none
  else
    let layout ←
      (layout.enter layout.rest.column none .blockSequenceStart).dropCandidate?
    some ({ layout with keyAllowed := true }.takeMark .blockEntry)

/-- A question mark before a key. -/
def fetchQuestion? (layout : Layout) : Option Layout := do
  if !layout.inBrackets && !layout.keyAllowed then none
  else
    let layout ←
      (layout.enter layout.rest.column none .blockMappingStart).dropCandidate?
    some ({ layout with keyAllowed := !layout.inBrackets }.takeMark .key)

/-- A colon before a value. It makes the candidate a key. -/
def fetchColon? (layout : Layout) : Option Layout :=
  match layout.candidate? with
  | some candidate =>
    -- the marks go in front of the candidate, behind which other tokens may wait
    let layout := layout.insert candidate.number .key
    let layout :=
      (layout.enter candidate.column (some candidate.number) .blockMappingStart).setCandidate none
    some ({ layout with keyAllowed := false }.takeMark .value)
  | none =>
    if !layout.inBrackets && !layout.keyAllowed then none
    else
      let layout := layout.enter layout.rest.column none .blockMappingStart
      some ({ layout with keyAllowed := !layout.inBrackets }.takeMark .value)

/-- A token that may become a key: what reads it, given the text from its first character on. -/
def fetchWord? (layout : Layout) (read : Rest → Option (Token × Rest)) : Option Layout := do
  let layout ← layout.markCandidate?
  let (token, rest) ← read layout.rest
  some ({ layout with rest, keyAllowed := false }.push token)

/-- A block scalar, which cannot become a key. -/
def fetchBlock? (layout : Layout) (literal : Bool) : Option Layout := do
  let layout ← layout.dropCandidate?
  let (text, rest) ← Block.scan? literal layout.indent (layout.rest.skip 1)
  some ({ layout with rest, keyAllowed := true }.push
    (.scalar text (if literal then .literal else .folded)))

/-- A plain scalar. After one that ends with its line a key can begin. -/
def fetchPlain? (layout : Layout) : Option Layout := do
  let layout ← layout.markCandidate?
  let result ← Plain.scan layout.inBrackets (layout.indent + 1) layout.rest
  some ({ layout with rest := result.rest, keyAllowed := result.lineEnded }.push
    (.scalar result.text .plain))

/-- A quoted scalar. -/
def readQuoted (quote : Char) (style : ScalarStyle) (rest : Rest) : Option (Token × Rest) :=
  (Quoted.scan quote (rest.skip 1)).map fun (text, rest) => (.scalar text style, rest)

/-- Whether a plain scalar can begin here. -/
def beginsPlain (inBrackets : Bool) (rest : Rest) : Bool :=
  let c := rest.next
  !(isGap c || "-?:,[]{}#&*!|>\x27\"%@\x60".toList.contains c)
    || (c == '-' && !isBlank (rest.peek 1))
    || (!inBrackets && (c == '?' || c == ':') && !isGap (rest.peek 1))

/-- The token at the front of what is left. -/
def fetchHere? (layout : Layout) : Option Layout :=
  let rest := layout.rest
  -- what depends on the column goes before what depends on the character alone
  let standsAlone := isGap (rest.peek 1)
  if rest.next = endOfText then layout.fetchEnd?
  else if rest.column = 0 && rest.next = '%' then layout.fetchDirective?
  else if rest.atDocumentMark then layout.fetchDocumentMark?
  else match rest.next with
    | '[' => layout.fetchOpening? .flowSequenceStart
    | '{' => layout.fetchOpening? .flowMappingStart
    | ']' => layout.fetchClosing? .flowSequenceEnd
    | '}' => layout.fetchClosing? .flowMappingEnd
    | ',' => layout.fetchComma?
    | '*' => layout.fetchWord? fun rest =>
      (anchorName? (rest.skip 1)).map fun (name, rest) => (.alias name, rest)
    | '&' => layout.fetchWord? fun rest =>
      (anchorName? (rest.skip 1)).map fun (name, rest) => (.anchor name, rest)
    | '!' => layout.fetchWord? (tag? layout.inBrackets)
    | '\x27' => layout.fetchWord? (readQuoted '\x27' .singleQuoted)
    | '"' => layout.fetchWord? (readQuoted '"' .doubleQuoted)
    | c =>
      if c = '-' && standsAlone then layout.fetchDash?
      else if c = '?' && (layout.inBrackets || standsAlone) then layout.fetchQuestion?
      else if c = ':' && (layout.inBrackets || standsAlone) then layout.fetchColon?
      else if c = '|' && !layout.inBrackets then layout.fetchBlock? true
      else if c = '>' && !layout.inBrackets then layout.fetchBlock? false
      else if beginsPlain layout.inBrackets rest then layout.fetchPlain?
      else none

/-- Reads the next token, with the marks that come with it. -/
def fetch? (layout : Layout) : Option Layout :=
  if !layout.started then some ({ layout with started := true }.push .streamStart)
  else do
    let (keyAllowed, rest) := skipSpace layout.inBrackets layout.keyAllowed false layout.rest
    let layout ← { layout with keyAllowed, rest }.dropStale?
    (layout.leave layout.rest.column).fetchHere?

/-- Whether the first waiting token may still become a key. -/
def isFirstUndecided (layout : Layout) : Bool :=
  layout.candidates.any fun candidate? =>
    match candidate? with
    | some candidate => candidate.number == layout.gone
    | none => false

/-- Lets the first waiting token go, if there is one and it is decided what it is. -/
def release? (layout : Layout) : Option (Token × Layout) :=
  if layout.isFirstUndecided then none
  else match layout.waiting with
    | [] => none
    | token :: waiting => some (token, { layout with waiting, gone := layout.gone + 1 })

/-- The tokens that come from a layout in a number of steps, and whether the text keeps the rules
to its end. -/
def run : Nat → Layout → List Token × Bool
  | 0, _ => ([], false)
  | steps + 1, layout =>
    -- a waiting token goes as soon as no key mark can come in front of it
    let checked? := if layout.waiting = [] then some layout else layout.dropStale?
    match checked? with
    | none => ([], false)
    | some layout =>
      match layout.release? with
      | some (token, layout) =>
        if token = .streamEnd then ([token], true)
        else
          let (tokens, complete) := run steps layout
          (token :: tokens, complete)
      | none =>
        match layout.fetch? with
        | none => ([], false)
        | some layout => run steps layout

end Layout

/-- The tokens of a text, and whether it keeps the rules to its end. Every character is good for at
most one token of its own and three that its place in the layout adds. -/
def tokens (text : String) : List Token × Bool :=
  match cells? text with
  | none => ([], false)
  | some rest => Layout.run (8 * rest.length + 16) { rest }

end ControllerHost.Yaml
