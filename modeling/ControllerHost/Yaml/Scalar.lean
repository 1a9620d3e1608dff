import ControllerHost.Text.Numeral
import ControllerHost.Yaml.Cell

/-!
# Scalars

A scalar is a text that is written plainly, between quotes, or as an indented block. Plain and
quoted scalars can go on over several lines: a single line end then reads as a space, and of several
all but the first are kept.

- `Yaml.ScalarStyle`: the five ways of writing a scalar.
- `Yaml.Gap`: the blanks and line ends that have been read and not yet used.
- `Yaml.Plain.scan`, `Yaml.Quoted.scan`, `Yaml.Block.scan?`: one character at a time, the scalar at
  the front of a text and what comes after it.
-/

namespace ControllerHost.Yaml

/-- The ways of writing a scalar. -/
inductive ScalarStyle where
  /-- Without any mark. -/
  | plain
  /-- Between single quotes. -/
  | singleQuoted
  /-- Between double quotes. -/
  | doubleQuoted
  /-- As a block whose line ends are kept. -/
  | literal
  /-- As a block whose line ends read as spaces. -/
  | folded
deriving DecidableEq, Repr

/-- What stands between two words of a scalar. -/
inductive Gap where
  /-- Nothing. -/
  | none
  /-- Blanks on one line. -/
  | blanks (blanks : List Char)
  /-- Line ends: the first one, unless it was escaped, and the others. -/
  | lines (first : Option Char) (others : List Char)
deriving DecidableEq, Repr

namespace Gap

/-- A gap after one blank more. Blanks around line ends do not count. -/
def addBlank (c : Char) : Gap → Gap
  | none => blanks [c]
  | blanks before => blanks (before ++ [c])
  | lines first others => lines first others

/-- A gap after one line end more. -/
def addBreak (c : Char) : Gap → Gap
  | none | blanks _ => lines (some c) []
  | lines first others => lines first (others ++ [c])

/-- What a gap reads as. -/
def text : Gap → List Char
  | none => []
  | blanks before => before
  | lines (some first) others =>
    if first = '\n' then (if others = [] then [' '] else others) else first :: others
  | lines Option.none others => others

/-- Whether a gap holds a line end. -/
def isMultiline : Gap → Bool
  | lines _ _ => true
  | none | blanks _ => false

end Gap

namespace Plain

/-- A plain scalar that has been read. -/
structure Result where
  /-- The scalar. -/
  text : String
  /-- Whether a line has ended after it. -/
  lineEnded : Bool
  /-- What comes after it. -/
  rest : Rest

/-- The characters that separate the items of a collection in brackets. -/
def isBracketMark (c : Char) : Bool :=
  c == ',' || c == '[' || c == ']' || c == '{' || c == '}'

/-- Whether a plain scalar ends before the next character. -/
def ends (inBrackets : Bool) (rest : Rest) : Bool :=
  (rest.next == ':' && isGap (rest.peek 1)) || (inBrackets && isBracketMark rest.next)

/-- Whether a colon stands where it can neither end a plain scalar nor be part of it. -/
def isColonMisplaced (inBrackets : Bool) (rest : Rest) : Bool :=
  inBrackets && rest.next == ':' && (isBracketMark (rest.peek 1) || rest.peek 1 == '?')

/-- Whether a plain scalar cannot go on after a gap: its line is not indented enough, a document
ends, or a comment begins. -/
def stops (inBrackets : Bool) (indent : Int) (rest : Rest) : Bool :=
  (!inBrackets && rest.column < indent) || rest.atDocumentMark || rest.next == '#'

/-- Reads on in a plain scalar, given the gap before the next character and the characters before
that, the last one first. -/
def scanFrom (inBrackets : Bool) (indent : Int) : Gap → List Char → Rest → Option Result
  | gap, text, [] => some ⟨String.ofList text.reverse, gap.isMultiline, []⟩
  | gap, text, cell :: after =>
    let rest : Rest := cell :: after
    if isBlank cell.char then
      -- a tab cannot stand where the indentation should
      if gap.isMultiline && cell.char == '\t' && rest.column < indent then none
      else scanFrom inBrackets indent (gap.addBlank cell.char) text after
    else if isBreak cell.char then
      scanFrom inBrackets indent (gap.addBreak cell.char) text after
    else if cell.char = endOfText || (gap ≠ .none && stops inBrackets indent rest) then
      some ⟨String.ofList text.reverse, gap.isMultiline, rest⟩
    else if isColonMisplaced inBrackets rest then none
    else if ends inBrackets rest then
      some ⟨String.ofList text.reverse, gap.isMultiline, rest⟩
    -- a gap belongs to the scalar only now that more of it follows
    else scanFrom inBrackets indent .none (cell.char :: (gap.text.reverse ++ text)) after

/-- The plain scalar at the front of a text. Outside brackets its lines must reach a column. -/
def scan (inBrackets : Bool) (indent : Int) (rest : Rest) : Option Result :=
  scanFrom inBrackets indent .none [] rest

end Plain

namespace Quoted

/-- What a reader of a quoted scalar expects next. -/
inductive Mode where
  /-- More of the text. -/
  | inside (gap : Gap)
  /-- The second of two quotes, which stand for one. -/
  | doubled
  /-- What a backslash escapes. -/
  | escaped
  /-- Digits of a character's number. -/
  | digits (left value : Nat)

/-- The character that a backslash and a letter stand for. -/
def escape? : Char → Option Char
  | '0' => some '\x00'
  | 'a' => some '\x07'
  | 'b' => some '\x08'
  | 't' | '\t' => some '\t'
  | 'n' => some '\n'
  | 'v' => some '\x0B'
  | 'f' => some '\x0C'
  | 'r' => some '\r'
  | 'e' => some '\x1B'
  | ' ' => some ' '
  | '"' => some '"'
  | '/' => some '/'
  | '\\' => some '\\'
  | 'N' => some '\u0085'
  | '_' => some '\u00A0'
  | 'L' => some '\u2028'
  | 'P' => some '\u2029'
  | _ => none

/-- The number of digits that an escaped letter announces. -/
def digitCount? : Char → Option Nat
  | 'x' => some 2
  | 'u' => some 4
  | 'U' => some 8
  | _ => none

/-- The character with a number, if there is one. -/
def charOf? (value : Nat) : Option Char :=
  if h : value.isValidChar then some (Char.ofNatAux value h) else none

/-- Reads on in a quoted scalar, given the characters before, the last one first. -/
def scanFrom (quote : Char) : Mode → List Char → Rest → Option (String × Rest)
  | _, _, [] => none
  | .inside gap, text, cell :: after =>
    if isBlank cell.char then scanFrom quote (.inside (gap.addBlank cell.char)) text after
    else if isBreak cell.char then scanFrom quote (.inside (gap.addBreak cell.char)) text after
    else
      let text := gap.text.reverse ++ text
      if cell.char = endOfText || Rest.atDocumentMark (cell :: after) then none
      else if cell.char = quote then
        if quote = '\x27' && Rest.next after = quote then
          scanFrom quote .doubled (quote :: text) after
        else some (String.ofList text.reverse, after)
      else if cell.char = '\\' && quote = '"' then scanFrom quote .escaped text after
      else scanFrom quote (.inside .none) (cell.char :: text) after
  | .doubled, text, _ :: after => scanFrom quote (.inside .none) text after
  | .escaped, text, cell :: after =>
    -- an escaped line end does not show, and neither does the space after it
    if isBreak cell.char then scanFrom quote (.inside (.lines none [])) text after
    else match escape? cell.char with
      | some c => scanFrom quote (.inside .none) (c :: text) after
      | none =>
        match digitCount? cell.char with
        | some count => scanFrom quote (.digits count 0) text after
        | none => none
  | .digits left value, text, cell :: after =>
    match Numeral.digit? 16 cell.char with
    | none => none
    | some digit =>
      let value := 16 * value + digit
      if left ≤ 1 then
        match charOf? value with
        | some c => scanFrom quote (.inside .none) (c :: text) after
        | none => none
      else scanFrom quote (.digits (left - 1) value) text after

/-- The scalar at the front of a text that follows an opening quote. -/
def scan (quote : Char) (rest : Rest) : Option (String × Rest) :=
  scanFrom quote (.inside .none) [] rest

end Quoted

namespace Block

/-- What becomes of the line ends at the end of a block. -/
inductive Chomping where
  /-- None is kept. -/
  | strip
  /-- One is kept. -/
  | clip
  /-- All are kept. -/
  | keep
deriving DecidableEq, Repr

/-- The marks in the first line of a block. -/
structure Header where
  /-- What becomes of the last line ends. -/
  chomping : Chomping := .clip
  /-- The block's indentation beyond the one around it, if it is given. -/
  indentation? : Option Nat := none

/-- The chomping that a mark asks for. -/
def chomping? : Char → Option Chomping
  | '+' => some .keep
  | '-' => some .strip
  | _ => none

/-- The indentation that a digit asks for, which cannot be zero. -/
def indentation? (c : Char) : Option Nat :=
  if c.isDigit && c != '0' then some (c.toNat - '0'.toNat) else none

/-- The marks at the front of a text, in either order. -/
def header? (rest : Rest) : Option (Header × Rest) :=
  match chomping? rest.next with
  | some chomping =>
    let rest : Rest := rest.skip 1
    if rest.next.isDigit then
      (indentation? rest.next).map fun indentation =>
        (⟨chomping, some indentation⟩, rest.skip 1)
    else some (⟨chomping, none⟩, rest)
  | none =>
    if rest.next.isDigit then
      (indentation? rest.next).map fun indentation =>
        let rest : Rest := rest.skip 1
        match chomping? rest.next with
        | some chomping => (⟨chomping, some indentation⟩, rest.skip 1)
        | none => (⟨.clip, some indentation⟩, rest)
    else some (⟨.clip, none⟩, rest)

/-- What has been read of a block. -/
structure State where
  /-- The block's indentation, once it is known. -/
  indent? : Option Nat
  /-- The greatest column that leading spaces have reached. -/
  widest : Nat := 0
  /-- Whether a line's text is being read, and not the space before it. -/
  inLine : Bool := false
  /-- The text, the last character first. -/
  text : List Char := []
  /-- The end of the last line with text. -/
  lineEnd? : Option Char := none
  /-- The ends of empty lines after it. -/
  emptyLines : List Char := []
  /-- Whether the last line with text began with a blank. -/
  beganBlank : Bool := false

/-- Whether leading space can go on at a column. -/
def State.isLeading (state : State) (column : Nat) : Bool :=
  match state.indent? with
  | none => true
  | some indent => column < indent

/-- The text after a line has begun with a character. A folded block joins two lines that begin
with no blank. -/
def State.beginLine (state : State) (literal : Bool) (c : Char) : State :=
  let ends := state.lineEnd?.toList
  -- a single line end reads as a space, and of several ones the first does not count
  let joined :=
    if !literal && state.lineEnd? = some '\n' && !state.beganBlank && !isBlank c then
      if state.emptyLines = [] then [' '] else []
    else ends
  { state with
    inLine := true
    text := c :: (state.emptyLines.reverse ++ (joined.reverse ++ state.text))
    lineEnd? := none
    emptyLines := []
    beganBlank := isBlank c }

/-- The text of a block after its last line. -/
def State.finish (state : State) (chomping : Chomping) : String :=
  let tail := match chomping with
    | .strip => []
    | .clip => state.lineEnd?.toList
    | .keep => state.lineEnd?.toList ++ state.emptyLines
  String.ofList (state.text.reverse ++ tail)

/-- Reads on in a block whose surroundings are indented by `outer`, -1 at the top. -/
def scanFrom (literal : Bool) (chomping : Chomping) (outer : Int) :
    State → Rest → Option (String × Rest)
  | state, [] => some (state.finish chomping, [])
  | state, cell :: after =>
    if state.inLine && !isBreakOrEnd cell.char then
      scanFrom literal chomping outer { state with text := cell.char :: state.text } after
    else if state.inLine && isBreak cell.char then
      scanFrom literal chomping outer
        { state with inLine := false, lineEnd? := some cell.char } after
    else if state.isLeading cell.column && cell.char = ' ' then
      scanFrom literal chomping outer state after
    else
      let state := { state with inLine := false, widest := max state.widest cell.column }
      if state.isLeading cell.column && cell.char = '\t' then none
      else if isBreak cell.char then
        scanFrom literal chomping outer
          { state with emptyLines := state.emptyLines ++ [cell.char] } after
      else
        -- without a mark the first line with text decides how far the block is indented
        let indent := state.indent?.getD (max state.widest (max (outer + 1).toNat 1))
        let state := { state with indent? := some indent }
        if cell.column = indent && cell.char ≠ endOfText then
          scanFrom literal chomping outer (state.beginLine literal cell.char) after
        else some (state.finish chomping, cell :: after)

/-- The block at the front of a text that follows its first mark. -/
def scan? (literal : Bool) (outer : Int) (rest : Rest) : Option (String × Rest) := do
  let (header, rest) ← header? rest
  let rest ← rest.finishLine?
  let indent? := header.indentation?.map fun indentation =>
    if 0 ≤ outer then outer.toNat + indentation else indentation
  scanFrom literal header.chomping outer { indent? } rest

end Block

end ControllerHost.Yaml
