/-!
# The characters of a settings file

Settings files are written in YAML. Its rules speak of lines and columns, so each character of a
text is read together with its place. Line ends are unified: a carriage return, with or without a
line feed, and the next-line character all become a line feed.

- `Yaml.isAllowed`: the characters that a text may hold.
- `Yaml.Cell`, `Yaml.cells?`: a text as a list of placed characters, closed by a NUL.
- `Yaml.isBlank`, `Yaml.isBreak`, `Yaml.isGap`: the classes that separate words and lines.
-/

namespace ControllerHost.Yaml

/-- Whether a text may hold a character. -/
def isAllowed (c : Char) : Bool :=
  c == '\t' || c == '\n' || c == '\r' || ('\x20' ≤ c && c ≤ '\x7E') || c == '\u0085'
    || ('\u00A0' ≤ c && c.toNat ≤ 0xFFFD) || 0x10000 ≤ c.toNat

/-- The byte-order mark, which may begin a line. -/
def orderMark : Char := '\uFEFF'

/-- The end of a text, as a character that no text holds. -/
def endOfText : Char := '\x00'

/-- Whether a character separates words on a line. -/
def isBlank (c : Char) : Bool := c == ' ' || c == '\t'

/-- Whether a character ends a line. -/
def isBreak (c : Char) : Bool :=
  c == '\n' || c == '\r' || c == '\u0085' || c == '\u2028' || c == '\u2029'

/-- Whether a line or the text ends here. -/
def isBreakOrEnd (c : Char) : Bool := isBreak c || c == endOfText

/-- Whether a word ends here. -/
def isGap (c : Char) : Bool := isBlank c || isBreakOrEnd c

/-- Whether a character can stand in a name of an anchor or a directive. -/
def isWord (c : Char) : Bool := c.isAlphanum || c == '_' || c == '-'

/-- A character and where it stands. -/
structure Cell where
  /-- The character. -/
  char : Char
  /-- How many lines come before it. -/
  line : Nat
  /-- How many characters come before it on its line. -/
  column : Nat
deriving DecidableEq, Repr

/-- The cells of a text from a place on. -/
def cellsFrom : (line column : Nat) → List Char → List Cell
  | line, column, [] => [⟨endOfText, line, column⟩]
  | line, column, '\r' :: '\n' :: rest => ⟨'\n', line, column⟩ :: cellsFrom (line + 1) 0 rest
  | line, column, c :: rest =>
    if c = '\r' ∨ c = '\u0085' then ⟨'\n', line, column⟩ :: cellsFrom (line + 1) 0 rest
    else if isBreak c then ⟨c, line, column⟩ :: cellsFrom (line + 1) 0 rest
    else ⟨c, line, column⟩ :: cellsFrom line (column + 1) rest

/-- The cells of a text, unless it holds a character that is not allowed. -/
def cells? (text : String) : Option (List Cell) :=
  if text.toList.all isAllowed then some (cellsFrom 0 0 text.toList) else none

/-- A part of a text that has yet to be read. -/
abbrev Rest := List Cell

namespace Rest

/-- The character at a distance. -/
def peek (rest : Rest) (distance : Nat) : Char :=
  match rest[distance]? with
  | some cell => cell.char
  | none => endOfText

/-- The next character. -/
def next (rest : Rest) : Char := rest.peek 0

/-- What comes after some characters. -/
def skip (rest : Rest) (count : Nat) : Rest := rest.drop count

/-- The column of the next character. -/
def column (rest : Rest) : Nat :=
  match rest with
  | [] => 0
  | cell :: _ => cell.column

/-- The line of the next character. -/
def line (rest : Rest) : Nat :=
  match rest with
  | [] => 0
  | cell :: _ => cell.line

/-- The longest run of characters with a property, and what comes after it. -/
def span (rest : Rest) (holds : Char → Bool) : List Char × Rest :=
  ((rest.takeWhile fun cell => holds cell.char).map Cell.char,
    rest.dropWhile fun cell => holds cell.char)

/-- What comes after the blanks that are next. -/
def skipBlanks (rest : Rest) : Rest := (rest.span isBlank).2

/-- Whether a document begins or ends here: three dashes or dots at the start of a line, and then
a gap. -/
def atDocumentMark (rest : Rest) : Bool :=
  rest.column == 0 && isGap (rest.peek 3)
    && ((rest.peek 0 == '-' && rest.peek 1 == '-' && rest.peek 2 == '-')
      || (rest.peek 0 == '.' && rest.peek 1 == '.' && rest.peek 2 == '.'))

/-- What comes after blanks and a comment, if that is the end of the line; the line's end is passed
over too. -/
def finishLine? (rest : Rest) : Option Rest :=
  let rest : Rest := rest.skipBlanks
  let rest : Rest := if rest.next = '#' then (rest.span fun c => !isBreakOrEnd c).2 else rest
  if isBreak rest.next then some (rest.skip 1)
  else if rest.next = endOfText then some rest
  else none

end Rest

end ControllerHost.Yaml
