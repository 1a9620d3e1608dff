import ControllerHost.Text.Quoted
import ControllerHost.Yaml.PlainValue
import ControllerHost.Yaml.Scalar

/-!
# Writing scalars

A text that is the value of a setting is written in the plainest way that reads back as itself:
plainly, between single quotes, or between double quotes with escapes. A text of several lines is
written as a block if it can be.

- `Yaml.Writing.style`: the way in which a text is written.
- `Yaml.Writing.value`: the text as the value of a key, with the line end that follows it.
-/

namespace ControllerHost.Yaml.Writing

/-- Whether a character can be written as it is. -/
def isPrintable (c : Char) : Bool :=
  c == '\n' || ('\x20' ≤ c && c ≤ '\x7E')
    || ('\u00A0' ≤ c && c.toNat ≤ 0xFFFD && c != orderMark) || 0x10000 ≤ c.toNat

/-- The neighbours in a text, the last character with the end of the text. -/
def neighbours (text : List Char) : List (Char × Char) := text.zip (text.drop 1 ++ [endOfText])

/-- Whether a space stands in front of a line end, which only escapes can show. -/
def hasSpaceBeforeBreak (text : List Char) : Bool :=
  (neighbours text).any fun (c, next) => c == ' ' && isBreak next

/-- Whether a space stands after a line end. -/
def hasSpaceAfterBreak (text : List Char) : Bool :=
  (neighbours text).any fun (c, next) => isBreak c && next == ' '

/-- Whether a text begins like something else than a plain scalar. -/
def beginsAsMark (text : List Char) : Bool :=
  match text with
  | [] => false
  | '-' :: '-' :: '-' :: _ | '.' :: '.' :: '.' :: _ => true
  | first :: rest =>
    "#,[]{}&*!|>\x27\"%@\x60".toList.contains first
      || ((first == '?' || first == '-') && isGap (rest.headD endOfText))

/-- Whether a plain scalar would end within a text: at a colon before a gap, or at a number sign
after one. -/
def endsWithin (text : List Char) : Bool :=
  (neighbours text).any fun (c, next) => (c == ':' && isGap next) || (isGap c && next == '#')

/-- Whether a text has characters at its ends that a plain scalar would lose. -/
def hasLooseEnds (text : List Char) : Bool :=
  let isLoose (c? : Option Char) : Bool :=
    match c? with
    | some c => c == ' ' || isBreak c
    | none => false
  isLoose text.head? || isLoose text.getLast?

/-- Whether a text can be written between single quotes. -/
def allowsSingle (text : List Char) : Bool :=
  text.all isPrintable && !hasSpaceBeforeBreak text && !hasSpaceAfterBreak text

/-- Whether a text can be written plainly. -/
def allowsPlain (text : List Char) : Bool :=
  allowsSingle text && !text.any isBreak && !hasLooseEnds text && !beginsAsMark text
    && !endsWithin text

/-- Whether a text can be written as a block. -/
def allowsBlock (text : List Char) : Bool :=
  text ≠ [] && text.all isPrintable && !hasSpaceBeforeBreak text && text.getLast? ≠ some ' '

/-- The way in which a text is written. -/
def style (text : String) : ScalarStyle :=
  let chars := text.toList
  if chars.contains '\n' then if allowsBlock chars then .literal else .doubleQuoted
  else if !PlainValue.isAmbiguous text && allowsPlain chars then .plain
  else if allowsSingle chars then .singleQuoted
  else .doubleQuoted

/-- The indentation of what goes on over several lines. -/
def indent : List Char := [' ', ' ']

/-- A text between single quotes, given whether a line has just ended. Quotes are doubled, and the
first of several line ends is, because it would read as a space. -/
def singleFrom : Bool → List Char → List Char
  | lineEnded, [] => if lineEnded then indent else []
  | lineEnded, c :: rest =>
    if isBreak c then
      if !lineEnded && c = '\n' then '\n' :: c :: singleFrom true rest
      else c :: singleFrom true rest
    else
      let written := if c = '\x27' then ['\x27', '\x27'] else [c]
      if lineEnded && c ≠ ' ' then indent ++ written ++ singleFrom false rest
      else written ++ singleFrom lineEnded rest

/-- The letter that stands for a character after a backslash, if there is one. -/
def letter? (c : Char) : Option Char :=
  ([('\x00', '0'), ('\x07', 'a'), ('\x08', 'b'), ('\t', 't'), ('\n', 'n'), ('\x0B', 'v'),
    ('\x0C', 'f'), ('\r', 'r'), ('\x1B', 'e'), ('"', '"'), ('\\', '\\'), ('\u0085', 'N'),
    ('\u00A0', '_'), ('\u2028', 'L'), ('\u2029', 'P')] : List (Char × Char)).lookup c

/-- A character between double quotes. -/
def escaped (c : Char) : List Char :=
  if isPrintable c && !isBreak c && c != '"' && c != '\\' then [c]
  else match letter? c with
    | some letter => ['\\', letter]
    | none =>
      if c.toNat ≤ 0xFF then '\\' :: 'x' :: (Quoted.hex c.toNat 2 true).toList
      else if c.toNat ≤ 0xFFFF then '\\' :: 'u' :: (Quoted.hex c.toNat 4 true).toList
      else '\\' :: 'U' :: (Quoted.hex c.toNat 8 true).toList

/-- The marks in the first line of a block: its indentation if the text does not show it, and what
becomes of the last line ends. -/
def blockMarks (text : List Char) : List Char :=
  -- a space or a line end in front hides where the text begins
  let begins := match text with
    | c :: _ => if c = ' ' || isBreak c then ['2'] else []
    | [] => []
  let ends := match text.reverse with
    | [] => ['-']
    | [last] => if isBreak last then ['+'] else ['-']
    | last :: before :: _ =>
      if !isBreak last then ['-'] else if isBreak before then ['+'] else []
  begins ++ ends

/-- The lines of a block, given whether a line begins. -/
def blockFrom : Bool → List Char → List Char
  | _, [] => []
  | lineBegins, c :: rest =>
    if isBreak c then c :: blockFrom true rest
    else if lineBegins then indent ++ c :: blockFrom false rest
    else c :: blockFrom false rest

/-- A text as the value of a key, with the line end that follows it. -/
def value (text : String) : String :=
  let chars := text.toList
  String.ofList <| match style text with
    | .plain => chars ++ ['\n']
    | .singleQuoted => '\x27' :: singleFrom false chars ++ ['\x27', '\n']
    | .doubleQuoted => '"' :: chars.flatMap escaped ++ ['"', '\n']
    | .literal | .folded =>
      '|' :: blockMarks chars ++ '\n' :: blockFrom true chars
        ++ if chars.getLast?.any isBreak then [] else ['\n']

end ControllerHost.Yaml.Writing
