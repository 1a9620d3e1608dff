import ControllerHost.Yaml.Scalar

/-!
# Tokens

Tokens are the words and marks of a text, with marks of their own where an indented collection
begins and ends.

- `Yaml.Token`: the tokens.
- `Yaml.anchorName?`, `Yaml.tag?`, `Yaml.directive?`: the tokens that are neither scalars nor single
  marks, read from the front of a text.
-/

namespace ControllerHost.Yaml

/-- The words and marks of a text. -/
inductive Token where
  /-- The text begins. -/
  | streamStart
  /-- The text ends. -/
  | streamEnd
  /-- The version that a document asks for. -/
  | version (major minor : Nat)
  /-- A shorthand for the beginning of tags. -/
  | tagShorthand (handle meaning : List Char)
  /-- Three dashes. -/
  | documentStart
  /-- Three dots. -/
  | documentEnd
  /-- An indented sequence begins. -/
  | blockSequenceStart
  /-- An indented mapping begins. -/
  | blockMappingStart
  /-- An indented collection ends. -/
  | blockEnd
  /-- A square bracket opens. -/
  | flowSequenceStart
  /-- A square bracket closes. -/
  | flowSequenceEnd
  /-- A brace opens. -/
  | flowMappingStart
  /-- A brace closes. -/
  | flowMappingEnd
  /-- A dash before an item. -/
  | blockEntry
  /-- A comma between items. -/
  | flowEntry
  /-- A key begins. -/
  | key
  /-- A value begins. -/
  | value
  /-- A reference to a named node. -/
  | alias (name : List Char)
  /-- A name for the node that follows. -/
  | anchor (name : List Char)
  /-- A tag for the node that follows: a shorthand, which may be empty, and the rest. -/
  | tag (handle rest : List Char)
  /-- A scalar. -/
  | scalar (text : String) (style : ScalarStyle)
deriving DecidableEq, Repr

/-- The name that follows the mark of an anchor or an alias. -/
def anchorName? (rest : Rest) : Option (List Char × Rest) :=
  let (name, rest) := rest.span isWord
  let closes (c : Char) : Bool :=
    isGap c || c == '?' || c == ':' || c == ',' || c == ']' || c == '}' || c == '%' || c == '@'
      || c == '\x60'
  if name = [] || !closes (Rest.next rest) then none else some (name, rest)

namespace Tag

/-- Whether a tag can hold a character; some only between angle brackets or in a shorthand. -/
def holds (wide : Bool) (c : Char) : Bool :=
  isWord c || ";/?:@&=+$.%!~*\x27()".toList.contains c || (wide && ",[]".toList.contains c)

/-- What a reader of a tag expects next. -/
inductive Mode where
  /-- A character. -/
  | plain
  /-- Another escaped byte, of which `missing` remain with this one. -/
  | escape (missing : Nat)
  /-- The first digit of an escaped byte. -/
  | highDigit (missing : Nat)
  /-- The second digit of an escaped byte. -/
  | lowDigit (missing high : Nat)

/-- The number of bytes of the character that a byte begins. -/
def width? (byte : Nat) : Option Nat :=
  if byte < 0x80 then some 1
  else if byte < 0xC0 then none
  else if byte < 0xE0 then some 2
  else if byte < 0xF0 then some 3
  else if byte < 0xF8 then some 4
  else none

/-- How many bytes remain after an escaped one. No missing ones are counted before the first. -/
def remaining? (missing byte : Nat) : Option Nat :=
  if missing = 0 then (width? byte).map (· - 1)
  else if 0x80 ≤ byte ∧ byte < 0xC0 then some (missing - 1)
  else none

/-- Reads on in a tag, given the characters before, the last one first. Escaped bytes stand for the
characters with their numbers. -/
def scanFrom (wide : Bool) : Mode → List Char → Rest → Option (List Char × Rest)
  | .plain, text, [] => some (text.reverse, [])
  | .plain, text, cell :: after =>
    if cell.char = '%' then scanFrom wide (.highDigit 0) text after
    else if holds wide cell.char then scanFrom wide .plain (cell.char :: text) after
    else some (text.reverse, cell :: after)
  | .escape missing, text, cell :: after =>
    if cell.char = '%' then scanFrom wide (.highDigit missing) text after else none
  | .highDigit missing, text, cell :: after =>
    match Numeral.digit? 16 cell.char with
    | some digit => scanFrom wide (.lowDigit missing digit) text after
    | none => none
  | .lowDigit missing high, text, cell :: after =>
    match Numeral.digit? 16 cell.char with
    | none => none
    | some digit =>
      let byte := 16 * high + digit
      -- the first byte says how many more belong to its character
      match remaining? missing byte with
      | none => none
      | some 0 => scanFrom wide .plain (Char.ofNat byte :: text) after
      | some left => scanFrom wide (.escape left) (Char.ofNat byte :: text) after
  | _, _, [] => none

/-- The characters of a tag at the front of a text, which go on after `front`. There must be some,
and a lone exclamation mark in front counts. -/
def scan? (wide : Bool) (front : List Char) (rest : Rest) : Option (List Char × Rest) := do
  let (text, rest) ← scanFrom wide .plain [] rest
  if front = [] && text = [] then none else some (front.drop 1 ++ text, rest)

/-- An exclamation mark, a word, and perhaps another exclamation mark. -/
def handle? (rest : Rest) : Option (List Char × Rest) :=
  if rest.next ≠ '!' then none
  else
    let (word, rest) := (rest.skip 1).span isWord
    if Rest.next rest = '!' then some ('!' :: word ++ ['!'], Rest.skip rest 1)
    else some ('!' :: word, rest)

end Tag

/-- The tag at the front of a text: between angle brackets, after a shorthand, or after an
exclamation mark. -/
def tag? (inBrackets : Bool) (rest : Rest) : Option (Token × Rest) := do
  let (token, rest) ←
    if rest.peek 1 = '<' then do
      let (text, rest) ← Tag.scan? true [] (rest.skip 2)
      if Rest.next rest = '>' then some (Token.tag [] text, Rest.skip rest 1) else none
    else do
      let (handle, rest) ← Tag.handle? rest
      if handle.length ≥ 2 && handle.getLast? = some '!' then
        let (text, rest) ← Tag.scan? false [] rest
        some (Token.tag handle text, rest)
      else
        let (text, rest) ← Tag.scan? false handle rest
        some (if text = [] then Token.tag [] ['!'] else Token.tag ['!'] text, rest)
  if isGap (Rest.next rest) || (inBrackets && Rest.next rest = ',') then some (token, rest)
  else none

namespace Directive

/-- A number of at most nine digits. -/
def number? (rest : Rest) : Option (Nat × Rest) :=
  let (digits, rest) := rest.span Char.isDigit
  if digits = [] || digits.length > 9 then none
  else some (digits.foldl (fun number c => 10 * number + (c.toNat - '0'.toNat)) 0, rest)

/-- Two numbers with a dot between them. -/
def version? (rest : Rest) : Option (Token × Rest) := do
  let (major, rest) ← number? rest.skipBlanks
  if Rest.next rest ≠ '.' then none
  else
    let (minor, rest) ← number? (Rest.skip rest 1)
    some (.version major minor, rest)

/-- A shorthand between exclamation marks, a blank, and what it stands for. -/
def tagShorthand? (rest : Rest) : Option (Token × Rest) := do
  let (handle, rest) ← Tag.handle? rest.skipBlanks
  if handle ≠ ['!'] && handle.getLast? ≠ some '!' then none
  else if !isBlank (Rest.next rest) then none
  else
    let (meaning, rest) ← Tag.scan? true [] (Rest.skipBlanks rest)
    if isGap (Rest.next rest) then some (.tagShorthand handle meaning, rest) else none

end Directive

/-- The directive at the front of a text that follows a percent sign. -/
def directive? (rest : Rest) : Option (Token × Rest) := do
  let (name, rest) := rest.span isWord
  if name = [] || !isGap (Rest.next rest) then none
  else
    let (token, rest) ←
      if name = "YAML".toList then Directive.version? rest
      else if name = "TAG".toList then Directive.tagShorthand? rest
      else none
    let rest ← Rest.finishLine? rest
    some (token, rest)

end ControllerHost.Yaml
