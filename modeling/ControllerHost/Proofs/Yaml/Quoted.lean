import ControllerHost.Proofs.Text.Numerals
import ControllerHost.Proofs.Yaml.Cells

/-!
# Reading quoted scalars

Between single quotes only a quote needs care, which is doubled, and lines, which are indented
again. Between double quotes everything that does not show is escaped. What is written either way
reads back as it was, up to the closing quote.

- `Yaml.Quoted.IsFoldable`: what can be written between single quotes without a change.
- `Yaml.Quoted.scan_single`, `Yaml.Quoted.scan_double`: texts between quotes.
- `Yaml.Quoted.scanFrom_escaped`: a character as it is written between double quotes.
-/

namespace ControllerHost.Yaml.Quoted

open Writing (isPrintable)

variable {text rest acc : List Char} {gap : Gap} {quote c : Char} {line column : Nat}

/-- A blank inside quotes joins the gap. -/
theorem scanFrom_space (after : Rest) :
    scanFrom quote (.inside gap) acc (⟨' ', line, column⟩ :: after) =
      scanFrom quote (.inside (gap.addBlank ' ')) acc after := by
  rw [scanFrom]
  simp [isBlank]

/-- A line's end inside quotes joins the gap. -/
theorem scanFrom_break (hbreak : isBreak c) (after : Rest) :
    scanFrom quote (.inside gap) acc (⟨c, line, column⟩ :: after) =
      scanFrom quote (.inside (gap.addBreak c)) acc after := by
  rw [scanFrom]
  simp [hbreak, isBlank_of_isBreak hbreak]

/-- A quote inside a line ends the scalar, unless it is a single one and doubled. -/
theorem scanFrom_quote {after : Rest} (hcolumn : 0 < column)
    (hquote : isPrintable quote ∧ isBlank quote = false ∧ isBreak quote = false)
    (hsingle : quote ≠ '\x27' ∨ after.next ≠ quote) :
    scanFrom quote (.inside gap) acc (⟨quote, line, column⟩ :: after) =
      some (String.ofList (acc.reverse ++ gap.text), after) := by
  have hmark : Rest.atDocumentMark (⟨quote, line, column⟩ :: after) = false :=
    Rest.atDocumentMark_of_column hcolumn
  have hsingle : ¬(quote = '\x27' ∧ after.next = quote) := by
    rintro ⟨hfirst, hsecond⟩
    exact hsingle.elim (absurd hfirst) (absurd hsecond)
  rw [scanFrom]
  simp [hquote, hmark, ne_endOfText_of_isPrintable hquote.1, hsingle]

/-- A character inside a line goes to the text, with the gap in front of it. -/
theorem scanFrom_char {after : Rest} (hcolumn : 0 < column) (hc : isPrintable c)
    (hspace : c ≠ ' ') (hbreak : isBreak c = false) (hquote : c ≠ quote)
    (hescape : c ≠ '\\' ∨ quote ≠ '"') :
    scanFrom quote (.inside gap) acc (⟨c, line, column⟩ :: after) =
      scanFrom quote (.inside .none) (c :: (gap.text.reverse ++ acc)) after := by
  have hblank : isBlank c = false := isBlank_of_isPrintable hc hspace
  have hmark : Rest.atDocumentMark (⟨c, line, column⟩ :: after) = false :=
    Rest.atDocumentMark_of_column hcolumn
  have hescape : ¬(c = '\\' ∧ quote = '"') := by
    rintro ⟨hfirst, hsecond⟩
    exact hescape.elim (absurd hfirst) (absurd hsecond)
  rw [scanFrom]
  simp [hblank, hbreak, hmark, ne_endOfText_of_isPrintable hc, hquote, hescape]

/-! ### Single quotes -/

/-- A text that is written between single quotes. -/
structure IsFoldable (text : List Char) : Prop where
  /-- It is printable. -/
  printable : ∀ c ∈ text, isPrintable c
  /-- None of its line ends reads as a space. -/
  unfed : ∀ c ∈ text, c ≠ '\n'
  /-- There are no spaces in front of line ends. -/
  before : Writing.hasSpaceBeforeBreak text = false
  /-- There are no spaces after line ends. -/
  after : Writing.hasSpaceAfterBreak text = false

/-- What is left of a foldable text is foldable. -/
theorem IsFoldable.of_cons (htext : IsFoldable (c :: text)) : IsFoldable text where
  printable := (List.forall_mem_cons.1 htext.printable).2
  unfed := (List.forall_mem_cons.1 htext.unfed).2
  before := by
    have hbefore := htext.before
    rw [Writing.hasSpaceBeforeBreak_cons, Bool.or_eq_false_iff] at hbefore
    exact hbefore.2
  after := by
    have hafter := htext.after
    rw [Writing.hasSpaceAfterBreak_cons, Bool.or_eq_false_iff] at hafter
    exact hafter.2

/-- Where a reader of a scalar between single quotes can be in front of some text: given whether a
line has just ended, its column, and the gap. -/
inductive GoesOn : Bool → Nat → Gap → List Char → Prop
  /-- Behind a word. -/
  | word {column : Nat} {text : List Char} (hcolumn : 0 < column) : GoesOn false column .none text
  /-- Behind blanks, which no line end follows. -/
  | blanks {column : Nat} {text blanks : List Char} (hcolumn : 0 < column)
      (htext : ∀ c ∈ text.head?, isBreak c = false) : GoesOn false column (.blanks blanks) text
  /-- At the beginning of a line, which is not a space. -/
  | lines {first : Char} {others text : List Char} (hfirst : first ≠ '\n')
      (htext : text.head? ≠ some ' ') : GoesOn true 0 (.lines (some first) others) text

/-- A line end goes to the gap. -/
theorem GoesOn.break {ended : Bool} (hgap : GoesOn ended column gap (c :: text))
    (htext : IsFoldable (c :: text)) (hbreak : isBreak c) :
    GoesOn true 0 (gap.addBreak c) text ∧ (gap.addBreak c).text = gap.text ++ [c] := by
  have hfeed : c ≠ '\n' := htext.unfed c (List.mem_cons_self ..)
  have hspace : text.head? ≠ some ' ' := by
    have hafter := htext.after
    rw [Writing.hasSpaceAfterBreak_cons, Bool.or_eq_false_iff] at hafter
    cases text with
    | nil => simp
    | cons next others => simpa [hbreak] using hafter.1
  cases hgap with
  | word => exact ⟨.lines hfeed hspace, by simp [Gap.addBreak, Gap.text, hfeed]⟩
  | blanks _ hblanks => exact Bool.noConfusion (hbreak.symm.trans (hblanks c rfl))
  | lines hfirst => exact ⟨.lines hfirst hspace, by simp [Gap.addBreak, Gap.text, hfirst]⟩

/-- A space inside a line goes to the gap. -/
theorem GoesOn.space (hgap : GoesOn false column gap (' ' :: text))
    (htext : IsFoldable (' ' :: text)) :
    GoesOn false (column + 1) (gap.addBlank ' ') text
      ∧ (gap.addBlank ' ').text = gap.text ++ [' '] := by
  have hbreak : ∀ c ∈ text.head?, isBreak c = false := by
    have hbefore := htext.before
    rw [Writing.hasSpaceBeforeBreak_cons, Bool.or_eq_false_iff] at hbefore
    cases text with
    | nil => simp
    | cons next others => simpa using hbefore.1
  cases hgap with
  | word => exact ⟨.blanks (Nat.succ_pos column) hbreak, rfl⟩
  | blanks => exact ⟨.blanks (Nat.succ_pos column) hbreak, rfl⟩

/-- In front of anything but a space the reader is inside a line, once the indentation is read. -/
theorem GoesOn.indent {ended : Bool} (hgap : GoesOn ended column gap text) (quote : Char)
    (acc rest : List Char) (line : Nat) :
    ∃ column', 0 < column' ∧ scanFrom quote (.inside gap) acc
        (cellsFrom line column ((if ended then Writing.indent else []) ++ rest)) =
      scanFrom quote (.inside gap) acc (cellsFrom line column' rest) := by
  cases hgap with
  | word hcolumn => exact ⟨column, hcolumn, rfl⟩
  | blanks hcolumn => exact ⟨column, hcolumn, rfl⟩
  | lines =>
    refine ⟨2, by decide, ?_⟩
    rw [if_pos rfl, Writing.indent, List.cons_append, List.cons_append, List.nil_append,
      cellsFrom_cons (by decide) (by decide), scanFrom_space,
      cellsFrom_cons (by decide) (by decide), scanFrom_space]
    rfl

/-- A character between single quotes, of which a quote is doubled. -/
def single (c : Char) : List Char := if c = '\x27' then ['\x27', '\x27'] else [c]

/-- A line's end other than the feed is written as it is. -/
theorem singleFrom_break {ended : Bool} (hbreak : isBreak c) (hfeed : c ≠ '\n') :
    Writing.singleFrom ended (c :: text) = c :: Writing.singleFrom true text := by
  rw [Writing.singleFrom, if_pos hbreak, if_neg (by simp [hfeed])]

/-- A blank is written as it is. -/
theorem singleFrom_space :
    Writing.singleFrom false (' ' :: text) = ' ' :: Writing.singleFrom false text := by
  rw [Writing.singleFrom]
  simp [isBreak]

/-- Any other character is written behind the indent that a line's end calls for. -/
theorem singleFrom_char {ended : Bool} (hbreak : isBreak c = false) (hspace : c ≠ ' ') :
    Writing.singleFrom ended (c :: text) =
      (if ended then Writing.indent else []) ++ (single c ++ Writing.singleFrom false text) := by
  rw [Writing.singleFrom, if_neg (by simp [hbreak]), single]
  cases ended <;> simp [hspace]

/-- Two single quotes stand for one. -/
theorem scanFrom_doubled {line' column' : Nat} (hcolumn : 0 < column) (after : Rest) :
    scanFrom '\x27' (.inside gap) acc
        (⟨'\x27', line, column⟩ :: ⟨'\x27', line', column'⟩ :: after) =
      scanFrom '\x27' (.inside .none) ('\x27' :: (gap.text.reverse ++ acc)) after := by
  have hmark : Rest.atDocumentMark
      (⟨'\x27', line, column⟩ :: ⟨'\x27', line', column'⟩ :: after) = false :=
    Rest.atDocumentMark_of_column hcolumn
  rw [scanFrom]
  simp [isBlank, isBreak, hmark, endOfText, scanFrom]

/-- A character written in single quotes is read back, behind the text of the gap before it. -/
theorem scanFrom_single (hcolumn : 0 < column) (hc : isPrintable c) (hspace : c ≠ ' ')
    (hbreak : isBreak c = false) :
    scanFrom '\x27' (.inside gap) acc (cellsFrom line column (single c ++ rest)) =
      scanFrom '\x27' (.inside .none) (c :: (gap.text.reverse ++ acc))
        (cellsFrom line (column + (single c).length) rest) := by
  by_cases hquote : c = '\x27'
  · subst hquote
    rw [single, if_pos rfl, List.cons_append, List.cons_append, List.nil_append,
      cellsFrom_cons hc hbreak, cellsFrom_cons hc hbreak, scanFrom_doubled hcolumn]
    rfl
  · rw [single, if_neg hquote, List.singleton_append, cellsFrom_cons hc hbreak,
      scanFrom_char hcolumn hc hspace hbreak hquote (Or.inr (by decide))]
    rfl

/-- What is written between single quotes is read up to the closing quote. -/
theorem scanFrom_singleFrom {ended : Bool} (htext : IsFoldable text)
    (hgap : GoesOn ended column gap text) (acc : List Char) (line : Nat)
    (hnext : ∀ line column, Rest.next (cellsFrom line column rest) ≠ '\x27') :
    ∃ line' column', scanFrom '\x27' (.inside gap) acc
        (cellsFrom line column (Writing.singleFrom ended text ++ '\x27' :: rest)) =
      some (String.ofList (acc.reverse ++ (gap.text ++ text)), cellsFrom line' column' rest) := by
  -- the gap holds what has been read since the last character that is no space
  induction text generalizing ended gap acc line column with
  | nil =>
    obtain ⟨column', hcolumn', hread⟩ := hgap.indent '\x27' acc ('\x27' :: rest) line
    refine ⟨line, column' + 1, ?_⟩
    rw [Writing.singleFrom, hread, cellsFrom_cons (by decide) (by decide),
      scanFrom_quote hcolumn' (by decide) (Or.inr (hnext line (column' + 1))), List.append_nil]
  | cons c text ih =>
    have hc := htext.printable c (List.mem_cons_self ..)
    by_cases hbreak : isBreak c
    · obtain ⟨hafter, hlines⟩ := hgap.break htext hbreak
      obtain ⟨line', column', hread⟩ := ih htext.of_cons hafter acc (line + 1)
      refine ⟨line', column', ?_⟩
      rw [singleFrom_break hbreak (htext.unfed c (List.mem_cons_self ..)), List.cons_append,
        cellsFrom_break hc hbreak, scanFrom_break hbreak, hread, hlines, List.append_assoc,
        List.singleton_append]
    rw [Bool.not_eq_true] at hbreak
    by_cases hspace : c = ' '
    · subst hspace
      -- a line does not begin with a space
      obtain rfl : ended = false := by
        cases hgap with
        | word => rfl
        | blanks => rfl
        | lines _ htext => exact absurd rfl htext
      obtain ⟨hafter, hblanks⟩ := hgap.space htext
      obtain ⟨line', column', hread⟩ := ih htext.of_cons hafter acc line
      refine ⟨line', column', ?_⟩
      rw [singleFrom_space, List.cons_append, cellsFrom_cons hc hbreak, scanFrom_space, hread,
        hblanks, List.append_assoc, List.singleton_append]
    · obtain ⟨column', hcolumn', hindent⟩ := hgap.indent '\x27' acc
        (single c ++ (Writing.singleFrom false text ++ '\x27' :: rest)) line
      obtain ⟨line', column'', hread⟩ := ih htext.of_cons
        (.word (Nat.add_pos_left hcolumn' (single c).length)) (c :: (gap.text.reverse ++ acc)) line
      refine ⟨line', column'', ?_⟩
      rw [singleFrom_char hbreak hspace, List.append_assoc, List.append_assoc, hindent,
        scanFrom_single hcolumn' hc hspace hbreak, hread]
      simp [Gap.text]

/-- A text between single quotes is read as it was. -/
theorem scan_single (htext : IsFoldable text) (line : Nat) (hcolumn : 0 < column)
    (hnext : ∀ line column, Rest.next (cellsFrom line column rest) ≠ '\x27') :
    ∃ line' column', scan '\x27'
        (cellsFrom line column (Writing.singleFrom false text ++ '\x27' :: rest)) =
      some (String.ofList text, cellsFrom line' column' rest) :=
  scanFrom_singleFrom htext (.word hcolumn) [] line hnext

/-! ### Double quotes -/

/-- A backslash inside a line begins an escape. -/
theorem scanFrom_backslash (hcolumn : 0 < column) (after : Rest) :
    scanFrom '"' (.inside gap) acc (⟨'\\', line, column⟩ :: after) =
      scanFrom '"' .escaped (gap.text.reverse ++ acc) after := by
  have hmark : Rest.atDocumentMark (⟨'\\', line, column⟩ :: after) = false :=
    Rest.atDocumentMark_of_column hcolumn
  rw [scanFrom]
  simp [isBlank, isBreak, hmark, endOfText]

/-- An escape letter with a character of its own stands for that character. -/
theorem scanFrom_letter {letter : Char} (hbreak : isBreak letter = false)
    (hletter : escape? letter = some c) (after : Rest) :
    scanFrom '"' .escaped acc (⟨letter, line, column⟩ :: after) =
      scanFrom '"' (.inside .none) (c :: acc) after := by
  rw [scanFrom]
  simp [hbreak, hletter]

/-- An escape letter with a number of digits has that many read. -/
theorem scanFrom_count {letter : Char} {count : Nat} (hbreak : isBreak letter = false)
    (hletter : escape? letter = none ∧ digitCount? letter = some count) (after : Rest) :
    scanFrom '"' .escaped acc (⟨letter, line, column⟩ :: after) =
      scanFrom '"' (.digits count 0) acc after := by
  rw [scanFrom]
  simp [hbreak, hletter]

/-- A character is found by its number. -/
theorem charOf?_toNat (c : Char) : charOf? c.toNat = some c := by
  have hvalid : c.toNat.isValidChar := c.valid
  rw [charOf?, dif_pos hvalid]
  rfl

/-- A hexadecimal digit is written as it is. -/
theorem isPlainWord_of_digit? {digit : Nat} (hc : Numeral.digit? 16 c = some digit) :
    isPlainWord c := by
  unfold Numeral.digit? at hc
  split at hc
  · rename_i hdigit
    simp [isPlainWord, hdigit]
  · split at hc
    · rename_i hsmall
      have hrange : 'a' ≤ c ∧ c ≤ 'z' := ⟨hsmall.1, Char.le_trans hsmall.2 (by decide)⟩
      simp [isPlainWord, hrange]
    · split at hc
      · rename_i hcapital
        have hrange : 'A' ≤ c ∧ c ≤ 'Z' := ⟨hcapital.1, Char.le_trans hcapital.2 (by decide)⟩
        simp [isPlainWord, hrange]
      · simp at hc

/-- The digits of a character's number are read as that character. -/
theorem scanFrom_digits {digits : List Char} {left value : Nat} (hleft : digits.length = left)
    (hsome : digits ≠ []) (hvalue : Numeral.spelled? 16 value digits = some c.toNat) :
    scanFrom '"' (.digits left value) acc (cellsFrom line column (digits ++ rest)) =
      scanFrom '"' (.inside .none) (c :: acc) (cellsFrom line (column + left) rest) := by
  induction digits generalizing left value column with
  | nil => exact absurd rfl hsome
  | cons first digits ih =>
    cases hdigit : Numeral.digit? 16 first with
    | none => simp [Numeral.spelled?, hdigit] at hvalue
    | some digit =>
      have hword := isPlainWord_of_digit? hdigit
      rw [Numeral.spelled?_cons hdigit] at hvalue
      rw [List.cons_append, cellsFrom_cons (isPrintable_of_isPlainWord hword)
        (isBreak_of_isPlainWord hword), scanFrom]
      simp only [hdigit]
      cases digits with
      | nil =>
        rw [Numeral.spelled?_nil, Option.some_inj] at hvalue
        simp only [List.length_singleton] at hleft
        rw [if_pos (by omega), hvalue, charOf?_toNat, ← hleft]
        rfl
      | cons second digits =>
        simp only [List.length_cons] at hleft ih
        have hcolumn : column + 1 + (left - 1) = column + left := by omega
        rw [if_neg (by omega), ih (by omega) (by simp) hvalue, hcolumn]

/-- The letters of escapes are read as what they stand for. -/
theorem escape?_of_letter? {letter : Char} (hletter : Writing.letter? c = some letter) :
    escape? letter = some c ∧ isPrintable letter ∧ isBreak letter = false := by
  obtain ⟨before, after, hlist, -⟩ := List.lookup_eq_some_iff.1 hletter
  have hmem : (c, letter) ∈ before ++ (c, letter) :: after := by simp
  rw [← hlist] at hmem
  change escape? (c, letter).2 = some (c, letter).1 ∧ isPrintable (c, letter).2
    ∧ isBreak (c, letter).2 = false
  generalize (c, letter) = entry at hmem ⊢
  revert entry
  decide

/-- A character that is written with a number of so many hexadecimal digits. -/
theorem scanFrom_number {letter : Char} {count : Nat}
    (hletter : escape? letter = none ∧ digitCount? letter = some count)
    (hplain : isPrintable letter ∧ isBreak letter = false) (hcount : 0 < count)
    (hc : c.toNat < 16 ^ count) (hcolumn : 0 < column) :
    scanFrom '"' (.inside gap) acc (cellsFrom line column
        ('\\' :: letter :: (Quoted.hex c.toNat count true).toList ++ rest)) =
      scanFrom '"' (.inside .none) (c :: (gap.text.reverse ++ acc))
        (cellsFrom line (column + 1 + 1 + count) rest) := by
  have hlength := Numeral.length_hex hc hcount
  have hdigits : (Quoted.hex c.toNat count true).toList ≠ [] := by
    intro hnil
    rw [hnil] at hlength
    exact Nat.ne_of_lt hcount hlength
  rw [List.cons_append, List.cons_append, cellsFrom_cons (by decide) (by decide),
    scanFrom_backslash hcolumn, cellsFrom_cons hplain.1 hplain.2, scanFrom_count hplain.2 hletter,
    scanFrom_digits hlength hdigits (Numeral.spelled?_hex c.toNat count)]

/-- A character between double quotes that is no space is read as itself. -/
theorem scanFrom_escaped (hspace : c ≠ ' ') (gap : Gap) (acc rest : List Char) (line : Nat)
    (hcolumn : 0 < column) :
    ∃ column', 0 < column'
      ∧ scanFrom '"' (.inside gap) acc (cellsFrom line column (Writing.escaped c ++ rest)) =
        scanFrom '"' (.inside .none) (c :: (gap.text.reverse ++ acc))
          (cellsFrom line column' rest) := by
  unfold Writing.escaped
  split
  · rename_i hplain
    simp only [Bool.and_eq_true, Bool.not_eq_true', bne_iff_ne] at hplain
    obtain ⟨⟨⟨hprintable, hbreak⟩, hquote⟩, hslash⟩ := hplain
    refine ⟨column + 1, Nat.succ_pos column, ?_⟩
    rw [List.singleton_append, cellsFrom_cons hprintable hbreak,
      scanFrom_char hcolumn hprintable hspace hbreak hquote (Or.inl hslash)]
  · split
    · rename_i letter hletter
      obtain ⟨hescape, hprintable, hbreak⟩ := escape?_of_letter? hletter
      refine ⟨column + 1 + 1, Nat.succ_pos (column + 1), ?_⟩
      rw [List.cons_append, List.cons_append, List.nil_append,
        cellsFrom_cons (by decide) (by decide), scanFrom_backslash hcolumn,
        cellsFrom_cons hprintable hbreak, scanFrom_letter hbreak hescape]
    -- two, four or eight digits, as many as the number of the character needs
    · split
      · rename_i hsmall
        exact ⟨column + 1 + 1 + 2, Nat.succ_pos _, scanFrom_number (by decide) (by decide)
          (by decide) (Nat.lt_of_le_of_lt hsmall (by decide)) hcolumn⟩
      · split
        · rename_i hlarge
          exact ⟨column + 1 + 1 + 4, Nat.succ_pos _, scanFrom_number (by decide) (by decide)
            (by decide) (Nat.lt_of_le_of_lt hlarge (by decide)) hcolumn⟩
        · exact ⟨column + 1 + 1 + 8, Nat.succ_pos _, scanFrom_number (by decide) (by decide)
            (by decide) (Nat.lt_of_lt_of_le c.val.toNat_lt (by decide)) hcolumn⟩

/-- What is written between double quotes is read up to the closing quote. -/
theorem scanFrom_double (text : List Char) (hgap : gap.isMultiline = false) (acc : List Char)
    (hcolumn : 0 < column) :
    ∃ column', scanFrom '"' (.inside gap) acc
        (cellsFrom line column (text.flatMap Writing.escaped ++ '"' :: rest)) =
      some (String.ofList (acc.reverse ++ (gap.text ++ text)), cellsFrom line column' rest) := by
  induction text generalizing gap acc column with
  | nil =>
    refine ⟨column + 1, ?_⟩
    rw [List.flatMap_nil, List.nil_append, cellsFrom_cons (by decide) (by decide),
      scanFrom_quote hcolumn (by decide) (Or.inl (by decide)), List.append_nil]
  | cons c text ih =>
    rw [List.flatMap_cons, List.append_assoc]
    by_cases hspace : c = ' '
    · subst hspace
      have hwritten : Writing.escaped ' ' = [' '] := rfl
      -- a blank joins the gap, which stays on one line
      obtain ⟨hflat, htext⟩ : (gap.addBlank ' ').isMultiline = false
          ∧ (gap.addBlank ' ').text = gap.text ++ [' '] := by
        cases gap with
        | none => exact ⟨rfl, rfl⟩
        | blanks => exact ⟨rfl, rfl⟩
        | lines => cases hgap
      obtain ⟨column', hrest⟩ := ih hflat acc (Nat.succ_pos column)
      refine ⟨column', ?_⟩
      rw [hwritten, List.singleton_append, cellsFrom_cons (by decide) (by decide), scanFrom_space,
        hrest, htext, List.append_assoc, List.singleton_append]
    · obtain ⟨column', hcolumn', hread⟩ := scanFrom_escaped hspace gap acc
        (text.flatMap Writing.escaped ++ '"' :: rest) line hcolumn
      obtain ⟨column'', hrest⟩ := ih (rfl : Gap.isMultiline .none = false)
        (c :: (gap.text.reverse ++ acc)) hcolumn'
      refine ⟨column'', ?_⟩
      rw [hread, hrest]
      simp [Gap.text]

/-- A text between double quotes is read as it was. -/
theorem scan_double (text rest : List Char) (line : Nat) (hcolumn : 0 < column) :
    ∃ column', scan '"' (cellsFrom line column (text.flatMap Writing.escaped ++ '"' :: rest)) =
      some (String.ofList text, cellsFrom line column' rest) :=
  scanFrom_double text rfl [] hcolumn

end ControllerHost.Yaml.Quoted
