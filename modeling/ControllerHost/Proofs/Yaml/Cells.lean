import ControllerHost.Yaml.Cell
import ControllerHost.Yaml.Writing

/-!
# The cells of a written text

Only printable characters are written as they are. These are allowed in a text, and line ends among
them are not unified with others, so the cells of a printable text show its characters one by one.

- `Yaml.cells?_of_isPrintable`: a printable text has cells.
- `Yaml.cellsFrom_cons`, `Yaml.cellsFrom_break`: the cells of a text with one character more.
- `Yaml.next_cellsFrom`: the next character of what is left of a text.
- `Yaml.isPlainWord`: characters that never have a meaning of their own.
-/

namespace ControllerHost.Yaml

open Writing (isPrintable)

variable {c : Char} {line column : Nat} {text : List Char}

/-! ### Printable characters -/

/-- A character of a class is none of those that are not in it. -/
theorem ne_of_holds {holds : Char → Bool} (hc : holds c) {other : Char}
    (hother : holds other = false) : c ≠ other := by
  rintro rfl
  exact Bool.noConfusion (hc.symm.trans hother)

/-- The mark for the end of a text is not printable. -/
theorem ne_endOfText_of_isPrintable (hc : isPrintable c) : c ≠ endOfText :=
  ne_of_holds hc (by decide)

/-- A printable character may stand in a document. -/
theorem isAllowed_of_isPrintable (hc : isPrintable c) : isAllowed c := by
  simp only [isPrintable, Bool.or_eq_true, Bool.and_eq_true] at hc
  simp only [isAllowed, Bool.or_eq_true, Bool.and_eq_true]
  rcases hc with ((hbreak | hlow) | hmiddle) | hhigh
  · simp [hbreak]
  · simp [hlow]
  · simp [hmiddle]
  · simp [hhigh]

/-- The only blank that is printable is the space. -/
theorem isBlank_of_isPrintable (hc : isPrintable c) (hspace : c ≠ ' ') : isBlank c = false := by
  have htab : c ≠ '\t' := ne_of_holds hc (by decide)
  simp [isBlank, hspace, htab]

/-- A line's end is no blank. -/
theorem isBlank_of_isBreak (hc : isBreak c) : isBlank c = false := by
  have hspace : c ≠ ' ' := ne_of_holds hc (by decide)
  have htab : c ≠ '\t' := ne_of_holds hc (by decide)
  simp [isBlank, hspace, htab]

/-- Among printable characters only a line's end ends a line. -/
theorem isBreakOrEnd_of_isPrintable (hc : isPrintable c) : isBreakOrEnd c = isBreak c := by
  simp [isBreakOrEnd, ne_endOfText_of_isPrintable hc]

/-- Whether a character can stand in a name or a number. -/
def isPlainWord (c : Char) : Bool :=
  c.isDigit || ('A' ≤ c && c ≤ 'Z') || ('a' ≤ c && c ≤ 'z') || c == '_'

/-- The characters of plain words are printable. -/
theorem isPrintable_of_isPlainWord (hc : isPlainWord c) : isPrintable c := by
  have hrange : '\x20' ≤ c ∧ c ≤ '\x7E' := by
    simp only [isPlainWord, Char.isDigit, Bool.or_eq_true, Bool.and_eq_true, decide_eq_true_eq,
      beq_iff_eq] at hc
    rcases hc with ((hdigit | hcapital) | hsmall) | rfl
    · exact ⟨Nat.le_trans (by decide) hdigit.1, Nat.le_trans hdigit.2 (by decide)⟩
    · exact ⟨Char.le_trans (by decide) hcapital.1, Char.le_trans hcapital.2 (by decide)⟩
    · exact ⟨Char.le_trans (by decide) hsmall.1, Char.le_trans hsmall.2 (by decide)⟩
    · decide
  simp [isPrintable, hrange]

theorem isBlank_of_isPlainWord (hc : isPlainWord c) : isBlank c = false :=
  isBlank_of_isPrintable (isPrintable_of_isPlainWord hc) (ne_of_holds hc (by decide))

/-- No character of a plain word ends a line. -/
theorem isBreak_of_isPlainWord (hc : isPlainWord c) : isBreak c = false := by
  have hfeed : c ≠ '\n' := ne_of_holds hc (by decide)
  have hreturn : c ≠ '\r' := ne_of_holds hc (by decide)
  have hnextLine : c ≠ '\u0085' := ne_of_holds hc (by decide)
  have hline : c ≠ '\u2028' := ne_of_holds hc (by decide)
  have hparagraph : c ≠ '\u2029' := ne_of_holds hc (by decide)
  simp [isBreak, hfeed, hreturn, hnextLine, hline, hparagraph]

/-- No character of a plain word separates words. -/
theorem isGap_of_isPlainWord (hc : isPlainWord c) : isGap c = false := by
  have hend : c ≠ endOfText := ne_of_holds hc (by decide)
  simp [isGap, isBreakOrEnd, isBlank_of_isPlainWord hc, isBreak_of_isPlainWord hc, hend]

/-! ### Cells -/

theorem cellsFrom_nil : cellsFrom line column [] = [⟨endOfText, line, column⟩] := rfl

/-- The cells of a text begin with its first character, and a line's end starts a line. -/
theorem cellsFrom_eq (hc : isPrintable c) :
    cellsFrom line column (c :: text) = ⟨c, line, column⟩ ::
      if isBreak c then cellsFrom (line + 1) 0 text else cellsFrom line (column + 1) text := by
  have hreturn : c ≠ '\r' := ne_of_holds hc (by decide)
  have hnextLine : c ≠ '\u0085' := ne_of_holds hc (by decide)
  rw [cellsFrom.eq_def]
  split
  · contradiction
  · simp_all
  · simp_all
    split <;> rfl

/-- The cells of a text with one character more in front, which does not end the line. -/
theorem cellsFrom_cons (hc : isPrintable c) (hbreak : isBreak c = false) :
    cellsFrom line column (c :: text) = ⟨c, line, column⟩ :: cellsFrom line (column + 1) text := by
  simp [cellsFrom_eq hc, hbreak]

/-- The cells of a text with one line end more in front. -/
theorem cellsFrom_break (hc : isPrintable c) (hbreak : isBreak c) :
    cellsFrom line column (c :: text) = ⟨c, line, column⟩ :: cellsFrom (line + 1) 0 text := by
  simp [cellsFrom_eq hc, hbreak]

/-- A text has one cell for each character and one for its end. -/
theorem length_cellsFrom (htext : ∀ c ∈ text, isPrintable c) (line column : Nat) :
    (cellsFrom line column text).length = text.length + 1 := by
  induction text generalizing line column with
  | nil => rfl
  | cons c rest ih =>
    rw [List.forall_mem_cons] at htext
    rw [cellsFrom_eq htext.1]
    split <;> simp [ih htext.2]

/-- A printable text has its cells from the first line and column. -/
theorem cells?_of_isPrintable {text : String} (htext : ∀ c ∈ text.toList, isPrintable c) :
    cells? text = some (cellsFrom 0 0 text.toList) :=
  if_pos (List.all_eq_true.2 fun c hc => isAllowed_of_isPrintable (htext c hc))

/-! ### What is next -/

@[simp]
theorem Rest.next_cons (cell : Cell) (rest : Rest) : Rest.next (cell :: rest) = cell.char := rfl

@[simp]
theorem Rest.peek_zero (rest : Rest) : rest.peek 0 = rest.next := rfl

@[simp]
theorem Rest.peek_succ (cell : Cell) (rest : Rest) (distance : Nat) :
    Rest.peek (cell :: rest) (distance + 1) = Rest.peek rest distance := rfl

@[simp]
theorem Rest.skip_one (cell : Cell) (rest : Rest) : Rest.skip (cell :: rest) 1 = rest := rfl

@[simp]
theorem Rest.column_cons (cell : Cell) (rest : Rest) :
    Rest.column (cell :: rest) = cell.column := rfl

@[simp]
theorem Rest.line_cons (cell : Cell) (rest : Rest) : Rest.line (cell :: rest) = cell.line := rfl

/-- The cells of a text start in the column that is given. -/
@[simp]
theorem Rest.column_cellsFrom (line column : Nat) (text : List Char) :
    Rest.column (cellsFrom line column text) = column := by
  rw [cellsFrom.eq_def]
  split
  · rfl
  · rfl
  · split
    · rfl
    · split <;> rfl

/-- The cells of a text start on the line that is given. -/
@[simp]
theorem Rest.line_cellsFrom (line column : Nat) (text : List Char) :
    Rest.line (cellsFrom line column text) = line := by
  rw [cellsFrom.eq_def]
  split
  · rfl
  · rfl
  · split
    · rfl
    · split <;> rfl

/-- The next character of what is left of a printable text. -/
theorem next_cellsFrom (htext : ∀ c ∈ text.head?, isPrintable c) :
    Rest.next (cellsFrom line column text) = text.headD endOfText := by
  cases text with
  | nil => rfl
  | cons c rest => rw [cellsFrom_eq (htext c rfl), Rest.next_cons, List.headD_cons]

/-- What follows a line: another line that begins with a name, or nothing. -/
def BeginsLine (more : List Char) : Prop := ∀ c ∈ more.head?, isPlainWord c

/-- There are no document marks inside a line. -/
theorem Rest.atDocumentMark_of_column {rest : Rest} (hrest : 0 < rest.column) :
    rest.atDocumentMark = false := by
  have hcolumn : rest.column ≠ 0 := by omega
  simp [Rest.atDocumentMark, hcolumn]

/-! ### Neighbours -/

namespace Writing

variable {c : Char} {text : List Char}

theorem neighbours_cons (c : Char) (text : List Char) :
    neighbours (c :: text) = (c, text.headD endOfText) :: neighbours text := by
  cases text <;> rfl

/-- Whether a blank stands before a line's end, by the first character and the rest. -/
theorem hasSpaceBeforeBreak_cons :
    hasSpaceBeforeBreak (c :: text) =
      ((c == ' ' && isBreak (text.headD endOfText)) || hasSpaceBeforeBreak text) := by
  rw [hasSpaceBeforeBreak, neighbours_cons]
  rfl

/-- Whether a blank stands behind a line's end, by the first character and the rest. -/
theorem hasSpaceAfterBreak_cons :
    hasSpaceAfterBreak (c :: text) =
      ((isBreak c && text.headD endOfText == ' ') || hasSpaceAfterBreak text) := by
  rw [hasSpaceAfterBreak, neighbours_cons]
  rfl

/-- Whether a plain scalar would end inside the text, by the first character and the rest. -/
theorem endsWithin_cons :
    endsWithin (c :: text) =
      ((c == ':' && isGap (text.headD endOfText) || isGap c && text.headD endOfText == '#')
        || endsWithin text) := by
  rw [endsWithin, neighbours_cons]
  rfl

end Writing

end ControllerHost.Yaml
