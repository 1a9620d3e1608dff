import ControllerHost.Proofs.Yaml.Cells

/-!
# Reading plain scalars

A plain scalar has no marks around it. It ends in front of a colon and a gap, or with its line if
the next line is not indented. A text without such an end inside reads back as itself.

- `Yaml.Plain.IsRunning`: what a plain scalar on one line can hold.
- `Yaml.Plain.scan_key`: such a text in front of a colon.
- `Yaml.Plain.scan_value`: such a text at the end of a line.
-/

namespace ControllerHost.Yaml.Plain

open Writing (isPrintable)

variable {text rest more acc : List Char} {gap : Gap} {inBrackets : Bool} {indent : Int}
  {line column : Nat}

/-- What a plain scalar can hold up to its end. -/
structure IsRunning (text : List Char) : Prop where
  /-- It is printable. -/
  printable : ∀ c ∈ text, isPrintable c
  /-- It has one line. -/
  unbroken : ∀ c ∈ text, isBreak c = false
  /-- It has no end inside. -/
  endless : Writing.endsWithin text = false
  /-- It does not end with a space. -/
  tight : text.getLast? ≠ some ' '

theorem IsRunning.of_cons {c : Char} (htext : IsRunning (c :: text)) : IsRunning text where
  printable := (List.forall_mem_cons.1 htext.printable).2
  unbroken := (List.forall_mem_cons.1 htext.unbroken).2
  endless := by
    have hends := htext.endless
    rw [Writing.endsWithin_cons, Bool.or_eq_false_iff] at hends
    exact hends.2
  tight := by
    have htight := htext.tight
    cases text with
    | nil => simp
    | cons next rest => rwa [List.getLast?_cons_cons] at htight

/-! ### Steps of a reader -/

theorem scanFrom_space (after : Rest) :
    scanFrom inBrackets indent gap acc (⟨' ', line, column⟩ :: after) =
      scanFrom inBrackets indent (gap.addBlank ' ') acc after := by
  rw [scanFrom]
  simp [isBlank]

theorem scanFrom_break {c : Char} (hbreak : isBreak c) (after : Rest) :
    scanFrom inBrackets indent gap acc (⟨c, line, column⟩ :: after) =
      scanFrom inBrackets indent (gap.addBreak c) acc after := by
  rw [scanFrom]
  simp [hbreak, isBlank_of_isBreak hbreak]

/-- The scalar ends in front of what cannot belong to it. -/
theorem scanFrom_end {c : Char} {after : Rest} (hgap : isBlank c = false ∧ isBreak c = false)
    (hend : (gap ≠ .none ∧ stops false indent (⟨c, line, column⟩ :: after))
      ∨ ends false (⟨c, line, column⟩ :: after)) :
    scanFrom false indent gap acc (⟨c, line, column⟩ :: after) =
      some ⟨String.ofList acc.reverse, gap.isMultiline, ⟨c, line, column⟩ :: after⟩ := by
  rw [scanFrom]
  rcases hend with hend | hend
  · simp [hgap, hend]
  · simp [hgap, hend, isColonMisplaced]

/-- A character that belongs to the scalar goes to its text, with the gap in front of it. -/
theorem scanFrom_char {c : Char} {after : Rest} (hc : isPrintable c) (hspace : c ≠ ' ')
    (hbreak : isBreak c = false)
    (hstops : gap ≠ .none → stops false indent (⟨c, line, column⟩ :: after) = false)
    (hends : ends false (⟨c, line, column⟩ :: after) = false) :
    scanFrom false indent gap acc (⟨c, line, column⟩ :: after) =
      scanFrom false indent .none (c :: (gap.text.reverse ++ acc)) after := by
  have hblank : isBlank c = false := isBlank_of_isPrintable hc hspace
  rw [scanFrom]
  by_cases hgap : gap = .none
  · simp [hblank, hbreak, ne_endOfText_of_isPrintable hc, hgap, isColonMisplaced, hends]
  · simp [hblank, hbreak, ne_endOfText_of_isPrintable hc, hstops hgap, isColonMisplaced, hends]

/-! ### Whole texts -/

/-- What has been read of a plain scalar can go on with some text. -/
structure GoesOn (gap : Gap) (column : Nat) (text : List Char) : Prop where
  /-- Blanks are not at the beginning of a line, and no comment follows them. -/
  first : gap = .none ∨ 0 < column ∧ (∃ blanks, gap = .blanks blanks) ∧ text.head? ≠ some '#'
  /-- Blanks are not at the end. -/
  last : text = [] → gap = .none

theorem goesOn_none : GoesOn .none column text := ⟨Or.inl rfl, fun _ => rfl⟩

/-- After a space a running text goes on. -/
theorem GoesOn.space (hgap : GoesOn gap column (' ' :: text)) (htext : IsRunning (' ' :: text)) :
    GoesOn (gap.addBlank ' ') (column + 1) text
      ∧ (gap.addBlank ' ').text = gap.text ++ [' '] := by
  have hrest : text ≠ [] := by
    rintro rfl
    exact htext.tight rfl
  have hmark : text.head? ≠ some '#' := by
    have hends := htext.endless
    obtain ⟨next, others, rfl⟩ := List.exists_cons_of_ne_nil hrest
    rw [Writing.endsWithin_cons, Bool.or_eq_false_iff, Bool.or_eq_false_iff] at hends
    simpa [isGap, isBlank] using hends.1.2
  rcases hgap.first with rfl | ⟨-, ⟨blanks, rfl⟩, -⟩
  · exact ⟨⟨Or.inr ⟨Nat.succ_pos column, ⟨_, rfl⟩, hmark⟩, fun hnil => absurd hnil hrest⟩, rfl⟩
  · exact ⟨⟨Or.inr ⟨Nat.succ_pos column, ⟨_, rfl⟩, hmark⟩, fun hnil => absurd hnil hrest⟩, rfl⟩

theorem GoesOn.stops_eq_false {c : Char} {after : Rest} (hgap : GoesOn gap column (c :: text))
    (hindent : indent ≤ 1) (hsome : gap ≠ .none) :
    stops false indent (⟨c, line, column⟩ :: after) = false := by
  obtain ⟨hcolumn, -, hmark⟩ := hgap.first.resolve_left hsome
  have hreached : ¬(column : Int) < indent := by omega
  have hnumber : c ≠ '#' := by simpa using hmark
  have hdocument : Rest.atDocumentMark (⟨c, line, column⟩ :: after) = false :=
    Rest.atDocumentMark_of_column hcolumn
  simp [stops, hreached, hdocument, hnumber]

/-- There is no end in front of a character of a running text. -/
theorem IsRunning.ends_eq_false {c : Char} (htext : IsRunning (c :: text)) :
    ends false (⟨c, line, column⟩ :: cellsFrom line (column + 1) (text ++ rest)) = false := by
  by_cases hcolon : c = ':'
  · have hends := htext.endless
    rw [Writing.endsWithin_cons, Bool.or_eq_false_iff, Bool.or_eq_false_iff, hcolon] at hends
    have hnext : isGap (text.headD endOfText) = false := by simpa using hends.1.1
    -- the end of the text would be a gap, so there is a character
    obtain ⟨next, others, rfl⟩ : ∃ next others, text = next :: others := by
      cases text with
      | nil => exact absurd hnext (by decide)
      | cons next others => exact ⟨next, others, rfl⟩
    have hprintable := htext.of_cons.printable next (List.mem_cons_self ..)
    have hpeek : Rest.next (cellsFrom line (column + 1) (next :: (others ++ rest))) = next :=
      next_cellsFrom (by simpa using hprintable)
    have hgap : isGap next = false := hnext
    simp [ends, hpeek, hgap]
  · simp [ends, hcolon]

/-- The text of a plain scalar is read up to its end. -/
theorem scanFrom_append (htext : IsRunning text) (hgap : GoesOn gap column text)
    (hindent : indent ≤ 1) :
    scanFrom false indent gap acc (cellsFrom line column (text ++ rest)) =
      scanFrom false indent .none (text.reverse ++ (gap.text.reverse ++ acc))
        (cellsFrom line (column + text.length) rest) := by
  -- a space is read into the gap, and what follows it brings the gap into the text
  induction text generalizing gap acc column with
  | nil =>
    rw [hgap.last rfl]
    rfl
  | cons c text ih =>
    have hc := htext.printable c (List.mem_cons_self ..)
    have hbreak := htext.unbroken c (List.mem_cons_self ..)
    have hlength : column + (c :: text).length = column + 1 + text.length := by
      simp only [List.length_cons]
      omega
    rw [List.cons_append, cellsFrom_cons hc hbreak, hlength, List.reverse_cons, List.append_assoc]
    by_cases hspace : c = ' '
    · subst hspace
      obtain ⟨hafter, hblanks⟩ := hgap.space htext
      rw [scanFrom_space, ih htext.of_cons hafter, hblanks, List.reverse_append, List.append_assoc]
      rfl
    · rw [scanFrom_char hc hspace hbreak (hgap.stops_eq_false hindent) htext.ends_eq_false,
        ih htext.of_cons goesOn_none]
      rfl

/-- A name in front of a colon is read as a plain scalar. -/
theorem scan_key (htext : IsRunning text) (hindent : indent ≤ 1) (line column : Nat)
    (more : List Char) :
    scan false indent (cellsFrom line column (text ++ ':' :: ' ' :: more)) =
      some ⟨String.ofList text, false,
        cellsFrom line (column + text.length) (':' :: ' ' :: more)⟩ := by
  rw [scan, scanFrom_append htext goesOn_none hindent, cellsFrom_cons (by decide) (by decide),
    cellsFrom_cons (by decide) (by decide), scanFrom_end ⟨by decide, by decide⟩ (Or.inr (by rfl))]
  simp [Gap.text, Gap.isMultiline]

/-- A text at the end of a line is read as a plain scalar, up to the next line. -/
theorem scan_value (htext : IsRunning text) (line column : Nat) (hmore : BeginsLine more) :
    scan false 1 (cellsFrom line column (text ++ '\n' :: more)) =
      some ⟨String.ofList text, true, cellsFrom (line + 1) 0 more⟩ := by
  rw [scan, scanFrom_append htext goesOn_none (Int.le_refl 1),
    cellsFrom_break (by decide) (by decide), scanFrom_break (by decide)]
  cases more with
  | nil => simp [cellsFrom_nil, scanFrom, isBlank, isBreak, endOfText, Gap.text, Gap.addBreak,
      Gap.isMultiline]
  | cons c more =>
    -- at the beginning of a line there is no more of the scalar
    have hword : isPlainWord c := hmore c rfl
    rw [cellsFrom_cons (isPrintable_of_isPlainWord hword) (isBreak_of_isPlainWord hword),
      scanFrom_end ⟨isBlank_of_isPlainWord hword, isBreak_of_isPlainWord hword⟩
        (Or.inl ⟨by simp [Gap.addBreak], by simp [stops]⟩)]
    simp [Gap.addBreak, Gap.isMultiline, Gap.text]

end ControllerHost.Yaml.Plain
