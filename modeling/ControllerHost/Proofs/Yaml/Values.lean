import ControllerHost.Proofs.Yaml.Block
import ControllerHost.Proofs.Yaml.Plain
import ControllerHost.Proofs.Yaml.Quoted
import ControllerHost.Yaml.Layout

/-!
# Values of a mapping

Whatever way a text is written in as the value of a key, the reader finds there one scalar, which
is the text, and goes on at the next line.

- `Yaml.Layout.inMapping`: a layout at a key or a value, with no tokens waiting.
- `Yaml.ReadsAs`: characters that are read as one scalar and the end of its line.
- `Yaml.ReadsAs.value`: a text as the value of a key.
-/

namespace ControllerHost.Yaml

open Writing (isPrintable)

namespace Layout

variable {layout : Layout} {more : List Char} {line column : Nat} {keyAllowed : Bool}

/-! ### Space between tokens -/

/-- In front of a token there is no space to skip. -/
theorem skipSpace_token {c : Char} (keyAllowed : Bool) (line column : Nat) (rest : List Char)
    (hc : isPrintable c) (hbreak : isBreak c = false) (hspace : c ≠ ' ') (hcomment : c ≠ '#') :
    skipSpace false keyAllowed false (cellsFrom line column (c :: rest)) =
      (keyAllowed, cellsFrom line column (c :: rest)) := by
  have htab : c ≠ '\t' := ne_of_holds hc (by decide)
  have hmark : c ≠ orderMark := ne_of_holds hc (by decide)
  rw [cellsFrom_cons hc hbreak, skipSpace]
  simp [hbreak, ne_endOfText_of_isPrintable hc, hcomment, hspace, htab, hmark]

/-- A blank before a value is skipped. -/
theorem skipSpace_space (after : Rest) :
    skipSpace false keyAllowed false (⟨' ', line, column⟩ :: after) =
      skipSpace false keyAllowed false after := by
  rw [skipSpace]
  simp [isBreak, endOfText]

/-- Neither is there at the beginning of a line. -/
theorem skipSpace_beginsLine (keyAllowed : Bool) (line column : Nat) (hmore : BeginsLine more) :
    skipSpace false keyAllowed false (cellsFrom line column more) =
      (keyAllowed, cellsFrom line column more) := by
  cases more with
  | nil => simp [cellsFrom_nil, skipSpace, isBreak, endOfText]
  | cons c more =>
    have hword : isPlainWord c := hmore c rfl
    exact skipSpace_token keyAllowed line column more (isPrintable_of_isPlainWord hword)
      (isBreak_of_isPlainWord hword) (ne_of_holds hword (by decide)) (ne_of_holds hword (by decide))

/-- After a line end a key can begin. -/
theorem skipSpace_lineEnd (hmore : BeginsLine more) :
    skipSpace false keyAllowed false (cellsFrom line column ('\n' :: more)) =
      (true, cellsFrom (line + 1) 0 more) := by
  rw [cellsFrom_break (by decide) (by decide), skipSpace, if_pos (by rfl), Bool.not_false,
    Bool.or_true, skipSpace_beginsLine true (line + 1) 0 hmore]

/-! ### What the first character of a token leads to -/

/-- A layout inside a mapping at the left, with no token waiting. -/
def inMapping (rest : Rest) (gone : Nat) (keyAllowed : Bool) : Layout :=
  { rest, started := true, gone, indent := 0, outer := [-1], keyAllowed }

/-- The styles of scalars between quotes, with their quotes. -/
inductive IsQuote : Char → ScalarStyle → Prop
  /-- Between single quotes. -/
  | single : IsQuote '\x27' .singleQuoted
  /-- Between double quotes. -/
  | double : IsQuote '"' .doubleQuoted

/-- A quote begins a quoted scalar. -/
theorem fetchHere?_quote {quote : Char} {style : ScalarStyle} (hquote : IsQuote quote style)
    (hcolumn : 0 < column) (after : Rest) (gone : Nat) :
    (inMapping (⟨quote, line, column⟩ :: after) gone false).fetchHere? =
      (inMapping (⟨quote, line, column⟩ :: after) gone false).fetchWord?
        (readQuoted quote style) := by
  have hmark : Rest.atDocumentMark (⟨quote, line, column⟩ :: after) = false :=
    Rest.atDocumentMark_of_column hcolumn
  cases hquote with
  | single => simp [fetchHere?, inMapping, hmark, endOfText]
  | double => simp [fetchHere?, inMapping, hmark, endOfText]

/-- A bar begins a literal block. -/
theorem fetchHere?_literal (hcolumn : 0 < column) (after : Rest) (gone : Nat) :
    (inMapping (⟨'|', line, column⟩ :: after) gone false).fetchHere? =
      (inMapping (⟨'|', line, column⟩ :: after) gone false).fetchBlock? true := by
  have hmark : Rest.atDocumentMark (⟨'|', line, column⟩ :: after) = false :=
    Rest.atDocumentMark_of_column hcolumn
  simp [fetchHere?, inMapping, inBrackets, hmark, endOfText]

/-- Whether a plain scalar begins with a character, given the one behind it. -/
structure BeginsPlain (c next : Char) : Prop where
  /-- It is no gap. -/
  solid : isGap c = false
  /-- It is no mark. -/
  unmarked : c ∉ "#,[]{}&*!|>\x27\"%@\x60".toList
  /-- It is no mark in front of a gap. -/
  leads : c = '-' ∨ c = '?' ∨ c = ':' → isGap next = false

/-- What begins a plain value to the writer begins one to the reader. -/
theorem beginsPlain_of_beginsPlain {rest : Rest} (hbegins : BeginsPlain rest.next (rest.peek 1)) :
    beginsPlain false rest := by
  obtain ⟨hsolid, hunmarked, hleads⟩ := hbegins
  unfold beginsPlain
  generalize rest.next = c at hsolid hunmarked hleads ⊢
  by_cases hlead : c = '-' ∨ c = '?' ∨ c = ':'
  · have hnext := hleads hlead
    have hblank : isBlank (rest.peek 1) = false := by
      simp only [isGap, Bool.or_eq_false_iff] at hnext
      exact hnext.1
    rcases hlead with rfl | rfl | rfl
    · simp [hblank]
    · simp [hnext]
    · simp [hnext]
  · rw [not_or, not_or] at hlead
    simp at hunmarked
    simp [hsolid, hlead, hunmarked]

/-- A plain scalar begins where no mark does. -/
theorem fetchHere?_plain (hbegins : BeginsPlain layout.rest.next (layout.rest.peek 1))
    (hmark : layout.rest.atDocumentMark = false) (hdepth : layout.depth = 0) :
    layout.fetchHere? = layout.fetchPlain? := by
  have hplain := beginsPlain_of_beginsPlain hbegins
  obtain ⟨hsolid, hunmarked, hleads⟩ := hbegins
  have hne {other : Char} (hother : other ∈ "#,[]{}&*!|>\x27\"%@\x60".toList) :
      layout.rest.next ≠ other := (ne_of_mem_of_not_mem hother hunmarked).symm
  have hend : layout.rest.next ≠ endOfText := by
    intro h
    rw [h] at hsolid
    exact absurd hsolid (by decide)
  have hlead {lead : Char} (hlead : lead = '-' ∨ lead = '?' ∨ lead = ':') :
      ¬(layout.rest.next = lead ∧ isGap (layout.rest.peek 1)) := by
    rintro ⟨rfl, hgap⟩
    exact Bool.noConfusion ((hleads hlead).symm.trans hgap)
  unfold fetchHere?
  simp only [inBrackets, hdepth]
  rw [if_neg hend, if_neg (by simp [hne (by decide : '%' ∈ _)]), if_neg (by simp [hmark])]
  -- one case for each mark, and one for everything else
  split <;> rename_i hfirst
  case h_11 =>
    rw [if_neg (by simpa using hlead (Or.inl rfl)),
      if_neg (by simpa using hlead (Or.inr (Or.inl rfl))),
      if_neg (by simpa using hlead (Or.inr (Or.inr rfl))),
      if_neg (by simp [hne (by decide : '|' ∈ _)]), if_neg (by simp [hne (by decide : '>' ∈ _)])]
    exact if_pos hplain
  all_goals exact absurd hfirst (hne (by decide))

/-- A plain scalar becomes one token, and a line's end behind it is remembered. -/
theorem fetchPlain?_inMapping {rest : Rest} {result : Plain.Result}
    (hscan : Plain.scan false 1 rest = some result) (gone : Nat) :
    (inMapping rest gone false).fetchPlain? =
      some ((inMapping result.rest gone result.lineEnded).push (.scalar result.text .plain)) := by
  simp [fetchPlain?, markCandidate?, inMapping, inBrackets, hscan]

/-- A word that is read becomes one token. -/
theorem fetchWord?_inMapping {rest after : Rest} {read : Rest → Option (Token × Rest)}
    {token : Token} (hread : read rest = some (token, after)) (gone : Nat) :
    (inMapping rest gone false).fetchWord? read =
      some ((inMapping after gone false).push token) := by
  simp [fetchWord?, markCandidate?, inMapping, hread]

/-- A literal block becomes one token and ends its line. -/
theorem fetchBlock?_inMapping {rest after : Rest} {text : String}
    (hscan : Block.scan? true 0 (rest.skip 1) = some (text, after)) (gone : Nat) :
    (inMapping rest gone false).fetchBlock? true =
      some ((inMapping after gone true).push (.scalar text .literal)) := by
  simp [fetchBlock?, dropCandidate?, candidate?, inMapping, hscan]

end Layout

/-- Characters that are read, wherever they stand inside a line of a mapping, as one scalar and the
end of its line. -/
structure ReadsAs (written : List Char) (text : String) (style : ScalarStyle) : Prop where
  /-- They are printable. -/
  printable : ∀ c ∈ written, isPrintable c
  /-- They begin with something that is neither space nor comment. -/
  begins : ∃ c rest, written = c :: rest ∧ isBreak c = false ∧ c ≠ ' ' ∧ c ≠ '#'
  /-- The scalar is read, and after it the next line is found. -/
  fetch {more : List Char} (gone line : Nat) {column : Nat} (hcolumn : 0 < column)
    (hmore : BeginsLine more) : ∃ rest keyAllowed line',
      (Layout.inMapping (cellsFrom line column (written ++ more)) gone false).fetchHere? =
          some ((Layout.inMapping rest gone keyAllowed).push (.scalar text style))
        ∧ Layout.skipSpace false keyAllowed false rest = (true, cellsFrom line' 0 more)

namespace ReadsAs

variable {text : List Char}

/-! ### Plain values -/

/-- A text that may be written plainly can stand inside a plain scalar throughout. -/
theorem isRunning_of_allowsPlain (hallows : Writing.allowsPlain text) : Plain.IsRunning text := by
  simp only [Writing.allowsPlain, Writing.allowsSingle, Bool.and_eq_true, Bool.not_eq_true',
    List.all_eq_true] at hallows
  obtain ⟨⟨⟨⟨⟨⟨hprintable, -⟩, -⟩, hbreak⟩, hloose⟩, -⟩, hends⟩ := hallows
  refine ⟨hprintable, ?_, hends, ?_⟩
  · simpa using hbreak
  · intro hlast
    simp [Writing.hasLooseEnds, hlast] at hloose

/-- A text that can be written plainly begins as a plain scalar does. -/
theorem beginsPlain_of_allowsPlain {c : Char} (hallows : Writing.allowsPlain (c :: text))
    (next : Char) :
    Layout.BeginsPlain c (text.headD next) ∧ c ≠ ' ' ∧ c ≠ '#' := by
  have hrunning := isRunning_of_allowsPlain hallows
  simp only [Writing.allowsPlain, Bool.and_eq_true, Bool.not_eq_true'] at hallows
  obtain ⟨⟨⟨-, hloose⟩, hmark⟩, hends⟩ := hallows
  have hspace : c ≠ ' ' := by
    rintro rfl
    simp [Writing.hasLooseEnds] at hloose
  have hsolid : isGap c = false := by
    have hc := hrunning.printable c (List.mem_cons_self ..)
    have hbreak := hrunning.unbroken c (List.mem_cons_self ..)
    have hblank : isBlank c = false := isBlank_of_isPrintable hc hspace
    simp [isGap, hblank, isBreakOrEnd_of_isPrintable hc, hbreak]
  -- the first character is no mark, and one that may be a mark is followed by no gap
  have hfirst : "#,[]{}&*!|>\x27\"%@\x60".toList.contains c = false
      ∧ ((c == '?' || c == '-') && isGap (text.headD endOfText)) = false := by
    unfold Writing.beginsAsMark at hmark
    split at hmark
    · contradiction
    · cases hmark
    · cases hmark
    · rename_i heq
      cases heq
      exact Bool.or_eq_false_iff.1 hmark
  rw [Writing.endsWithin_cons, Bool.or_eq_false_iff, Bool.or_eq_false_iff] at hends
  have hunmarked : c ∉ "#,[]{}&*!|>\x27\"%@\x60".toList := by
    simpa using hfirst.1
  refine ⟨⟨hsolid, hunmarked, fun hlead => ?_⟩, hspace, ?_⟩
  · -- the end of the text would be a gap
    have hnext : isGap (text.headD endOfText) = false := by
      rcases hlead with rfl | rfl | rfl
      · simpa using hfirst.2
      · simpa using hfirst.2
      · simpa using hends.1.1
    cases text with
    | nil => exact absurd hnext (by decide)
    | cons next others => exact hnext
  · rintro rfl
    exact hunmarked (by decide)

/-- A text that can be written plainly is read as it was. -/
theorem plain (hallows : Writing.allowsPlain text) (hsome : text ≠ []) :
    ReadsAs (text ++ ['\n']) (String.ofList text) .plain := by
  have hrunning := isRunning_of_allowsPlain hallows
  obtain ⟨c, rest, rfl⟩ := List.exists_cons_of_ne_nil hsome
  obtain ⟨hplain, hspace, hcomment⟩ := beginsPlain_of_allowsPlain hallows '\n'
  have hc := hrunning.printable c (List.mem_cons_self ..)
  have hbreak := hrunning.unbroken c (List.mem_cons_self ..)
  refine ⟨?_, ⟨c, rest ++ ['\n'], rfl, hbreak, hspace, hcomment⟩, ?_⟩
  · intro other hother
    rcases List.mem_append.1 hother with hother | hother
    · exact hrunning.printable other hother
    · rw [List.mem_singleton.1 hother]
      decide
  · intro more gone line column hcolumn hmore
    -- the scalar ends with its line, and the line behind it begins something else
    have hscan := Plain.scan_value hrunning line column hmore
    refine ⟨cellsFrom (line + 1) 0 more, true, line + 1, ?_,
      Layout.skipSpace_beginsLine true (line + 1) 0 hmore⟩
    have hbehind : Rest.next (cellsFrom line (column + 1) (rest ++ '\n' :: more)) =
        rest.headD '\n' := by
      rw [next_cellsFrom]
      · cases rest <;> rfl
      · cases rest with
        | nil => simp; decide
        | cons next others => simpa using hrunning.printable next (by simp)
    rw [List.append_assoc, List.singleton_append, Layout.fetchHere?_plain _ _ rfl,
      Layout.fetchPlain?_inMapping hscan]
    · rw [Layout.inMapping, List.cons_append, cellsFrom_cons hc hbreak]
      simpa [hbehind] using hplain
    · exact Rest.atDocumentMark_of_column (by simpa [Layout.inMapping] using hcolumn)

/-! ### Quoted values -/

/-- What is written between quotes is read as the text that the reader finds between them. -/
theorem quoted {quote : Char} {style : ScalarStyle} {written : List Char}
    (hquote : Layout.IsQuote quote style) (hwritten : ∀ c ∈ written, isPrintable c)
    (hscan : ∀ (more : List Char) (line : Nat) {column : Nat}, 0 < column →
      ∃ line' column', Quoted.scan quote
          (cellsFrom line column (written ++ quote :: '\n' :: more)) =
        some (String.ofList text, cellsFrom line' column' ('\n' :: more))) :
    ReadsAs (quote :: written ++ [quote, '\n']) (String.ofList text) style := by
  have hmark : isPrintable quote ∧ isBreak quote = false ∧ quote ≠ ' ' ∧ quote ≠ '#' := by
    cases hquote <;> decide
  refine ⟨?_, ⟨quote, _, rfl, hmark.2⟩, ?_⟩
  · rw [List.cons_append, List.forall_mem_cons, List.forall_mem_append, List.forall_mem_cons]
    exact ⟨hmark.1, hwritten, hmark.1, by simp; decide⟩
  · intro more gone line column hcolumn hmore
    obtain ⟨line', column', hread⟩ := hscan more line (Nat.succ_pos column)
    refine ⟨cellsFrom line' column' ('\n' :: more), false, line' + 1, ?_,
      Layout.skipSpace_lineEnd hmore⟩
    have hopening : cellsFrom line column (quote :: written ++ [quote, '\n'] ++ more) =
        ⟨quote, line, column⟩ :: cellsFrom line (column + 1)
          (written ++ quote :: '\n' :: more) := by
      rw [List.cons_append, List.cons_append, cellsFrom_cons hmark.1 hmark.2.1, List.append_assoc]
      rfl
    rw [hopening, Layout.fetchHere?_quote hquote hcolumn]
    apply Layout.fetchWord?_inMapping
    rw [Layout.readQuoted, Rest.skip_one, hread]
    rfl

/-- Single quotes keep a printable text printable. -/
theorem isPrintable_singleFrom (htext : ∀ c ∈ text, isPrintable c) (ended : Bool) :
    ∀ c ∈ Writing.singleFrom ended text, isPrintable c := by
  have hindent : ∀ c ∈ Writing.indent, isPrintable c := List.all_eq_true.1 (by decide)
  induction text generalizing ended with
  | nil =>
    rw [Writing.singleFrom]
    split
    · exact hindent
    · simp
  | cons first text ih =>
    rw [List.forall_mem_cons] at htext
    -- a quote is written twice, and everything else as it is
    have hwritten : ∀ c ∈ (if first = '\x27' then ['\x27', '\x27'] else [first]),
        isPrintable c := by
      split
      · exact List.all_eq_true.1 (by decide)
      · simpa using htext.1
    rw [Writing.singleFrom]
    split
    · split
      · rw [List.forall_mem_cons, List.forall_mem_cons]
        exact ⟨by decide, htext.1, ih htext.2 true⟩
      · rw [List.forall_mem_cons]
        exact ⟨htext.1, ih htext.2 true⟩
    · simp only
      split
      · rw [List.forall_mem_append, List.forall_mem_append]
        exact ⟨⟨hindent, hwritten⟩, ih htext.2 false⟩
      · rw [List.forall_mem_append]
        exact ⟨hwritten, ih htext.2 ended⟩

/-- A text that can be written between single quotes is read as it was. -/
theorem single (hallows : Writing.allowsSingle text) (hfeed : '\n' ∉ text) :
    ReadsAs ('\x27' :: Writing.singleFrom false text ++ ['\x27', '\n']) (String.ofList text)
      .singleQuoted := by
  simp only [Writing.allowsSingle, Bool.and_eq_true, Bool.not_eq_true', List.all_eq_true]
    at hallows
  obtain ⟨⟨hprintable, hbefore⟩, hafter⟩ := hallows
  have hfoldable : Quoted.IsFoldable text :=
    ⟨hprintable, fun c hc => ne_of_mem_of_not_mem hc hfeed, hbefore, hafter⟩
  refine quoted .single (isPrintable_singleFrom hprintable false) fun more line _ hcolumn => ?_
  apply Quoted.scan_single hfoldable line hcolumn
  intro line column
  have hfeed : '\n' ≠ '\x27' := by decide
  rwa [cellsFrom_break (by decide) (by decide), Rest.next_cons]

/-- An escape sequence is printable, whatever character it stands for. -/
theorem isPrintable_escaped (c : Char) : ∀ other ∈ Writing.escaped c, isPrintable other := by
  have hnumber {letter : Char} (hletter : isPrintable letter) (count : Nat) :
      ∀ other ∈ '\\' :: letter :: (Quoted.hex c.toNat count true).toList, isPrintable other := by
    rw [List.forall_mem_cons, List.forall_mem_cons]
    refine ⟨by decide, hletter, fun other hother => ?_⟩
    obtain ⟨digit, hdigit⟩ :=
      Numeral.exists_digit?_of_spelled? (Numeral.spelled?_hex c.toNat count) hother
    exact isPrintable_of_isPlainWord (Quoted.isPlainWord_of_digit? hdigit)
  unfold Writing.escaped
  split
  · rename_i hplain
    simp only [Bool.and_eq_true] at hplain
    simpa using hplain.1.1.1
  · split
    · rename_i letter hletter
      rw [List.forall_mem_cons, List.forall_mem_singleton]
      exact ⟨by decide, (Quoted.escape?_of_letter? hletter).2.1⟩
    · split
      · exact hnumber (by decide) 2
      · split
        · exact hnumber (by decide) 4
        · exact hnumber (by decide) 8

/-- Every text is read between double quotes as it was. -/
theorem double (text : List Char) :
    ReadsAs ('"' :: text.flatMap Writing.escaped ++ ['"', '\n']) (String.ofList text)
      .doubleQuoted := by
  refine quoted .double (fun c hc => ?_) fun more line _ hcolumn => ?_
  · obtain ⟨char, -, hc⟩ := List.mem_flatMap.1 hc
    exact isPrintable_escaped char c hc
  · obtain ⟨column', hread⟩ := Quoted.scan_double text ('\n' :: more) line hcolumn
    exact ⟨line, column', hread⟩

/-! ### Blocks -/

/-- A literal block keeps a printable text printable. -/
theorem isPrintable_blockFrom (htext : ∀ c ∈ text, isPrintable c) (begins : Bool) :
    ∀ c ∈ Writing.blockFrom begins text, isPrintable c := by
  have hindent : ∀ c ∈ Writing.indent, isPrintable c := List.all_eq_true.1 (by decide)
  induction text generalizing begins with
  | nil => simp [Writing.blockFrom]
  | cons first text ih =>
    rw [List.forall_mem_cons] at htext
    have hcons (begins : Bool) : ∀ c ∈ first :: Writing.blockFrom begins text, isPrintable c :=
      List.forall_mem_cons.2 ⟨htext.1, ih htext.2 begins⟩
    rw [Writing.blockFrom]
    split
    · exact hcons true
    · split
      · exact List.forall_mem_append.2 ⟨hindent, hcons false⟩
      · exact hcons false

/-- The marks of a block are printable. -/
theorem isPrintable_blockMarks (text : List Char) :
    ∀ c ∈ Writing.blockMarks text, isPrintable c := by
  rw [Block.blockMarks_eq, List.forall_mem_append]
  constructor
  · unfold Block.indentMark
    split
    · split <;> exact List.all_eq_true.1 (by decide)
    · simp
  · unfold Block.endMark
    repeat' split
    all_goals exact List.all_eq_true.1 (by decide)

/-- A text that can be written as a block is read as it was. -/
theorem literal (hallows : Writing.allowsBlock text) :
    ReadsAs ('|' :: Writing.blockMarks text ++ '\n' :: Writing.blockFrom true text
      ++ Block.lastEnd text) (String.ofList text) .literal := by
  have hprintable : ∀ c ∈ text, isPrintable c := by
    simp only [Writing.allowsBlock, Bool.and_eq_true, List.all_eq_true] at hallows
    exact hallows.1.1.2
  refine ⟨?_, ⟨'|', _, rfl, by decide, by decide, by decide⟩, ?_⟩
  · have hlast : ∀ c ∈ Block.lastEnd text, isPrintable c := by
      apply List.all_eq_true.1
      unfold Block.lastEnd
      split <;> decide
    rw [List.forall_mem_append, List.cons_append, List.forall_mem_cons, List.forall_mem_append,
      List.forall_mem_cons]
    exact ⟨⟨by decide, isPrintable_blockMarks text, by decide,
      isPrintable_blockFrom hprintable true⟩, hlast⟩
  · intro more gone line column hcolumn hmore
    obtain ⟨line', hscan⟩ := Block.scan_value hallows line (column + 1) hmore
    refine ⟨cellsFrom line' 0 more, true, line', ?_,
      Layout.skipSpace_beginsLine true line' 0 hmore⟩
    -- the bar comes first, and the rest is what the block reads
    have hopening : cellsFrom line column
        ('|' :: Writing.blockMarks text ++ '\n' :: Writing.blockFrom true text
          ++ Block.lastEnd text ++ more) =
        ⟨'|', line, column⟩ :: cellsFrom line (column + 1) (Writing.blockMarks text
          ++ '\n' :: (Writing.blockFrom true text ++ (Block.lastEnd text ++ more))) := by
      simp only [List.cons_append, List.append_assoc]
      rw [cellsFrom_cons (by decide) (by decide)]
    rw [hopening, Layout.fetchHere?_literal hcolumn]
    apply Layout.fetchBlock?_inMapping
    rw [Rest.skip_one, hscan]

/-! ### All values -/

/-- The style of a text, by whether it has a line's end and which styles allow it. -/
theorem style_eq (text : String) :
    Writing.style text =
      if '\n' ∈ text.toList then
        if Writing.allowsBlock text.toList then .literal else .doubleQuoted
      else if PlainValue.isAmbiguous text = false ∧ Writing.allowsPlain text.toList then .plain
      else if Writing.allowsSingle text.toList then .singleQuoted
      else .doubleQuoted := by
  simp [Writing.style]

/-- What a text has to be to be written in a style. -/
def Allows (text : String) : ScalarStyle → Prop
  | .plain => PlainValue.isAmbiguous text = false ∧ Writing.allowsPlain text.toList
  | .singleQuoted => '\n' ∉ text.toList ∧ Writing.allowsSingle text.toList
  | .doubleQuoted => True
  | .literal => Writing.allowsBlock text.toList
  | .folded => False

/-- A text can be written in the style that is chosen for it. -/
theorem allows_style (text : String) : Allows text (Writing.style text) := by
  rw [style_eq]
  repeat' split
  all_goals simp_all [Allows]

/-- A text as the value of a key is read as it was. -/
theorem value (text : String) :
    ReadsAs (Writing.value text).toList text (Writing.style text) := by
  have hallows := allows_style text
  rw [Writing.value, String.toList_ofList]
  cases hstyle : Writing.style text <;> rw [hstyle] at hallows
  case plain =>
    have hsome : text.toList ≠ [] := by
      intro hnil
      have hempty : text = "" := String.toList_eq_nil_iff.1 hnil
      simp [Allows, PlainValue.isAmbiguous, hempty] at hallows
    simpa using plain hallows.2 hsome
  case singleQuoted => simpa using single hallows.2 hallows.1
  case doubleQuoted => simpa using double text.toList
  case literal => simpa [Block.lastEnd] using literal hallows
  case folded => exact hallows.elim

/-- Words and numbers can be written plainly. -/
theorem allowsPlain_of_isPlainWord (htext : ∀ c ∈ text, isPlainWord c) :
    Writing.allowsPlain text := by
  have hprintable (c : Char) (hc : c ∈ text) : isPrintable c :=
    isPrintable_of_isPlainWord (htext c hc)
  have hbreak (c : Char) (hc : c ∈ text) : isBreak c = false :=
    isBreak_of_isPlainWord (htext c hc)
  have hne {c other : Char} (hc : c ∈ text) (hother : isPlainWord other = false) : c ≠ other :=
    ne_of_holds (htext c hc) hother
  -- no pair of neighbours begins with a character that means anything
  have hpairs {holds : Char × Char → Bool}
      (hword : ∀ c next, c ∈ text → holds (c, next) = false) :
      (Writing.neighbours text).any holds = false := by
    rw [List.any_eq_false]
    rintro ⟨c, next⟩ hpair
    rw [hword c next (List.of_mem_zip hpair).1]
    decide
  have hbefore : Writing.hasSpaceBeforeBreak text = false :=
    hpairs fun c _ hc => by simp [hne hc (by decide : isPlainWord ' ' = false)]
  have hafter : Writing.hasSpaceAfterBreak text = false :=
    hpairs fun c _ hc => by simp [hbreak c hc]
  have hends : Writing.endsWithin text = false :=
    hpairs fun c _ hc => by
      simp [hne hc (by decide : isPlainWord ':' = false), isGap_of_isPlainWord (htext c hc)]
  have hloose : Writing.hasLooseEnds text = false := by
    have htight (c : Char) (hc : c ∈ text) : (c == ' ' || isBreak c) = false := by
      simp [hne hc (by decide : isPlainWord ' ' = false), hbreak c hc]
    unfold Writing.hasLooseEnds
    rw [Bool.or_eq_false_iff]
    constructor
    · cases hhead : text.head? with
      | none => rfl
      | some c => exact htight c (List.mem_of_mem_head? hhead)
    · cases hlast : text.getLast? with
      | none => rfl
      | some c => exact htight c (List.mem_of_mem_getLast? hlast)
  have hmark : Writing.beginsAsMark text = false := by
    unfold Writing.beginsAsMark
    split
    · rfl
    · exact absurd rfl (hne (List.mem_cons_self ..) (by decide : isPlainWord '-' = false))
    · exact absurd rfl (hne (List.mem_cons_self ..) (by decide : isPlainWord '.' = false))
    · rename_i first rest _ _
      have hword := htext first (List.mem_cons_self ..)
      have hquestion : first ≠ '?' := ne_of_holds hword (by decide)
      have hdash : first ≠ '-' := ne_of_holds hword (by decide)
      have hunmarked : first ∉ "#,[]{}&*!|>\x27\"%@\x60".toList := by
        have hall : ("#,[]{}&*!|>\x27\"%@\x60".toList.all fun c => !isPlainWord c) := by decide
        intro hfirst
        simpa [hword] using List.all_eq_true.1 hall first hfirst
      rw [Bool.eq_false_iff.2 fun h => hunmarked (List.contains_iff_mem.1 h)]
      simp [hquestion, hdash]
  simpa [Writing.allowsPlain, Writing.allowsSingle, hbefore, hafter, hloose, hmark, hends]
    using And.intro hprintable hbreak

/-- Words and numbers are read as they were. -/
theorem word (htext : ∀ c ∈ text, isPlainWord c) (hsome : text ≠ []) :
    ReadsAs (text ++ ['\n']) (String.ofList text) .plain :=
  plain (allowsPlain_of_isPlainWord htext) hsome

end ReadsAs

end ControllerHost.Yaml
