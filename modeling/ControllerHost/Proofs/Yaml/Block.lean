import ControllerHost.Proofs.Yaml.Cells

/-!
# Reading blocks

A block keeps its lines as they are, each behind two spaces. Its marks say how far it is indented,
if that cannot be seen, and what becomes of the line ends behind its last word. With the marks that
are written, a text reads back as it was.

- `Yaml.Block.scanFrom_blockFrom`: the lines of a block up to its last word.
- `Yaml.Block.scanFrom_ends`: the line ends behind it.
- `Yaml.Block.scan_value`: a text that is written as a block.
-/

namespace ControllerHost.Yaml.Block

open Writing (isPrintable)

variable {text body ends more rest : List Char} {c : Char} {chomping : Chomping} {outer : Int}
  {state : State} {line column : Nat}

/-! ### Steps of a reader -/

/-- A character of a block's line joins its text. -/
theorem scanFrom_text (hline : state.inLine) (hc : isPrintable c) (hbreak : isBreak c = false)
    (after : Rest) :
    scanFrom true chomping outer state (⟨c, line, column⟩ :: after) =
      scanFrom true chomping outer { state with text := c :: state.text } after := by
  rw [scanFrom]
  simp [hline, isBreakOrEnd_of_isPrintable hc, hbreak]

/-- A line's end closes the line it stands in. -/
theorem scanFrom_lineEnd (hline : state.inLine) (hbreak : isBreak c) (after : Rest) :
    scanFrom true chomping outer state (⟨c, line, column⟩ :: after) =
      scanFrom true chomping outer { state with inLine := false, lineEnd? := some c } after := by
  rw [scanFrom]
  simp [hline, isBreakOrEnd, hbreak]

/-- The blanks of the indent are skipped. -/
theorem scanFrom_leading (hline : state.inLine = false) (hcolumn : state.isLeading column)
    (after : Rest) :
    scanFrom true chomping outer state (⟨' ', line, column⟩ :: after) =
      scanFrom true chomping outer state after := by
  rw [scanFrom]
  simp [hline, hcolumn]

/-- An empty line is kept for what comes behind it. -/
theorem scanFrom_empty (hline : state.inLine = false) (hbreak : isBreak c) (after : Rest) :
    scanFrom true chomping outer state (⟨c, line, 0⟩ :: after) =
      scanFrom true chomping outer { state with emptyLines := state.emptyLines ++ [c] } after := by
  have hspace : c ≠ ' ' := ne_of_holds hbreak (by decide)
  have htab : c ≠ '\t' := ne_of_holds hbreak (by decide)
  rw [scanFrom]
  simp [hline, hspace, htab, hbreak]

/-- Where a reader of a block at the top can be in front of some text, which is indented by two
spaces: inside a line, or at the beginning of one. The indentation is known, or the text shows
it. -/
structure State.GoesOn (state : State) (column : Nat) (text : List Char) : Prop where
  /-- No line has reached further than the lines of the block do. -/
  widest : state.widest ≤ 2
  /-- The indentation is known, but perhaps in front of the first line. -/
  indent : state.indent? = some 2
    ∨ state.inLine = false ∧ state.indent? = none ∧ ∀ c ∈ text.head?, c ≠ ' ' ∧ isBreak c = false
  /-- A line begins at the left. -/
  begins : state.inLine = false → column = 0
  /-- Inside a line the line ends in front of it are part of the text. -/
  inside : state.inLine → state.lineEnd? = none ∧ state.emptyLines = []

/-- Inside a line the indentation is known. -/
theorem State.GoesOn.indent_of_inLine (hstate : state.GoesOn column text) (hline : state.inLine) :
    state.indent? = some 2 :=
  hstate.indent.resolve_right fun h => Bool.noConfusion (h.1.symm.trans hline)

/-- What has been read, with the line ends behind the last word. -/
def State.read (state : State) : List Char :=
  state.text.reverse ++ (state.lineEnd?.toList ++ state.emptyLines)

/-- The first character of a line, behind two spaces. -/
theorem scanFrom_begin (chomping : Chomping) (line : Nat) (rest : List Char)
    (hline : state.inLine = false) (hstate : state.GoesOn column (c :: text)) (hc : isPrintable c)
    (hbreak : isBreak c = false) :
    ∃ state', scanFrom true chomping 0 state
        (cellsFrom line column (Writing.indent ++ c :: rest)) =
          scanFrom true chomping 0 state' (cellsFrom line 3 rest)
      ∧ state'.GoesOn 3 text ∧ state'.inLine ∧ state'.read = state.read ++ [c] := by
  obtain rfl := hstate.begins hline
  have hleading {column : Nat} (hcolumn : column < 2) : state.isLeading column := by
    rcases hstate.indent with hindent | ⟨-, hindent, -⟩
    · simpa [State.isLeading, hindent] using hcolumn
    · simp [State.isLeading, hindent]
  have hword : ¬(state.isLeading 2 ∧ c = ' ') := by
    rintro ⟨hleading, hspace⟩
    rcases hstate.indent with hindent | ⟨-, -, htext⟩
    · simp [State.isLeading, hindent] at hleading
    · exact (htext c rfl).1 hspace
  have htab : c ≠ '\t' := ne_of_holds hc (by decide)
  have hwidest : max state.widest 2 = 2 := Nat.max_eq_right hstate.widest
  have hindent : state.indent?.getD 2 = 2 := by
    rcases hstate.indent with hindent | ⟨-, hindent, -⟩ <;> simp [hindent]
  refine ⟨({ state with widest := 2, indent? := some 2 } : State).beginLine true c, ?_, ?_, rfl, ?_⟩
  · rw [Writing.indent, List.cons_append, List.cons_append, List.nil_append,
      cellsFrom_cons (by decide) (by decide), scanFrom_leading hline (hleading (by decide)),
      cellsFrom_cons (by decide) (by decide), scanFrom_leading hline (hleading (by decide)),
      cellsFrom_cons hc hbreak, scanFrom]
    simp [hline, hword, htab, hbreak, hwidest, hindent, ne_endOfText_of_isPrintable hc,
      State.beginLine]
  · exact ⟨Nat.le_refl 2, Or.inl rfl, fun h => Bool.noConfusion h, fun _ => ⟨rfl, rfl⟩⟩
  · simp [State.beginLine, State.read]

/-- A character inside a line. -/
theorem scanFrom_word (chomping : Chomping) (line : Nat) (rest : List Char) (hline : state.inLine)
    (hstate : state.GoesOn column (c :: text)) (hc : isPrintable c) (hbreak : isBreak c = false) :
    ∃ state', scanFrom true chomping 0 state (cellsFrom line column (c :: rest)) =
        scanFrom true chomping 0 state' (cellsFrom line (column + 1) rest)
      ∧ state'.GoesOn (column + 1) text ∧ state'.inLine ∧ state'.read = state.read ++ [c] := by
  obtain ⟨hend, hempty⟩ := hstate.inside hline
  have hindent := hstate.indent_of_inLine hline
  rw [cellsFrom_cons hc hbreak]
  exact ⟨_, scanFrom_text hline hc hbreak _,
    ⟨hstate.widest, Or.inl hindent, fun h => Bool.noConfusion (h.symm.trans hline), hstate.inside⟩,
    hline, by simp [State.read, hend, hempty]⟩

/-- A line end goes behind the last word, or behind the line ends there. -/
theorem scanFrom_break (chomping : Chomping) (line : Nat) (rest : List Char)
    (hstate : state.GoesOn column (c :: text)) (hc : isPrintable c) (hbreak : isBreak c) :
    ∃ state', scanFrom true chomping 0 state (cellsFrom line column (c :: rest)) =
        scanFrom true chomping 0 state' (cellsFrom (line + 1) 0 rest)
      ∧ state'.GoesOn 0 text ∧ state'.inLine = false ∧ state'.read = state.read ++ [c] := by
  have hindent : state.indent? = some 2 := hstate.indent.resolve_right fun h =>
    Bool.noConfusion ((h.2.2 c rfl).2.symm.trans hbreak)
  rw [cellsFrom_break hc hbreak]
  cases hline : state.inLine with
  | true =>
    obtain ⟨hend, hempty⟩ := hstate.inside hline
    exact ⟨_, scanFrom_lineEnd hline hbreak _,
      ⟨hstate.widest, Or.inl hindent, fun _ => rfl, fun h => Bool.noConfusion h⟩, rfl,
      by simp [State.read, hend, hempty]⟩
  | false =>
    obtain rfl := hstate.begins hline
    exact ⟨_, scanFrom_empty hline hbreak _,
      ⟨hstate.widest, Or.inl hindent, fun _ => rfl, fun h => Bool.noConfusion (hline.symm.trans h)⟩,
      hline, by simp [State.read]⟩

/-! ### Words and line ends -/

/-- The lines of a block are read up to the last word. -/
theorem scanFrom_blockFrom (chomping : Chomping) (line : Nat) (rest : List Char)
    (hbody : ∀ c ∈ body, isPrintable c)
    (hlast : ∀ c ∈ body.getLast?, isBreak c = false) (hline : body = [] → state.inLine)
    (hstate : state.GoesOn column body) :
    ∃ state' line' column', scanFrom true chomping 0 state
        (cellsFrom line column (Writing.blockFrom (!state.inLine) body ++ rest)) =
          scanFrom true chomping 0 state' (cellsFrom line' column' rest)
      ∧ state'.GoesOn column' [] ∧ state'.inLine ∧ state'.read = state.read ++ body := by
  induction body generalizing state line column with
  | nil => exact ⟨state, line, column, rfl, hstate, hline rfl, by simp⟩
  | cons c body ih =>
    rw [List.forall_mem_cons] at hbody
    obtain ⟨hc, hbody⟩ := hbody
    have hlast' : ∀ c ∈ body.getLast?, isBreak c = false := by
      cases body with
      | nil => simp
      | cons next others => rwa [List.getLast?_cons_cons] at hlast
    -- each character goes to a state that has read it, and the others follow by induction
    have hstep (line' : Nat) {state' : State} {column' : Nat} {written : List Char}
        (hread : scanFrom true chomping 0 state (cellsFrom line column (written ++ rest)) =
          scanFrom true chomping 0 state'
            (cellsFrom line' column' (Writing.blockFrom (!state'.inLine) body ++ rest)))
        (hstate' : state'.GoesOn column' body) (hline' : body = [] → state'.inLine)
        (htext : state'.read = state.read ++ [c]) :
        ∃ state'' line'' column'', scanFrom true chomping 0 state
            (cellsFrom line column (written ++ rest)) =
              scanFrom true chomping 0 state'' (cellsFrom line'' column'' rest)
          ∧ state''.GoesOn column'' [] ∧ state''.inLine
          ∧ state''.read = state.read ++ c :: body := by
      obtain ⟨state'', line'', column'', hread', hstate'', hline'', htext'⟩ :=
        ih line' hbody hlast' hline' hstate'
      exact ⟨state'', line'', column'', hread.trans hread', hstate'', hline'', by
        rw [htext', htext, List.append_assoc, List.singleton_append]⟩
    rw [Writing.blockFrom]
    by_cases hbreak : isBreak c
    · obtain ⟨state', hread, hstate', hline', htext⟩ := scanFrom_break chomping line
        (Writing.blockFrom true body ++ rest) hstate hc hbreak
      rw [if_pos hbreak]
      refine hstep (line + 1) (by rw [hline']; exact hread) hstate' ?_ htext
      rintro rfl
      exact Bool.noConfusion ((hlast c rfl).symm.trans hbreak)
    have hbreak' : isBreak c = false := Bool.eq_false_iff.2 hbreak
    rw [if_neg hbreak]
    cases hinside : state.inLine with
    | true =>
      obtain ⟨state', hread, hstate', hline', htext⟩ := scanFrom_word chomping line
        (Writing.blockFrom false body ++ rest) hinside hstate hc hbreak'
      refine hstep line ?_ hstate' (fun _ => hline') htext
      rw [if_neg (by simp), hline', List.cons_append]
      exact hread
    | false =>
      obtain ⟨state', hread, hstate', hline', htext⟩ := scanFrom_begin chomping line
        (Writing.blockFrom false body ++ rest) hinside hstate hc hbreak'
      refine hstep line ?_ hstate' (fun _ => hline') htext
      rw [if_pos (by simp), hline', List.append_assoc, List.cons_append]
      exact hread

/-- The line ends behind the last word are read. -/
theorem scanFrom_ends (chomping : Chomping) (line : Nat) (rest : List Char)
    (hends : ∀ c ∈ ends, isPrintable c ∧ isBreak c)
    (hstate : state.GoesOn column ends) (hline : ends = [] → state.inLine = false) :
    ∃ state' line', scanFrom true chomping 0 state (cellsFrom line column (ends ++ rest)) =
        scanFrom true chomping 0 state' (cellsFrom line' 0 rest)
      ∧ state'.GoesOn 0 [] ∧ state'.inLine = false ∧ state'.read = state.read ++ ends := by
  induction ends generalizing state line column with
  | nil =>
    obtain rfl := hstate.begins (hline rfl)
    exact ⟨state, line, rfl, hstate, hline rfl, by simp⟩
  | cons c ends ih =>
    rw [List.forall_mem_cons] at hends
    obtain ⟨⟨hc, hbreak⟩, hends⟩ := hends
    obtain ⟨state', hread, hstate', hline', htext⟩ := scanFrom_break chomping line
      (ends ++ rest) hstate hc hbreak
    obtain ⟨state'', line'', hread', hstate'', hline'', htext'⟩ :=
      ih (line + 1) hends hstate' fun _ => hline'
    refine ⟨state'', line'', hread.trans hread', hstate'', hline'', ?_⟩
    rw [htext', htext, List.append_assoc, List.singleton_append]

/-- A block ends in front of a line that is not indented. -/
theorem scanFrom_stop (hline : state.inLine = false) (hstate : state.GoesOn 0 text)
    (hmore : BeginsLine more) :
    scanFrom true chomping 0 state (cellsFrom line 0 more) =
      some (state.finish chomping, cellsFrom line 0 more) := by
  have hindent : (0 : Nat) ≠ state.indent?.getD (max state.widest 1) := by
    rcases hstate.indent with hindent | ⟨-, hindent, -⟩
    · simp [hindent]
    · rw [hindent, Option.getD_none]
      omega
  cases more with
  | nil =>
    rw [cellsFrom_nil, scanFrom]
    simp [hline, isBreak, endOfText, State.finish]
  | cons c more =>
    have hword : isPlainWord c := hmore c rfl
    have hspace : c ≠ ' ' := ne_of_holds hword (by decide)
    have htab : c ≠ '\t' := ne_of_holds hword (by decide)
    have hbreak := isBreak_of_isPlainWord hword
    rw [cellsFrom_cons (isPrintable_of_isPlainWord hword) hbreak, scanFrom]
    simp [hline, hspace, htab, hbreak, hindent, State.finish]

/-! ### Whole blocks -/

/-- A text is its words and the line ends behind them. -/
theorem exists_body_ends (text : List Char) :
    ∃ body ends, text = body ++ ends ∧ (∀ c ∈ ends, isBreak c)
      ∧ ∀ c ∈ body.getLast?, isBreak c = false := by
  induction text with
  | nil => exact ⟨[], [], rfl, by simp, by simp⟩
  | cons c text ih =>
    obtain ⟨body, ends, rfl, hends, hbody⟩ := ih
    cases body with
    | cons next body => exact ⟨c :: next :: body, ends, rfl, hends, by
        rwa [List.getLast?_cons_cons]⟩
    | nil =>
      by_cases hbreak : isBreak c
      · exact ⟨[], c :: ends, rfl, List.forall_mem_cons.2 ⟨hbreak, hends⟩, by simp⟩
      · exact ⟨[c], ends, rfl, hends, by simpa using hbreak⟩

/-- Line ends alone are written as they are. -/
theorem blockFrom_ends {begins : Bool} (hends : ∀ c ∈ ends, isBreak c) :
    Writing.blockFrom begins ends = ends := by
  induction ends generalizing begins with
  | nil => rfl
  | cons c ends ih =>
    rw [List.forall_mem_cons] at hends
    rw [Writing.blockFrom, if_pos hends.1, ih hends.2]

/-- Line ends behind a body are written behind what the body is written as. -/
theorem blockFrom_append {begins : Bool} (hends : ∀ c ∈ ends, isBreak c) :
    Writing.blockFrom begins (body ++ ends) = Writing.blockFrom begins body ++ ends := by
  induction body generalizing begins with
  | nil => exact blockFrom_ends hends
  | cons c body ih =>
    simp only [List.cons_append, Writing.blockFrom]
    split
    · rw [ih, List.cons_append]
    · split
      · rw [ih, List.append_assoc, List.cons_append]
      · rw [ih, List.cons_append]

/-- The mark of what becomes of the line ends behind the last word. -/
def Chomping.mark : Chomping → List Char
  | .strip => ['-']
  | .clip => []
  | .keep => ['+']

/-- Whether a text with some line ends behind its words is left as it is. -/
inductive Chomping.Keeps : Chomping → List Char → List Char → Prop
  /-- There is none, and one that is written does not count. -/
  | strip {body : List Char} (hbody : body ≠ []) : Keeps .strip body []
  /-- There is one. -/
  | clip {body : List Char} {c : Char} (hbody : body ≠ []) : Keeps .clip body [c]
  /-- There are some. -/
  | keep {body ends : List Char} (hends : ends ≠ []) : Keeps .keep body ends

/-- The mark of the indentation of a text, which a space or a line end in front would hide. -/
def indentMark : List Char → List Char
  | c :: _ => if c = ' ' || isBreak c then ['2'] else []
  | [] => []

/-- The mark of what becomes of the last line ends of a text, of which the characters are given from
the last one on. -/
def endMark : List Char → List Char
  | [] => ['-']
  | [last] => if isBreak last then ['+'] else ['-']
  | last :: before :: _ =>
    if !isBreak last then ['-'] else if isBreak before then ['+'] else []

/-- A block's marks are that of its indent and that of its end. -/
theorem blockMarks_eq (text : List Char) :
    Writing.blockMarks text = indentMark text ++ endMark text.reverse := rfl

/-- The last two characters of a text show how many line ends there are. -/
theorem exists_chomping (ends body : List Char) (htext : ends ++ body ≠ [])
    (hends : ∀ c ∈ ends, isBreak c) (hbody : ∀ c ∈ body.head?, isBreak c = false) :
    ∃ chomping : Chomping, chomping.Keeps body.reverse ends.reverse
      ∧ endMark (ends ++ body) = chomping.mark := by
  match ends, body with
  | [], [] => exact absurd rfl htext
  | [], [last] =>
    have hlast : isBreak last = false := hbody last rfl
    exact ⟨.strip, .strip (by simp), by simp [endMark, hlast, Chomping.mark]⟩
  | [], last :: before :: others =>
    have hlast : isBreak last = false := hbody last rfl
    exact ⟨.strip, .strip (by simp), by simp [endMark, hlast, Chomping.mark]⟩
  | [last], [] =>
    have hlast : isBreak last := hends last (List.mem_singleton_self last)
    exact ⟨.keep, .keep (by simp), by simp [endMark, hlast, Chomping.mark]⟩
  | [last], before :: others =>
    have hlast : isBreak last := hends last (List.mem_singleton_self last)
    have hbefore : isBreak before = false := hbody before rfl
    exact ⟨.clip, .clip (by simp), by simp [endMark, hlast, hbefore, Chomping.mark]⟩
  | last :: before :: others, body =>
    have hlast : isBreak last := hends last (List.mem_cons_self ..)
    have hbefore : isBreak before := hends before (by simp)
    exact ⟨.keep, .keep (by simp), by simp [endMark, hlast, hbefore, Chomping.mark]⟩

/-- The marks of a block are read. -/
theorem header?_marks (text : List Char) (chomping : Chomping) :
    header? (cellsFrom line column (indentMark text ++ chomping.mark ++ '\n' :: rest)) =
      some (⟨chomping, if indentMark text = [] then none else some 2⟩,
        cellsFrom line (column + (indentMark text ++ chomping.mark).length) ('\n' :: rest)) := by
  have hmark : indentMark text = [] ∨ indentMark text = ['2'] := by
    unfold indentMark
    split
    · split <;> simp
    · simp
  rcases hmark with hmark | hmark <;> rw [hmark] <;> cases chomping <;>
    simp [Chomping.mark, cellsFrom, header?, isBreak, chomping?, indentation?, Char.isDigit]

/-- A line that has ended leaves the next line to be read. -/
theorem finishLine?_lineEnd :
    Rest.finishLine? (cellsFrom line column ('\n' :: rest)) =
      some (cellsFrom (line + 1) 0 rest) := by
  rw [cellsFrom_break (by decide) (by decide)]
  simp [Rest.finishLine?, Rest.skipBlanks, Rest.span, isBlank, isBreak]

/-- The state in which the first line of a text is read. -/
theorem goesOn_start (htext : text ≠ []) :
    ({ indent? := (if indentMark text = [] then none else some 2) } : State).GoesOn 0 text where
  widest := Nat.zero_le 2
  indent := by
    obtain ⟨c, rest, rfl⟩ := List.exists_cons_of_ne_nil htext
    by_cases hmark : c = ' ' || isBreak c
    · exact Or.inl (by simp [indentMark, hmark])
    · refine Or.inr ⟨rfl, by simp [indentMark, hmark], ?_⟩
      simpa using hmark
  begins := fun _ => rfl
  inside := fun h => Bool.noConfusion h

/-- The line end that is written behind a block, which ends with a line. -/
def lastEnd (text : List Char) : List Char := if text.getLast?.any isBreak then [] else ['\n']

/-- A single line end behind the last word, which is kept or not. -/
theorem scanFrom_lastEnd (hline : state.inLine) (hstate : state.GoesOn column text)
    (hc : isPrintable c) (hbreak : isBreak c) (hmore : BeginsLine more)
    (hchomping : chomping ≠ .keep) :
    scanFrom true chomping 0 state (cellsFrom line column (c :: more)) =
      some (String.ofList (state.read ++ if chomping = .strip then [] else [c]),
        cellsFrom (line + 1) 0 more) := by
  obtain ⟨hend, hempty⟩ := hstate.inside hline
  have hindent := hstate.indent_of_inLine hline
  have hstate' : ({ state with inLine := false, lineEnd? := some c } : State).GoesOn 0 [] :=
    ⟨hstate.widest, Or.inl hindent, fun _ => rfl, fun h => Bool.noConfusion h⟩
  rw [cellsFrom_break hc hbreak, scanFrom_lineEnd hline hbreak, scanFrom_stop rfl hstate' hmore]
  cases chomping with
  | strip => simp [State.finish, State.read, hend, hempty]
  | clip => simp [State.finish, State.read, hend, hempty]
  | keep => exact absurd rfl hchomping

/-- All line ends behind the last word, which are kept. -/
theorem scanFrom_allEnds (line : Nat) (hends : ∀ c ∈ ends, isPrintable c ∧ isBreak c)
    (hstate : state.GoesOn column ends) (hline : ends = [] → state.inLine = false)
    (hmore : BeginsLine more) :
    ∃ line', scanFrom true .keep 0 state (cellsFrom line column (ends ++ more)) =
      some (String.ofList (state.read ++ ends), cellsFrom line' 0 more) := by
  obtain ⟨state', line', hread, hstate', hline', htext⟩ := scanFrom_ends .keep line more hends
    hstate hline
  refine ⟨line', ?_⟩
  rw [hread, scanFrom_stop hline' hstate' hmore, ← htext]
  rfl

/-- The lines of a block are read as the text that they were written from. -/
theorem scanFrom_lines (line : Nat) (hends : ∀ c ∈ ends, isBreak c)
    (hbody : ∀ c ∈ body.getLast?, isBreak c = false)
    (hprintable : ∀ c ∈ body ++ ends, isPrintable c) (hkeeps : chomping.Keeps body ends)
    (hline : state.inLine = false) (hstate : state.GoesOn 0 (body ++ ends))
    (hnothing : state.read = []) (hmore : BeginsLine more) :
    ∃ line', scanFrom true chomping 0 state (cellsFrom line 0
        (Writing.blockFrom true (body ++ ends) ++ (lastEnd (body ++ ends) ++ more))) =
      some (String.ofList (body ++ ends), cellsFrom line' 0 more) := by
  rw [List.forall_mem_append] at hprintable
  have hboth (c : Char) (hc : c ∈ ends) : isPrintable c ∧ isBreak c :=
    ⟨hprintable.2 c hc, hends c hc⟩
  have hlast (hsome : ends ≠ []) : lastEnd (body ++ ends) = [] := by
    obtain ⟨others, last, rfl⟩ := List.eq_nil_or_concat ends |>.resolve_left hsome
    have hbreak : isBreak last := hends last (by simp)
    simp [lastEnd, hbreak]
  rw [blockFrom_append hends, List.append_assoc]
  -- in front of the line ends there are words, unless all of them are kept
  have hwords (hsome : body ≠ []) (rest : List Char) : ∃ state' line' column',
      scanFrom true chomping 0 state (cellsFrom line 0 (Writing.blockFrom true body ++ rest)) =
          scanFrom true chomping 0 state' (cellsFrom line' column' rest)
        ∧ state'.GoesOn column' ends ∧ state'.inLine ∧ state'.read = body := by
    have hfirst : state.GoesOn 0 body := by
      obtain ⟨first, others, rfl⟩ := List.exists_cons_of_ne_nil hsome
      exact ⟨hstate.widest, hstate.indent, hstate.begins, hstate.inside⟩
    obtain ⟨state', line', column', hread, hstate', hline', htext⟩ := scanFrom_blockFrom
      chomping line rest hprintable.1 hbody (fun hnil => absurd hnil hsome) hfirst
    rw [hline] at hread
    rw [hnothing, List.nil_append] at htext
    exact ⟨state', line', column', hread, ⟨hstate'.widest, Or.inl (hstate'.indent_of_inLine hline'),
      fun h => Bool.noConfusion (h.symm.trans hline'), hstate'.inside⟩, hline', htext⟩
  cases hkeeps with
  | strip hsome =>
    have hfeed : lastEnd (body ++ []) = ['\n'] := by
      obtain ⟨others, last, rfl⟩ := List.eq_nil_or_concat body |>.resolve_left hsome
      have hbreak : isBreak last = false := hbody last (by simp)
      simp [lastEnd, hbreak]
    obtain ⟨state', line', column', hread, hstate', hline', htext⟩ := hwords hsome ('\n' :: more)
    refine ⟨line' + 1, ?_⟩
    rw [hfeed, List.nil_append, List.singleton_append, hread,
      scanFrom_lastEnd hline' hstate' (by decide) (by decide) hmore (by decide), htext]
    rfl
  | @clip _ c hsome =>
    obtain ⟨state', line', column', hread, hstate', hline', htext⟩ := hwords hsome (c :: more)
    obtain ⟨hc, hbreak⟩ := hboth c (List.mem_singleton_self c)
    refine ⟨line' + 1, ?_⟩
    rw [hlast (by simp), List.nil_append, List.singleton_append, hread,
      scanFrom_lastEnd hline' hstate' hc hbreak hmore (by decide), htext]
    rfl
  | keep hsome =>
    rw [hlast hsome, List.nil_append]
    by_cases hnil : body = []
    · subst hnil
      obtain ⟨line', hread⟩ := scanFrom_allEnds line hboth hstate (fun _ => hline) hmore
      rw [hnothing] at hread
      exact ⟨line', hread⟩
    · obtain ⟨state', line', column', hread, hstate', -, htext⟩ := hwords hnil (ends ++ more)
      obtain ⟨line'', hread'⟩ := scanFrom_allEnds line' hboth hstate'
        (fun hnil => absurd hnil hsome) hmore
      rw [htext] at hread'
      exact ⟨line'', hread.trans hread'⟩

/-- A text that is written as a block is read as it was. -/
theorem scan_value (hallows : Writing.allowsBlock text) (line column : Nat)
    (hmore : BeginsLine more) :
    ∃ line', scan? true 0 (cellsFrom line column (Writing.blockMarks text
        ++ '\n' :: (Writing.blockFrom true text ++ (lastEnd text ++ more)))) =
      some (String.ofList text, cellsFrom line' 0 more) := by
  simp only [Writing.allowsBlock, Bool.and_eq_true, decide_eq_true_eq, List.all_eq_true] at hallows
  obtain ⟨⟨⟨hnil, hprintable⟩, -⟩, -⟩ := hallows
  obtain ⟨body, ends, rfl, hends, hbody⟩ := exists_body_ends text
  obtain ⟨chomping, hkeeps, hmark⟩ := exists_chomping ends.reverse body.reverse
    (by simpa [and_comm] using hnil) (by simpa using hends) (by simpa using hbody)
  rw [List.reverse_reverse, List.reverse_reverse] at hkeeps
  rw [← List.reverse_append] at hmark
  obtain ⟨line', hread⟩ := scanFrom_lines (line + 1) hends hbody hprintable hkeeps rfl
    (goesOn_start hnil) rfl hmore
  refine ⟨line', ?_⟩
  rw [blockMarks_eq, hmark, scan?, header?_marks]
  simp only [Option.bind_eq_bind, Option.bind_some, finishLine?_lineEnd]
  rw [apply_ite (Option.map _)]
  exact hread

end ControllerHost.Yaml.Block
