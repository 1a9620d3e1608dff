import ControllerHost.Proofs.Yaml.Values
import ControllerHost.Yaml.Event

/-!
# Reading mappings

A text with a key and a value on each line, the keys at the left, is read as one document with one
mapping. The tokens of a line come from the layout at its beginning, and lead to the layout at the
beginning of the next one.

- `Yaml.Layout.Leads`: the tokens that a layout gives on the way to another.
- `Yaml.Entry`: a key with a value, as it is written and as it is read.
- `Yaml.tokens_entries`, `Yaml.events_entries`: the tokens and events of such a text.
-/

namespace ControllerHost.Yaml

open Writing (isPrintable)

namespace Layout

variable {layout next : Layout} {rest : Rest} {gone steps : Nat}

/-! ### Steps -/

/-- In a number of steps a layout gives some tokens and comes to another layout. -/
def Leads (steps : Nat) (layout : Layout) (tokens : List Token) (next : Layout) : Prop :=
  ∀ more, run (more + steps) layout = (tokens ++ (run more next).1, (run more next).2)

theorem Leads.trans {steps' : Nat} {tokens tokens' : List Token} {last : Layout}
    (hfirst : Leads steps layout tokens next) (hsecond : Leads steps' next tokens' last) :
    Leads (steps + steps') layout (tokens ++ tokens') last := by
  intro more
  have hsteps : more + (steps + steps') = more + steps' + steps := by omega
  rw [hsteps, hfirst, hsecond, List.append_assoc]

/-- With no token waiting the next one is read. -/
theorem leads_fetch (hwaiting : layout.waiting = []) (hfetch : layout.fetch? = some next) :
    Leads 1 layout [] next := by
  intro more
  have hrelease : layout.release? = none := by
    simp [release?, hwaiting]
  rw [run, if_pos hwaiting]
  simp only [hrelease, hfetch, List.nil_append]

/-- A token that may become a key waits for the next one. -/
theorem leads_fetch_undecided (hwaiting : layout.waiting ≠ [])
    (hfresh : layout.dropStale? = some layout) (hundecided : layout.isFirstUndecided)
    (hfetch : layout.fetch? = some next) :
    Leads 1 layout [] next := by
  intro more
  have hrelease : layout.release? = none := by
    simp [release?, hundecided]
  rw [run, if_neg hwaiting]
  simp only [hfresh, hrelease, hfetch, List.nil_append]

theorem dropStale?_of_candidates (hcandidates : layout.candidates = [none]) :
    layout.dropStale? = some layout := by
  have hsame : { layout with candidates := [none] } = layout := by
    rw [← hcandidates]
  simpa [dropStale?, hcandidates] using hsame

/-- A candidate whose line is read is not given up. -/
theorem dropStale?_of_candidate {candidate : KeyCandidate}
    (hcandidates : layout.candidates = [some candidate])
    (hfresh : layout.isStale candidate = false) : layout.dropStale? = some layout := by
  have hsame : { layout with candidates := [some candidate] } = layout := by
    rw [← hcandidates]
  simpa [dropStale?, hcandidates, hfresh] using hsame

theorem leave_of_indent (layout : Layout) (hindent : layout.indent ≤ 0) (column : Nat) :
    layout.leave column = layout := by
  have hinside : ¬layout.indent > column := by omega
  cases houter : layout.outer with
  | nil => simp [leave, houter, leaveAll]
  | cons outer others => simp [leave, houter, leaveAll, hinside]

/-- At the top the next token is looked for behind the space in front of it. -/
theorem fetch?_eq {keyAllowed : Bool} (hstarted : layout.started) (hdepth : layout.depth = 0)
    (hindent : layout.indent ≤ 0)
    (hspace : skipSpace false layout.keyAllowed false layout.rest = (keyAllowed, rest))
    (hfresh : { layout with keyAllowed, rest }.dropStale? = some { layout with keyAllowed, rest }) :
    layout.fetch? = { layout with keyAllowed, rest }.fetchHere? := by
  have hinside : layout.inBrackets = false := by
    simp [inBrackets, hdepth]
  have hleave := leave_of_indent { layout with keyAllowed, rest } hindent rest.column
  rw [fetch?, if_neg (by simp [hstarted])]
  simp only [hinside, hspace, hfresh, hleave, Option.bind_eq_bind, Option.bind_some]

/-- Without a candidate for a key the tokens that wait go one after another. -/
theorem leads_release (layout : Layout) (tokens : List Token)
    (hcandidates : layout.candidates = [none]) (hwaiting : layout.waiting = tokens)
    (hend : .streamEnd ∉ tokens) :
    Leads tokens.length layout tokens
      { layout with waiting := [], gone := layout.gone + tokens.length } := by
  induction tokens generalizing layout with
  | nil =>
    intro more
    have hsame : { layout with waiting := [], gone := layout.gone + 0 } = layout := by
      rw [← hwaiting]
      rfl
    rw [List.length_nil, hsame]
    rfl
  | cons token tokens ih =>
    intro more
    rw [List.mem_cons, not_or] at hend
    have hrelease : layout.release? =
        some (token, { layout with waiting := tokens, gone := layout.gone + 1 }) := by
      simp [release?, isFirstUndecided, hcandidates, hwaiting]
    have hgone : layout.gone + (token :: tokens).length = layout.gone + 1 + tokens.length := by
      simp only [List.length_cons]
      omega
    have hrest := ih { layout with waiting := tokens, gone := layout.gone + 1 } hcandidates rfl
      hend.2 more
    rw [List.length_cons, ← Nat.add_assoc, run, if_neg (by simp [hwaiting])]
    simp only [dropStale?_of_candidates hcandidates, hrelease]
    rw [if_neg (Ne.symm hend.1), hrest, Nat.add_right_comm]
    rfl

end Layout

/-! ### Lines -/

/-- A key with the characters of its value, and the scalar that these are read as. -/
structure Entry where
  /-- The key. -/
  name : List Char
  /-- The value as it is written, with the end of its line. -/
  written : List Char
  /-- The value as it is read. -/
  text : String
  /-- The way in which it is written. -/
  style : ScalarStyle

namespace Entry

/-- An entry as it is written. -/
def chars (entry : Entry) : List Char := entry.name ++ ':' :: ' ' :: entry.written

/-- An entry as tokens. -/
def tokens (entry : Entry) : List Token :=
  [.key, .scalar (String.ofList entry.name) .plain, .value, .scalar entry.text entry.style]

/-- An entry reads back: its key is a word, and its value is read as it says. -/
structure IsRead (entry : Entry) : Prop where
  /-- The key has characters. -/
  named : entry.name ≠ []
  /-- They are those of a word. -/
  word : ∀ c ∈ entry.name, isPlainWord c
  /-- There are not too many of them. -/
  short : entry.name.length ≤ Layout.keyLimit
  /-- The value is read as it was. -/
  value : ReadsAs entry.written entry.text entry.style

/-- Entries begin with a key, if there are any. -/
theorem beginsLine {entries : List Entry} (hentries : ∀ entry ∈ entries, entry.IsRead) :
    BeginsLine (entries.flatMap chars) := by
  cases entries with
  | nil => simp [BeginsLine]
  | cons entry entries =>
    obtain ⟨hnamed, hword, -, -⟩ := hentries entry (List.mem_cons_self ..)
    obtain ⟨c, others, hname⟩ := List.exists_cons_of_ne_nil hnamed
    intro first hfirst
    simp only [List.flatMap_cons, chars, hname, List.cons_append, List.head?_cons] at hfirst
    exact hword first (by simp_all)

end Entry

namespace Layout

variable {layout : Layout} {entry : Entry} {rest : Rest} {gone line : Nat} {keyAllowed : Bool}
  {more : List Char}

/-- A layout at the top with no token waiting, in front of a mapping or inside one. -/
def atLine (inside : Bool) (rest : Rest) (gone : Nat) (keyAllowed : Bool) : Layout :=
  if inside then inMapping rest gone keyAllowed else { rest, started := true, gone, keyAllowed }

/-- The layout behind a key. -/
def afterKey (inside : Bool) (name : List Char) (rest : Rest) (gone line : Nat) : Layout :=
  { atLine inside rest gone false with
    waiting := [.scalar (String.ofList name) .plain]
    candidates := [some { required := inside, number := gone, line, column := 0 }] }

/-- A plain scalar begins with the characters of a key. -/
theorem fetchHere?_key (hentry : entry.IsRead) (hdepth : layout.depth = 0)
    (hrest : layout.rest = cellsFrom line 0 (entry.chars ++ more)) :
    layout.fetchHere? = layout.fetchPlain? := by
  obtain ⟨c, others, hname⟩ := List.exists_cons_of_ne_nil hentry.named
  have hword := hentry.word
  rw [hname, List.forall_mem_cons] at hword
  have hc := isPrintable_of_isPlainWord hword.1
  have hbreak := isBreak_of_isPlainWord hword.1
  have hbehind : Rest.next (cellsFrom line 1 (others ++ ':' :: ' ' :: entry.written ++ more)) =
      others.headD ':' := by
    rw [next_cellsFrom]
    · cases others <;> rfl
    · cases others with
      | nil => simp; decide
      | cons next others => simpa using isPrintable_of_isPlainWord (hword.2 next (by simp))
  have hcells : layout.rest =
      ⟨c, line, 0⟩ :: cellsFrom line 1 (others ++ ':' :: ' ' :: entry.written ++ more) := by
    rw [hrest, Entry.chars, hname, List.cons_append, List.cons_append, cellsFrom_cons hc hbreak]
  have hplain := (ReadsAs.beginsPlain_of_allowsPlain
    (ReadsAs.allowsPlain_of_isPlainWord (List.forall_mem_cons.2 hword)) ':').1
  apply fetchHere?_plain _ _ hdepth
  · rwa [hcells, Rest.peek_succ, Rest.peek_zero, Rest.next_cons, hbehind]
  · -- a word is neither dashes nor dots
    have hdash : c ≠ '-' := ne_of_holds hword.1 (by decide)
    have hdot : c ≠ '.' := ne_of_holds hword.1 (by decide)
    simp [hcells, Rest.atDocumentMark, hdash, hdot]

/-- At the beginning of a line a key is read. -/
theorem fetch?_key (hentry : entry.IsRead) (inside : Bool)
    (hline : skipSpace false keyAllowed false rest =
      (true, cellsFrom line 0 (entry.chars ++ more))) :
    (atLine inside rest gone keyAllowed).fetch? =
      some (afterKey inside entry.name
        (cellsFrom line entry.name.length (':' :: ' ' :: (entry.written ++ more))) gone line) := by
  have hscan (indent : Int) (hindent : indent ≤ 1) := Plain.scan_key
    (ReadsAs.isRunning_of_allowsPlain (ReadsAs.allowsPlain_of_isPlainWord hentry.word)) hindent
    line 0 (entry.written ++ more)
  have hchars : entry.chars ++ more = entry.name ++ ':' :: ' ' :: (entry.written ++ more) := by
    simp [Entry.chars]
  rw [Nat.zero_add] at hscan
  cases inside
  all_goals
    rw [fetch?_eq rfl rfl (by simp [atLine, inMapping]) hline (dropStale?_of_candidates rfl),
      fetchHere?_key hentry rfl rfl, hchars]
    simp [fetchPlain?, markCandidate?, dropCandidate?, candidate?, setCandidate, inBrackets, atLine,
      inMapping, afterKey, push, hscan]

/-- The tokens of a key, behind the one that begins the mapping if it is the first. -/
def keyTokens (inside : Bool) (name : List Char) : List Token :=
  (if inside then [] else [.blockMappingStart])
    ++ [.key, .scalar (String.ofList name) .plain, .value]

theorem fetchHere?_colon {after : Rest} {column column' : Nat} (hdepth : layout.depth = 0)
    (hrest : layout.rest = ⟨':', line, column⟩ :: ⟨' ', line, column'⟩ :: after) :
    layout.fetchHere? = layout.fetchColon? := by
  simp [fetchHere?, hrest, Rest.atDocumentMark, endOfText, inBrackets, hdepth, isGap, isBlank]

/-- A key waits for what follows it. -/
theorem afterKey_undecided (gone line : Nat) (inside : Bool) {name : List Char}
    (hname : name.length ≤ keyLimit) (text : List Char) :
    (afterKey inside name (cellsFrom line name.length text) gone line).dropStale? =
        some (afterKey inside name (cellsFrom line name.length text) gone line)
      ∧ (afterKey inside name (cellsFrom line name.length text) gone line).isFirstUndecided := by
  constructor
  · apply dropStale?_of_candidate rfl
    cases inside <;> simp [isStale, afterKey, atLine, inMapping, hname]
  · cases inside <;> simp [isFirstUndecided, afterKey, atLine, inMapping]

/-- The colon behind a key makes it one. -/
theorem fetch?_colon (inside : Bool) {name : List Char} (hname : name.length ≤ keyLimit)
    {more : List Char} :
    (afterKey inside name (cellsFrom line name.length (':' :: ' ' :: more)) gone line).fetch? =
      some { inMapping (cellsFrom line (name.length + 1) (' ' :: more)) gone false with
        waiting := keyTokens inside name } := by
  have hspace : skipSpace false false false (cellsFrom line name.length (':' :: ' ' :: more)) =
      (false, cellsFrom line name.length (':' :: ' ' :: more)) :=
    skipSpace_token false line name.length (' ' :: more) (by decide) (by decide) (by decide)
      (by decide)
  have hfresh := (afterKey_undecided gone line inside hname (':' :: ' ' :: more)).1
  have hcells : cellsFrom line name.length (':' :: ' ' :: more) =
      ⟨':', line, name.length⟩ :: ⟨' ', line, name.length + 1⟩
        :: cellsFrom line (name.length + 1 + 1) more := by
    rw [cellsFrom_cons (by decide) (by decide), cellsFrom_cons (by decide) (by decide)]
  have hcells' : cellsFrom line (name.length + 1) (' ' :: more) =
      ⟨' ', line, name.length + 1⟩ :: cellsFrom line (name.length + 1 + 1) more :=
    cellsFrom_cons (by decide) (by decide)
  rw [hcells] at hspace hfresh ⊢
  rw [hcells']
  cases inside
  all_goals
    rw [fetch?_eq rfl rfl (by simp [afterKey, atLine, inMapping]) hspace hfresh,
      fetchHere?_colon rfl rfl]
    simp [fetchColon?, candidate?, insert, enter, setCandidate, takeMark, push, keyTokens, afterKey,
      atLine, inMapping, inBrackets]

/-- From the beginning of a line to the value of its key. -/
theorem leads_key (gone : Nat) (hentry : entry.IsRead) (inside : Bool)
    (hline : skipSpace false keyAllowed false rest =
      (true, cellsFrom line 0 (entry.chars ++ more))) :
    Leads (2 + (keyTokens inside entry.name).length) (atLine inside rest gone keyAllowed)
      (keyTokens inside entry.name)
      (inMapping (cellsFrom line (entry.name.length + 1) (' ' :: (entry.written ++ more)))
        (gone + (keyTokens inside entry.name).length) false) := by
  obtain ⟨hfresh, hundecided⟩ := afterKey_undecided gone line inside hentry.short
    (':' :: ' ' :: (entry.written ++ more))
  have hkey : Leads 1 (atLine inside rest gone keyAllowed) [] _ :=
    leads_fetch (by cases inside <;> rfl) (fetch?_key hentry inside hline)
  have hcolon := leads_fetch_undecided (List.cons_ne_nil _ _) hfresh hundecided
    (fetch?_colon inside hentry.short)
  have hend : Token.streamEnd ∉ keyTokens inside entry.name := by
    cases inside <;> simp [keyTokens]
  have hrelease := leads_release
    { inMapping (cellsFrom line (entry.name.length + 1) (' ' :: (entry.written ++ more))) gone false
      with waiting := keyTokens inside entry.name } (keyTokens inside entry.name) rfl rfl hend
  exact (hkey.trans hcolon).trans hrelease

/-- From the value of a key to the beginning of the next line. -/
theorem leads_value (gone line column : Nat) (hentry : entry.IsRead) (hmore : BeginsLine more) :
    ∃ rest keyAllowed line',
      Leads 2 (inMapping (cellsFrom line column (' ' :: (entry.written ++ more))) gone false)
          [.scalar entry.text entry.style] (inMapping rest (gone + 1) keyAllowed)
        ∧ skipSpace false keyAllowed false rest = (true, cellsFrom line' 0 more) := by
  obtain ⟨c, others, hwritten, hbreak, hspace, hcomment⟩ := hentry.value.begins
  have hc : isPrintable c := hentry.value.printable c (by simp [hwritten])
  obtain ⟨rest, keyAllowed, line', hfetch, hline⟩ := hentry.value.fetch gone line
    (Nat.succ_pos column) hmore
  refine ⟨rest, keyAllowed, line', ?_, hline⟩
  have hskip : skipSpace false false false
      (cellsFrom line column (' ' :: (entry.written ++ more))) =
        (false, cellsFrom line (column + 1) (entry.written ++ more)) := by
    rw [cellsFrom_cons (by decide) (by decide), skipSpace_space, hwritten, List.cons_append,
      skipSpace_token false line (column + 1) _ hc hbreak hspace hcomment]
  have hvalue :
      (inMapping (cellsFrom line column (' ' :: (entry.written ++ more))) gone false).fetch? =
        (inMapping (cellsFrom line (column + 1) (entry.written ++ more)) gone false).fetchHere? :=
    fetch?_eq rfl rfl (Int.le_refl 0) hskip (dropStale?_of_candidates rfl)
  have hrelease := leads_release
    ((inMapping rest gone keyAllowed).push (.scalar entry.text entry.style))
    [.scalar entry.text entry.style] rfl rfl (by simp)
  exact (leads_fetch rfl (hvalue.trans hfetch)).trans hrelease

/-! ### Whole mappings -/

/-- An entry is read from the beginning of its line to the beginning of the next one. -/
theorem leads_entry (gone : Nat) (hentry : entry.IsRead) (inside : Bool)
    (hline : skipSpace false keyAllowed false rest =
      (true, cellsFrom line 0 (entry.chars ++ more))) (hmore : BeginsLine more) :
    ∃ steps ≤ 8, ∃ rest' gone' keyAllowed' line',
      Leads steps (atLine inside rest gone keyAllowed)
          ((if inside then [] else [.blockMappingStart]) ++ entry.tokens)
          (inMapping rest' gone' keyAllowed')
        ∧ skipSpace false keyAllowed' false rest' = (true, cellsFrom line' 0 more) := by
  have hkey := leads_key gone hentry inside hline
  obtain ⟨rest', keyAllowed', line', hvalue, hline'⟩ := leads_value
    (gone + (keyTokens inside entry.name).length) line (entry.name.length + 1) hentry hmore
  have hboth := hkey.trans hvalue
  rw [keyTokens, List.append_assoc] at hboth
  refine ⟨_, ?_, rest', _, keyAllowed', line', hboth, hline'⟩
  cases inside <;> simp

/-- The entries of a mapping are read one after another. -/
theorem leads_entries (gone : Nat) {entries : List Entry}
    (hentries : ∀ entry ∈ entries, entry.IsRead)
    (hline : skipSpace false keyAllowed false rest =
      (true, cellsFrom line 0 (entries.flatMap Entry.chars))) :
    ∃ steps ≤ 8 * entries.length, ∃ rest' gone' keyAllowed' line',
      Leads steps (inMapping rest gone keyAllowed) (entries.flatMap Entry.tokens)
          (inMapping rest' gone' keyAllowed')
        ∧ skipSpace false keyAllowed' false rest' = (true, cellsFrom line' 0 []) := by
  induction entries generalizing rest gone keyAllowed line with
  | nil => exact ⟨0, Nat.zero_le 0, rest, gone, keyAllowed, line, fun _ => rfl, hline⟩
  | cons entry entries ih =>
    rw [List.forall_mem_cons] at hentries
    obtain ⟨steps, hsteps, rest', gone', keyAllowed', line', hentry, hline'⟩ := leads_entry
      gone hentries.1 true hline (Entry.beginsLine hentries.2)
    obtain ⟨steps', hsteps', rest'', gone'', keyAllowed'', line'', hothers, hline''⟩ :=
      ih gone' hentries.2 hline'
    refine ⟨steps + steps', ?_, rest'', gone'', keyAllowed'', line'', hentry.trans hothers, hline''⟩
    simp only [List.length_cons]
    omega

/-- The end of the text ends the mapping. -/
theorem run_end (hline : skipSpace false keyAllowed false rest = (true, cellsFrom line 0 []))
    (more : Nat) :
    run (more + 3) (inMapping rest gone keyAllowed) = ([.blockEnd, .streamEnd], true) := by
  rw [cellsFrom_nil] at hline
  have hfetch : (inMapping rest gone keyAllowed).fetch? =
      some { rest := [⟨endOfText, line, 0⟩], started := true, gone, keyAllowed := false,
             waiting := [.blockEnd, .streamEnd] } := by
    rw [fetch?_eq rfl rfl (Int.le_refl 0) hline (dropStale?_of_candidates rfl)]
    simp [fetchHere?, fetchEnd?, inMapping, leave, leaveAll, inBrackets, dropCandidate?, candidate?,
      push]
  have hend := leads_fetch rfl hfetch (more + 2)
  rw [hend]
  simp [run, dropStale?, release?, isFirstUndecided]

/-- A text of entries is read as a mapping. -/
theorem run_entries {entries : List Entry} (hentries : ∀ entry ∈ entries, entry.IsRead)
    (hsome : entries ≠ []) {steps : Nat} (hsteps : 8 * entries.length + 5 ≤ steps) :
    run steps { rest := cellsFrom 0 0 (entries.flatMap Entry.chars) } =
      (.streamStart :: .blockMappingStart
        :: (entries.flatMap Entry.tokens ++ [.blockEnd, .streamEnd]), true) := by
  obtain ⟨first, others, rfl⟩ := List.exists_cons_of_ne_nil hsome
  have hline := skipSpace_beginsLine true 0 0 (Entry.beginsLine hentries)
  rw [List.forall_mem_cons] at hentries
  have hstart : Leads 1 { rest := cellsFrom 0 0 ((first :: others).flatMap Entry.chars) } [] _ :=
    leads_fetch rfl rfl
  have hopen : Leads 1
      { rest := cellsFrom 0 0 ((first :: others).flatMap Entry.chars), started := true,
        waiting := [.streamStart] } [.streamStart]
      (atLine false (cellsFrom 0 0 ((first :: others).flatMap Entry.chars)) 1 true) :=
    leads_release _ [.streamStart] rfl rfl (by simp)
  obtain ⟨stepsFirst, hfirst, rest, gone, keyAllowed, line, hleads, hline⟩ := leads_entry
    1 hentries.1 false hline (Entry.beginsLine hentries.2)
  obtain ⟨stepsOthers, hothers, rest, gone, keyAllowed, line, hleads', hline⟩ := leads_entries
    gone hentries.2 hline
  have hall := ((hstart.trans hopen).trans hleads).trans hleads'
  -- at most eight steps for each entry, two in front of them and three behind
  obtain ⟨more, rfl⟩ : ∃ more, steps = more + 3 + (1 + 1 + stepsFirst + stepsOthers) := by
    simp only [List.length_cons] at hsteps
    exact ⟨steps - 3 - (1 + 1 + stepsFirst + stepsOthers), by omega⟩
  have hrun := hall (more + 3)
  rw [run_end hline] at hrun
  rw [hrun]
  simp

end Layout

/-! ### Tokens and events -/

variable {entries : List Entry}

theorem Entry.IsRead.printable {entry : Entry} (hentry : entry.IsRead) :
    ∀ c ∈ entry.chars, isPrintable c := by
  rw [Entry.chars, List.forall_mem_append, List.forall_mem_cons, List.forall_mem_cons]
  exact ⟨fun c hc => isPrintable_of_isPlainWord (hentry.word c hc), by decide, by decide,
    hentry.value.printable⟩

/-- There are no more entries than characters or tokens of them. -/
theorem length_le_length_flatMap {α : Type} {parts : Entry → List α}
    (hparts : ∀ entry, parts entry ≠ []) (entries : List Entry) :
    entries.length ≤ (entries.flatMap parts).length := by
  induction entries with
  | nil => exact Nat.le_refl 0
  | cons entry entries ih =>
    have hpositive := List.length_pos_iff.2 (hparts entry)
    simp only [List.flatMap_cons, List.length_append, List.length_cons]
    omega

/-- The tokens of a text of entries. -/
theorem tokens_entries (hentries : ∀ entry ∈ entries, entry.IsRead) (hsome : entries ≠ []) :
    tokens (String.ofList (entries.flatMap Entry.chars)) =
      (.streamStart :: .blockMappingStart
        :: (entries.flatMap Entry.tokens ++ [.blockEnd, .streamEnd]), true) := by
  have hprintable : ∀ c ∈ entries.flatMap Entry.chars, isPrintable c := by
    intro c hc
    obtain ⟨entry, hentry, hc⟩ := List.mem_flatMap.1 hc
    exact (hentries entry hentry).printable c hc
  have hcells : cells? (String.ofList (entries.flatMap Entry.chars)) =
      some (cellsFrom 0 0 (entries.flatMap Entry.chars)) := by
    rw [cells?_of_isPrintable (by simpa using hprintable), String.toList_ofList]
  have hlength : entries.length ≤ (entries.flatMap Entry.chars).length :=
    length_le_length_flatMap (fun entry => by simp [Entry.chars]) entries
  rw [tokens, hcells]
  apply Layout.run_entries hentries hsome
  rw [length_cellsFrom hprintable]
  omega

/-- A scalar with neither a name nor a tag. -/
def bareScalar (text : String) (style : ScalarStyle) : ScalarEvent := ⟨none, none, text, style⟩

/-- An entry as scalars. -/
def Entry.scalars (entry : Entry) : List ScalarEvent :=
  [bareScalar (String.ofList entry.name) .plain, bareScalar entry.text entry.style]

theorem eventsFrom_succ {agenda agenda' : Agenda} {list list' : List Token} {event : Event}
    (hstep : advance? agenda list = some ⟨event, agenda', list'⟩) (hend : event ≠ .streamEnd)
    (steps : Nat) :
    eventsFrom (steps + 1) agenda list =
      (event :: (eventsFrom steps agenda' list').1, (eventsFrom steps agenda' list').2) := by
  rw [eventsFrom]
  simp only [hstep, if_neg hend]

/-- The entries of a mapping are a key and a value each. -/
theorem eventsFrom_entries (entries : List Entry) (steps : Nat) (rest : List Expectation)
    (shorthands : Shorthands) (more : List Token) :
    eventsFrom (steps + 2 * entries.length) ⟨.blockKey :: rest, shorthands⟩
        (entries.flatMap Entry.tokens ++ more) =
      ((entries.flatMap Entry.scalars).map Event.scalar
          ++ (eventsFrom steps ⟨.blockKey :: rest, shorthands⟩ more).1,
        (eventsFrom steps ⟨.blockKey :: rest, shorthands⟩ more).2) := by
  induction entries with
  | nil => rfl
  | cons entry entries ih =>
    have hlength : steps + 2 * (entry :: entries).length = steps + 2 * entries.length + 1 + 1 := by
      simp only [List.length_cons]
      omega
    have hkey : advance? ⟨.blockKey :: rest, shorthands⟩
        (entry.tokens ++ (entries.flatMap Entry.tokens ++ more)) =
        some ⟨.scalar (bareScalar (String.ofList entry.name) .plain),
          ⟨.blockValue :: rest, shorthands⟩, .value :: .scalar entry.text entry.style
            :: (entries.flatMap Entry.tokens ++ more)⟩ := rfl
    have hvalue : advance? ⟨.blockValue :: rest, shorthands⟩ (.value
        :: .scalar entry.text entry.style :: (entries.flatMap Entry.tokens ++ more)) =
        some ⟨.scalar (bareScalar entry.text entry.style), ⟨.blockKey :: rest, shorthands⟩,
          entries.flatMap Entry.tokens ++ more⟩ := rfl
    rw [hlength, List.flatMap_cons, List.append_assoc, eventsFrom_succ hkey (by simp),
      eventsFrom_succ hvalue (by simp), ih]
    rfl

/-- The events of a text of entries. -/
theorem events_entries (hentries : ∀ entry ∈ entries, entry.IsRead) (hsome : entries ≠ []) :
    events (String.ofList (entries.flatMap Entry.chars)) =
      (.documentStart :: .mappingStart none :: ((entries.flatMap Entry.scalars).map Event.scalar
        ++ [.mappingEnd, .documentEnd, .streamEnd]), true) := by
  have hlength : entries.length ≤ (entries.flatMap Entry.tokens).length :=
    length_le_length_flatMap (fun entry => List.cons_ne_nil _ _) entries
  have hclosing (steps : Nat) : eventsFrom (steps + 3)
      ⟨.blockKey :: [.documentEnd], defaultShorthands⟩ [.blockEnd, .streamEnd] =
        ([.mappingEnd, .documentEnd, .streamEnd], true) := rfl
  rw [events, tokens_entries hentries hsome]
  simp only
  generalize hsteps : 4 * (Token.blockMappingStart :: (entries.flatMap Entry.tokens
    ++ [.blockEnd, .streamEnd])).length + 16 = steps
  -- two steps for each entry, two in front of them and three behind
  obtain ⟨more, rfl⟩ : ∃ more, steps = more + 3 + 2 * entries.length + 1 + 1 := by
    simp only [List.length_cons, List.length_append] at hsteps
    exact ⟨steps - 3 - 2 * entries.length - 1 - 1, by omega⟩
  have hstart : advance? ⟨[.document true], []⟩ (.blockMappingStart
      :: (entries.flatMap Entry.tokens ++ [.blockEnd, .streamEnd])) =
      some ⟨.documentStart, ⟨[.node true false, .documentEnd], defaultShorthands⟩,
        .blockMappingStart :: (entries.flatMap Entry.tokens ++ [.blockEnd, .streamEnd])⟩ := rfl
  have hmapping : advance? ⟨[.node true false, .documentEnd], defaultShorthands⟩
      (.blockMappingStart :: (entries.flatMap Entry.tokens ++ [.blockEnd, .streamEnd])) =
      some ⟨.mappingStart none, ⟨[.blockKey, .documentEnd], defaultShorthands⟩,
        entries.flatMap Entry.tokens ++ [.blockEnd, .streamEnd]⟩ := rfl
  rw [eventsFrom_succ hstart (by simp), eventsFrom_succ hmapping (by simp), eventsFrom_entries,
    hclosing]

end ControllerHost.Yaml
