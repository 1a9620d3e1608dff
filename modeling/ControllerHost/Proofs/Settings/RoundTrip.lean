import ControllerHost.Proofs.FileSystem.Writing
import ControllerHost.Proofs.Yaml.Mappings

/-!
# Settings files read back

Settings that a registry can work with come back from the file that they were saved to, whatever
text the directory for private copies is. Their file has one line for each of them, and every line
is read as what it was written from. Saving takes no directory away, so a registry can still work
with the settings when they are loaded.

- `Settings.entries`, `Settings.render?_eq`: the lines of a settings file.
- `Settings.parse_entries`: the settings that these lines hold.
- `Settings.load_save`: saved settings are loaded.
-/

namespace ControllerHost.Settings

open Yaml

variable {settings : Settings} {directory? : Option String}

/-! ### Lines -/

/-- A line with a word or a number. -/
def wordEntry (name text : String) : Entry :=
  ⟨name.toList, text.toList ++ ['\n'], text, .plain⟩

/-- The line with the directory for private copies. -/
def directoryEntry (directory? : Option String) : Entry where
  name := "copy_dir".toList
  written := (directory?.elim "null\n" Writing.value).toList
  text := directory?.getD "null"
  style := directory?.elim .plain Writing.style

/-- The lines of settings whose directory for private copies is given as a text. -/
def entries (settings : Settings) (directory? : Option String) : List Entry :=
  [wordEntry "max_connections" (toString settings.maxConnections),
    wordEntry "isolate_instances" (boolText settings.isolateInstances),
    directoryEntry directory?,
    wordEntry "serialize_loader" (boolText settings.serializeLoader),
    wordEntry "debug_level" (toString settings.debugLevel.number)]

/-- The line of a plain entry. -/
theorem chars_wordEntry (name text : String) :
    String.ofList (wordEntry name text).chars = name ++ ": " ++ text ++ "\n" := by
  apply String.toList_inj.1
  simp [Entry.chars, wordEntry]

/-- The line of the directory, which is `null` where there is none. -/
theorem chars_directoryEntry (directory? : Option String) :
    String.ofList (directoryEntry directory?).chars =
      "copy_dir: " ++ directory?.elim "null\n" Writing.value := by
  have hchars : (directoryEntry directory?).chars =
      "copy_dir: ".toList ++ (directory?.elim "null\n" Writing.value).toList := rfl
  rw [hchars, String.ofList_append, String.ofList_toList, String.ofList_toList]

/-- A plain entry is read as its name and its text. -/
theorem scalars_wordEntry (name text : String) :
    (wordEntry name text).scalars = [bareScalar name .plain, bareScalar text .plain] := by
  simp [Entry.scalars, wordEntry]

/-- The directory is read as its name and its text in the style that it was written in. -/
theorem scalars_directoryEntry (directory? : Option String) :
    (directoryEntry directory?).scalars =
      [bareScalar "copy_dir" .plain,
        bareScalar (directoryEntry directory?).text (directoryEntry directory?).style] := by
  have hname : (directoryEntry directory?).name = "copy_dir".toList := rfl
  rw [Entry.scalars, hname, String.ofList_toList]

/-- Settings are written line by line. -/
theorem render?_eq (hdirectory : settings.copyDir? = directory?.map Path.ofText) :
    settings.render?
      = some (String.ofList ((settings.entries directory?).flatMap Entry.chars)) := by
  have hwritten : settings.render? = some ("max_connections: " ++ toString settings.maxConnections
      ++ "\nisolate_instances: " ++ boolText settings.isolateInstances
      ++ "\ncopy_dir: " ++ directory?.elim "null\n" Writing.value
      ++ "serialize_loader: " ++ boolText settings.serializeLoader
      ++ "\ndebug_level: " ++ toString settings.debugLevel.number ++ "\n") := by
    rw [render?, hdirectory]
    cases directory? with
    | none => simp only [Option.map_none, Option.elim_none, Option.bind_eq_bind, Option.bind_some]
    | some text =>
      simp only [Option.map_some, Option.elim_some, Path.ofText, Bytes.text?_ofText,
        Option.bind_eq_bind, Option.bind_some]
  rw [hwritten, Option.some_inj, entries]
  simp only [List.flatMap_cons, List.flatMap_nil, String.ofList_append, chars_wordEntry,
    chars_directoryEntry]
  apply String.toList_inj.1
  simp

/-- A word or a number is read as it was. -/
theorem isRead_wordEntry {name text : String}
    (hname : name ≠ "" ∧ name.toList.all isPlainWord ∧ name.toList.length ≤ Layout.keyLimit)
    (htext : text ≠ "" ∧ text.toList.all isPlainWord) : (wordEntry name text).IsRead where
  named := by simpa [wordEntry] using hname.1
  word := List.all_eq_true.1 hname.2.1
  short := hname.2.2
  value := by
    have hvalue := ReadsAs.word (List.all_eq_true.1 htext.2) (by simpa using htext.1)
    rwa [String.ofList_toList] at hvalue

/-- A number's digits are a plain word. -/
theorem isRead_number (number : Nat) :
    toString number ≠ "" ∧ (toString number).toList.all isPlainWord := by
  constructor
  · intro hempty
    have hdigits : Nat.toDigits 10 number = [] := by
      rw [← String.toList_ofList (l := Nat.toDigits 10 number), ← Nat.toString_eq_ofList_toDigits,
        hempty]
      rfl
    exact Nat.toDigits_ne_nil hdigits
  · rw [List.all_eq_true]
    intro c hc
    rw [Nat.toString_eq_ofList_toDigits, String.toList_ofList] at hc
    have hdigit := Nat.isDigit_of_mem_toDigits (by decide) (by decide) hc
    simp [isPlainWord, hdigit]

/-- Every line of a settings file is read as what it was written from. -/
theorem isRead_entries : ∀ entry ∈ settings.entries directory?, entry.IsRead := by
  have hbool (value : Bool) : boolText value ≠ "" ∧ (boolText value).toList.all isPlainWord := by
    cases value <;> decide
  simp only [entries, List.forall_mem_cons, List.not_mem_nil, false_implies, implies_true, and_true]
  refine ⟨isRead_wordEntry (by decide) (isRead_number _),
    isRead_wordEntry (by decide) (hbool _), ?_,
    isRead_wordEntry (by decide) (hbool _), isRead_wordEntry (by decide) (isRead_number _)⟩
  obtain ⟨hnamed, hword, hshort, hnull⟩ : (wordEntry "copy_dir" "null").IsRead :=
    isRead_wordEntry (by decide) (by decide)
  refine ⟨hnamed, hword, hshort, ?_⟩
  cases directory? with
  | none => exact hnull
  | some text => exact ReadsAs.value text

/-! ### The document -/

/-- Scalars without names are collected one after another. -/
theorem collect_scalars {scalars : List ScalarEvent}
    (hbare : ∀ scalar ∈ scalars, scalar.anchor? = none) (document : Document)
    (events : List Yaml.Event) :
    document.collect (scalars.map Event.scalar ++ events) =
      { document with nodes := document.nodes ++ scalars.map Node.scalar }.collect events := by
  induction scalars generalizing document with
  | nil => simp
  | cons scalar scalars ih =>
    rw [List.forall_mem_cons] at hbare
    rw [List.map_cons, List.cons_append, Document.collect, hbare.1, ih hbare.2]
    simp [Document.label, Document.push]

/-- A text of lines is a document with one mapping. -/
theorem document_entries {entries : List Entry} (hentries : ∀ entry ∈ entries, entry.IsRead)
    (hsome : entries ≠ []) :
    Document.ofText (String.ofList (entries.flatMap Entry.chars)) =
      { nodes := .opening true
          :: ((entries.flatMap Entry.scalars).map Node.scalar ++ [.closing true])
        complete := true } := by
  have hbare : ∀ scalar ∈ entries.flatMap Entry.scalars, scalar.anchor? = none := by
    intro scalar hscalar
    obtain ⟨entry, -, hscalar⟩ := List.mem_flatMap.1 hscalar
    simp only [Entry.scalars, List.mem_cons, List.not_mem_nil, or_false] at hscalar
    rcases hscalar with rfl | rfl <;> rfl
  rw [Document.ofText, events_entries hentries hsome]
  simp [Document.collect, Document.label, Document.push, collect_scalars hbare]

/-! ### Values -/

/-- A number of at most thirty-one bits is read back from its digits. -/
theorem number?_toString {number : Nat} (hnumber : number < 0x80000000) :
    number? (bareScalar (toString number) .plain) = some number := by
  have hread : PlainValue.unsigned? (Nat.pow 2 64) (toString number).toList = some number := by
    rw [Nat.toString_eq_ofList_toDigits, String.toList_ofList]
    exact PlainValue.unsigned?_toDigits (Nat.lt_trans hnumber (by decide))
  exact hread

/-- A truth value is read back from its word. -/
theorem bool?_boolText (value : Bool) :
    Settings.bool? (bareScalar (boolText value) .plain) = some value := by
  cases value <;> rfl

/-- A debug level is read back from its number. -/
theorem levelOf_toString (level : Log.DebugLevel) :
    levelOf (number? (bareScalar (toString level.number) .plain)) = .ok level := by
  cases level <;> rfl

/-- What is written plainly is neither empty nor a word for nothing. -/
theorem isNull_of_style_eq_plain {text : String} (hplain : Writing.style text = .plain) :
    text ≠ "" ∧ PlainValue.isNull text = false := by
  have hallows := ReadsAs.allows_style text
  rw [hplain] at hallows
  have hambiguous := hallows.1
  unfold PlainValue.isAmbiguous at hambiguous
  simp only [Bool.or_eq_false_iff, decide_eq_false_iff_not] at hambiguous
  exact hambiguous.1.1.1.1.1

/-- A directory is read back from its text. -/
theorem path?_bareScalar (text : String) :
    Settings.path? (bareScalar text (Writing.style text)) = some (some (Path.ofText text)) := by
  by_cases hplain : Writing.style text = .plain
  · obtain ⟨hempty, hnull⟩ := isNull_of_style_eq_plain hplain
    rw [hplain]
    change (if text = "" || PlainValue.isNull text then some none
      else some (some (Path.ofText text))) = _
    rw [if_neg (by simp [hempty, hnull])]
  · exact if_pos hplain

/-- A directory is read as the text that was written, and none as none. -/
theorem path?_directoryEntry (directory? : Option String) :
    Settings.path? (bareScalar (directoryEntry directory?).text (directoryEntry directory?).style) =
      some (directory?.map Path.ofText) := by
  cases directory? with
  | none => rfl
  | some text => exact path?_bareScalar text

/-! ### Settings -/

/-- A setting that a draft does not have yet is read from its line. -/
theorem readFields_entry {document : Document} {draft next : Draft} {name : String}
    {scalar : ScalarEvent} (hname : isSetting name) (hnew : draft.has name = false)
    (hset : draft.set name scalar = .ok next) (steps : Nat) (rest : List Node) :
    readFields document (steps + 1) draft
        (.scalar (bareScalar name .plain) :: .scalar scalar :: rest) =
      readFields document steps next rest := by
  simp [readFields, Document.scalar?, require, bareScalar, hname, hnew, hset, bind, Except.bind]

/-- The lines of settings are read one after another. -/
theorem readFields_entries (document : Document)
    (hdirectory : settings.copyDir? = directory?.map Path.ofText)
    (hnumber : settings.maxConnections < 0x80000000) :
    readFields document 11 {} (((settings.entries directory?).flatMap Entry.scalars).map Node.scalar
        ++ [.closing true]) =
      .ok {
        maxConnections? := some settings.maxConnections
        isolateInstances? := some settings.isolateInstances
        copyDir? := some settings.copyDir?
        serializeLoader? := some settings.serializeLoader
        debugLevel? := some settings.debugLevel } := by
  -- each line sets its field, whatever has been read before
  have hconnections (draft : Draft) : draft.set "max_connections"
      (bareScalar (toString settings.maxConnections) .plain) =
        .ok { draft with maxConnections? := some settings.maxConnections } := by
    simp only [Draft.set, number?_toString hnumber]
    rfl
  have hisolate (draft : Draft) : draft.set "isolate_instances"
      (bareScalar (boolText settings.isolateInstances) .plain) =
        .ok { draft with isolateInstances? := some settings.isolateInstances } := by
    simp only [Draft.set, bool?_boolText]
    rfl
  have hcopyDir (draft : Draft) : draft.set "copy_dir"
      (bareScalar (directoryEntry directory?).text (directoryEntry directory?).style) =
        .ok { draft with copyDir? := some settings.copyDir? } := by
    simp only [Draft.set, path?_directoryEntry, hdirectory]
    rfl
  have hserialize (draft : Draft) : draft.set "serialize_loader"
      (bareScalar (boolText settings.serializeLoader) .plain) =
        .ok { draft with serializeLoader? := some settings.serializeLoader } := by
    simp only [Draft.set, bool?_boolText]
    rfl
  have hlevel (draft : Draft) : draft.set "debug_level"
      (bareScalar (toString settings.debugLevel.number) .plain) =
        .ok { draft with debugLevel? := some settings.debugLevel } := by
    simp only [Draft.set, levelOf_toString]
    rfl
  simp only [entries, List.flatMap_cons, List.flatMap_nil, scalars_wordEntry,
    scalars_directoryEntry, List.map_cons, List.map_nil, List.append_nil, List.cons_append,
    List.nil_append]
  rw [readFields_entry rfl rfl (hconnections _), readFields_entry rfl rfl (hisolate _),
    readFields_entry rfl rfl (hcopyDir _), readFields_entry rfl rfl (hserialize _),
    readFields_entry rfl rfl (hlevel _)]
  rfl

/-- The lines of settings hold these settings. -/
theorem parse_entries (hdirectory : settings.copyDir? = directory?.map Path.ofText)
    (hnumber : settings.maxConnections < 0x80000000) :
    parse (String.ofList ((settings.entries directory?).flatMap Entry.chars)) = .ok settings := by
  have hentries : ∀ entry ∈ settings.entries directory?, entry.IsRead := isRead_entries
  have hdocument := document_entries hentries (List.cons_ne_nil _ _)
  -- the reader may take as many steps as there are nodes behind the opening one
  have hlength : (((settings.entries directory?).flatMap Entry.scalars).map Node.scalar
      ++ [Node.closing true]).length = 11 := rfl
  have hfinish : Draft.finish {
      maxConnections? := some settings.maxConnections
      isolateInstances? := some settings.isolateInstances
      copyDir? := some settings.copyDir?
      serializeLoader? := some settings.serializeLoader
      debugLevel? := some settings.debugLevel } = settings := rfl
  rw [parse, hdocument, readRoot]
  simp only [hlength, readFields_entries _ hdirectory hnumber, Except.map, hfinish, bind,
    Except.bind, if_true]

/-! ### Files -/

/-- **Saved settings are loaded as they were.** Take settings that a registry can work with, and let
their directory for private copies be none or a text. They can be written, and once they have been
saved to a file they are loaded from there, whatever the text is. Saving may create directories that
lead to the file; it takes none away, so a registry can still work with what is loaded. -/
theorem load_save {files : FileSystem} (hfault : settings.fault? files = none)
    (htext : ∀ directory, settings.copyDir? = some directory →
      ∃ text, Bytes.text? directory.bytes = some text) :
    settings.render? ≠ none ∧ ∀ (path : Path) (left : FileSystem),
      settings.save files path = (.ok (), left) → load left path = .ok settings := by
  have hworkable := fault?_eq_none.1 hfault
  -- a directory that is a text is the one that this text spells
  obtain ⟨directory?, hdirectory⟩ :
      ∃ directory? : Option String, settings.copyDir? = directory?.map Path.ofText := by
    cases hcopyDir : settings.copyDir? with
    | none => exact ⟨none, rfl⟩
    | some directory =>
      obtain ⟨text, hbytes⟩ := htext directory hcopyDir
      exact ⟨some text, by rw [Option.map_some, Path.ofText, Bytes.ofText_of_text? hbytes]⟩
  have hrender := render?_eq hdirectory
  refine ⟨by simp [hrender], fun path left hsave => ?_⟩
  rw [save, hrender] at hsave
  simp only at hsave
  -- saving succeeds only once the parents are there and the file is written
  split at hsave
  · cases hsave
  rename_i prepared hparents
  split at hsave
  · cases hsave
  rename_i written hwrite
  cases hsave
  have hwritten := FileSystem.written_write hwrite
  have hkeeps := (FileSystem.keeps_createParents hparents).trans hwritten.keeps
  refine load_eq_ok.2 ⟨⟨_, hwritten.readText, parse_entries hdirectory hworkable.allNumbered⟩, ?_⟩
  exact ⟨hworkable.someConnection, hworkable.allNumbered,
    fun directory hcopyDir => hkeeps.isDirectory (hworkable.copyDirectory directory hcopyDir)⟩

/-- A directory whose name has a quote, a colon, a number sign and a line end is still the one for
private copies when the settings are loaded. -/
theorem load_save_awkward :
    let directory := "it's: #1\n"
    let files : FileSystem := { entries := [([Bytes.ofText directory], .directory)] }
    let settings : Settings := { copyDir? := some (.ofText ("/" ++ directory)) }
    let path := Path.ofText "/etc/host.yaml"
    (settings.save files path).1 = .ok ()
      ∧ load (settings.save files path).2 path = .ok settings := by
  intro directory files settings path
  have hfault : settings.fault? files = none := by decide +kernel
  have htext : ∀ directory, settings.copyDir? = some directory →
      ∃ text, Bytes.text? directory.bytes = some text := by
    intro directory hcopyDir
    cases hcopyDir
    exact ⟨_, Bytes.text?_ofText _⟩
  have hsaved : (settings.save files path).1 = .ok () := by decide +kernel
  exact ⟨hsaved, (load_save hfault htext).2 path _ (Prod.ext hsaved rfl)⟩

end ControllerHost.Settings
