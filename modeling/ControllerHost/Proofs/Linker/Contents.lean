import ControllerHost.Linker.Samples
import ControllerHost.Proofs.Linker.Instances
import ControllerHost.Proofs.Platform.Contents

/-!
# The contents of a linker's libraries

For a linker the contents of a library stand alone if all that they need is there in the system.
Then neither the place of the file nor what else is open matters, and so a linker is a platform of
which that can be assumed.

- `Linker.Books.named?_isSome`: the names that open libraries go by.
- `Linker.StandsAlone`, `Linker.missing?_of_standsAlone`: contents that stand alone lack nothing.
- `Linker.find_plain`: what a linker finds by a path.
- `Linker.contents`: a linker has contents that stand alone.
-/

namespace ControllerHost

/-- What a library comes to. -/
def SharedLibrary.image {σ : Type} (library : SharedLibrary σ) : Image σ :=
  ⟨library.initial, library.export?⟩

namespace Linker

variable {σ : Type}

/-! ### Names -/

namespace Books

/-- A name is known if an open library goes by it. -/
theorem named?_isSome {books : Books σ} {name : Bytes} : (books.named? name).isSome = true ↔
    ∃ place mapping, books.at? place = some mapping ∧ mapping.library.soname? = some name := by
  constructor
  · intro hknown
    obtain ⟨⟨place, mapping⟩, hnamed⟩ := Option.isSome_iff_exists.1 hknown
    obtain ⟨entry, -, hfound⟩ := List.exists_of_findSome?_eq_some hnamed
    obtain ⟨found, hopen, hsame⟩ := Option.map_eq_some_iff.1 hfound
    cases hsame
    obtain ⟨hat, hsoname⟩ := Option.filter_eq_some_iff.1 hopen
    exact ⟨_, _, hat, of_decide_eq_true hsoname⟩
  · rintro ⟨place, mapping, hat, hsoname⟩
    have hlookup := (Option.filter_eq_some_iff.1 hat).1
    obtain ⟨before, after, rfl, -⟩ := List.lookup_eq_some_iff.1 hlookup
    rw [named?, List.findSome?_isSome_iff]
    refine ⟨(place, mapping), by simp, ?_⟩
    simp [hat, hsoname]

/-- Writing an entry makes no name known but that of the entry's library. -/
theorem named?_put {books : Books σ} {place : Place} {mapping : Mapping σ} {name : Bytes}
    (hknown : ((books.put place mapping).named? name).isSome = true) :
    (books.named? name).isSome = true ∨ mapping.library.soname? = some name := by
  obtain ⟨other, found, hat, hsoname⟩ := named?_isSome.1 hknown
  rw [at?_put] at hat
  split at hat
  · split at hat
    · cases hat
    · cases hat
      exact .inr hsoname
  · exact .inl (named?_isSome.2 ⟨other, found, hat, hsoname⟩)

end Books

/-! ### Contents that stand alone -/

variable (linker : Linker σ)

/-- Contents need nothing but what is in the system. -/
def StandsAlone (content : Bytes) : Prop :=
  ∀ library, linker.read content = .ok library →
    ∀ need ∈ library.needs, (linker.system need).isSome = true

/-- What a linker makes of a file that is opened by a name and has the given contents. -/
def accept (name content : Bytes) : Except String (Image σ) :=
  match linker.read content with
  | .error reason => .error (Utf8.lossy name ++ ": " ++ reason)
  | .ok library => .ok library.image

variable {linker} {files : FileSystem} {books : Books σ} {name content : Bytes}
  {library : SharedLibrary σ} {location : Location}

/-- Contents that stand alone lack nothing, wherever they are and whatever is open. -/
theorem missing?_of_standsAlone (halone : linker.StandsAlone content)
    (hread : linker.read content = .ok library) :
    linker.missing? files books name library = none := by
  unfold missing?
  rw [List.find?_eq_none]
  intro need hneed
  simp [provides, halone library hread need hneed]

/-- The counting library needs nothing. -/
theorem standsAlone_counting : sample.StandsAlone (Bytes.ofText "counting") := by
  rintro _ ⟨⟩ need hneed
  cases hneed

/-- What a linker finds by a path is what is at the place that the path leads to. -/
theorem find_plain (hplain : Platform.IsPlain name)
    (hlookup : files.lookup ⟨name⟩ = .ok (location, .file content)) :
    linker.find files books name =
      (linker.mapping files books name (.file location) (linker.read content)).map
        fun mapping => (.file location, mapping) := by
  have hname : name ≠ [] := List.ne_nil_of_mem hplain.separator
  simp only [find, hname, if_false, hplain.separator, not_true_eq_false,
    expand_of_not_mem hplain.dollar, hlookup]

/-- Contents that stand alone are opened or refused for what they are. -/
theorem mapping_alone (halone : linker.StandsAlone content)
    (hcurrent : ∀ found, (books.at? (.file location)).map (·.library.image) = some found →
      linker.accept name content = .ok found) :
    (∃ reason,
        linker.mapping files books name (.file location) (linker.read content) = .error reason
        ∧ linker.accept name content = .error reason)
      ∨ ∃ mapping, linker.mapping files books name (.file location) (linker.read content) =
          .ok mapping
        ∧ linker.accept name content = .ok mapping.library.image
        ∧ (books.at? (.file location) = some mapping
          ∨ mapping.name = name ∧ linker.read content = .ok mapping.library) := by
  unfold Linker.mapping
  cases hat : books.at? (.file location) with
  | some mapping => exact .inr ⟨mapping, rfl, hcurrent _ (by rw [hat]; rfl), .inl rfl⟩
  | none =>
    cases hread : linker.read content with
    | error reason => exact .inl ⟨_, rfl, by simp only [accept, hread]⟩
    | ok library =>
      simp only [missing?_of_standsAlone halone hread]
      exact .inr ⟨_, rfl, by simp only [accept, hread], .inr ⟨rfl, rfl⟩⟩

/-- A linker has contents that stand alone. -/
def contents (linker : Linker σ) : linker.platform.Contents Place σ where
  toInstances := linker.instances
  standsAlone := linker.StandsAlone
  accept := linker.accept
  image handle := handle.library.image
  title := Handle.name
  undefined name := ": undefined symbol: " ++ Utf8.lossy name
  bound? books place := (books.at? place).map (·.library.image)
  goesBy content name := ∃ library, linker.read content = .ok library ∧ library.soname? = some name
  known books name := (books.named? name).isSome = true
  bound?_eq_none := by
    intro books place
    rw [Option.map_eq_none_iff]
    exact Books.handles_eq_zero.symm
  accept_renamed {content} _ name name' := by
    unfold accept
    cases linker.read content with
    | ok library => exact .inl ⟨_, rfl, rfl⟩
    | error reason =>
      refine .inr ⟨_, _, rfl, rfl, ?_⟩
      rw [String.append_assoc, String.append_assoc]
      exact .named _
  initial_eq {files location content name found} _ hnode haccept := by
    unfold accept at haccept
    cases hread : linker.read content with
    | error reason => simp [hread] at haccept
    | ok library =>
      rw [hread] at haccept
      cases haccept
      change ((linker.library? files (.file location)).getD linker.program).initial = _
      simp only [library?, hnode, hread]
      rfl
  opened {files books name location content library left change} hplain hlookup halone hcurrent
      hopen := by
    simp only [platform, openLibrary, find_plain hplain hlookup] at hopen
    rcases mapping_alone halone hcurrent with
      ⟨reason, hmapping, -⟩ | ⟨mapping, hmapping, haccept, hfound⟩
    · rw [hmapping] at hopen
      cases hopen
    · rw [hmapping] at hopen
      cases hopen
      refine ⟨haccept, trivial, fun hclosed => ?_, fun other hknown => ?_⟩
      · rcases hfound with hat | ⟨hname, -⟩
        · cases (Option.map_eq_none_iff.1 hclosed).symm.trans hat
        · exact hname
      · rcases Books.named?_put hknown with hbefore | hsoname
        · exact .inl hbefore
        · rcases hfound with hat | ⟨-, hread⟩
          · exact .inl (Books.named?_isSome.2 ⟨_, _, hat, hsoname⟩)
          · exact .inr ⟨_, hread, hsoname⟩
  refused {files books name location content reason left change} hplain hlookup halone hcurrent
      hopen := by
    simp only [platform, openLibrary, find_plain hplain hlookup] at hopen
    rcases mapping_alone halone hcurrent with
      ⟨fault, hmapping, haccept⟩ | ⟨mapping, hmapping, -⟩
    · rw [hmapping] at hopen
      cases hopen
      exact haccept
    · rw [hmapping] at hopen
      cases hopen
  known_failed {files books name reason left change} hopen other hknown := by
    simp only [platform, openLibrary] at hopen
    cases hfind : linker.find files books name with
    | error fault =>
      rw [hfind] at hopen
      cases hopen
      exact hknown
    | ok found =>
      rw [hfind] at hopen
      cases hopen
  known_closed {books library complaint? left change} hclose other hknown := by
    simp only [platform, closeLibrary] at hclose
    cases hat : books.at? library.place with
    | none =>
      rw [hat] at hclose
      cases hclose
      exact hknown
    | some mapping =>
      rw [hat] at hclose
      cases hclose
      rcases Books.named?_put hknown with hbefore | hsoname
      · exact hbefore
      · exact Books.named?_isSome.2 ⟨_, _, hat, hsoname⟩
  exported {books library} _ name := by
    change (findSymbol library name).map (Option.map (ownRoutine library.place)) = _
    simp only [findSymbol, SharedLibrary.image]
    cases library.library.export? name with
    | none => simp only [Except.map, String.append_assoc]
    | some routine? =>
      cases routine? with
      | none => rfl
      | some routine => simp only [Except.map, Option.map_some, ownRoutine_routineAt]

end Linker

end ControllerHost
