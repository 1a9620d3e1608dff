import ControllerHost.Proofs.FileSystem.Lookup
import ControllerHost.Proofs.Platform.Instances

/-!
# Contents of libraries

What becomes of a library that is opened is not always up to the contents of its file. The file may
need other libraries, which are looked for beside it and among those that are open, and share their
state with whoever else needs them. Contents that need nothing but what the system provides, and
share no state, stand alone: where a file with such contents is, and what else is open, does not
matter. Which contents these are, and what they come to, is up to the platform.

- `Text.Renamed`: texts that differ in the name that they begin with.
- `Image`: what the contents of a library come to.
- `Platform.Contents`: what is assumed of a platform about contents that stand alone.
- `Platform.Contents.OpenedFrom`, `Platform.Contents.openPath_alone`: opening such contents.
- `Platform.Contents.resolve_renamed`: entry points in two libraries with the same contents.
- `Platform.Contents.known_of_failed`, `Platform.Contents.known_of_shut`: the names that open
  libraries go by.
-/

namespace ControllerHost

variable {B S L File State : Type}

/-- Two texts are the same, or begin with two names and go on in the same way. -/
inductive Text.Renamed (name name' : Bytes) : String → String → Prop
  /-- The texts are the same. -/
  | same (text : String) : Renamed name name' text text
  /-- The texts begin with the names. -/
  | named (rest : String) : Renamed name name' (Utf8.lossy name ++ rest) (Utf8.lossy name' ++ rest)

/-- What the contents of a library come to: the static state that it begins with, and what it
exports under a name, which is a routine on that state or no address at all. -/
structure Image (State : Type) where
  /-- The static state before the first call. -/
  initial : State
  /-- What is exported under a name. -/
  export? : Bytes → Option (Option (Routine State))

/-- What is assumed of a platform about contents that stand alone. -/
structure Platform.Contents (platform : Platform B S L) (File State : Type) extends
    Platform.Instances platform File State where
  /-- Whether contents need nothing but what the system provides, and share no state with what else
  is open. -/
  standsAlone : Bytes → Prop
  /-- What the platform makes of a file that is opened by a name and has the given contents. -/
  accept : Bytes → Bytes → Except String (Image State)
  /-- What the contents of an open library came to. -/
  image : L → Image State
  /-- The name that what is said about an open library may begin with. -/
  title : L → Bytes
  /-- What is said about a symbol that is not exported, after the library's name. -/
  undefined : Bytes → String
  /-- What is open from a file. -/
  bound? : B → File → Option (Image State)
  /-- Whether contents go by a name. -/
  goesBy : Bytes → Bytes → Prop
  /-- Whether an open library goes by a name. -/
  known : B → Bytes → Prop
  /-- What is open has handles. -/
  bound?_eq_none : ∀ {books file}, bound? books file = none ↔ handles books file = 0
  /-- What becomes of such contents does not depend on the name, which may be the beginning of what
  is said about them. -/
  accept_renamed : ∀ {content}, standsAlone content → ∀ name name',
    (∃ found, accept name content = .ok found ∧ accept name' content = .ok found)
      ∨ ∃ reason reason',
          accept name content = .error reason ∧ accept name' content = .error reason'
        ∧ Text.Renamed name name' reason reason'
  /-- A file with such contents begins with the state that they come to. -/
  initial_eq : ∀ {files location content name found}, standsAlone content →
    files.node? location = some (.file content) → accept name content = .ok found →
    initial files (located location) = found.initial
  /-- Opening a file with such contents comes to what they come to, if what is open from it already
  came from them. The library keeps its state to itself, has the name that it is first opened by,
  and goes by no other names than its contents. -/
  opened : ∀ {files books name location content library left change}, Platform.IsPlain name →
    files.lookup ⟨name⟩ = .ok (location, .file content) → standsAlone content →
    (∀ found, bound? books (located location) = some found → accept name content = .ok found) →
    platform.openLibrary files books name = (.ok library, left, change) →
    accept name content = .ok (image library) ∧ selfContained library
      ∧ (bound? books (located location) = none → title library = name)
      ∧ ∀ other, known left other → known books other ∨ goesBy content other
  /-- If such a file cannot be opened, that is due to its contents. -/
  refused : ∀ {files books name location content reason left change}, Platform.IsPlain name →
    files.lookup ⟨name⟩ = .ok (location, .file content) → standsAlone content →
    (∀ found, bound? books (located location) = some found → accept name content = .ok found) →
    platform.openLibrary files books name = (.error reason, left, change) →
    accept name content = .error reason
  /-- What cannot be opened makes no name known. -/
  known_failed : ∀ {files books name reason left change},
    platform.openLibrary files books name = (.error reason, left, change) →
    ∀ other, known left other → known books other
  /-- What is closed makes no name known. -/
  known_closed : ∀ {books library complaint? left change},
    platform.closeLibrary books library = (complaint?, left, change) →
    ∀ other, known left other → known books other
  /-- A library that keeps its state to itself exports what its contents export. -/
  exported : ∀ {books library}, selfContained library → ∀ name,
    (platform.findSymbol books library name).map (Option.map (own (file library))) =
      match (image library).export? name with
      | some routine? => .ok routine?
      | none => .error (Utf8.lossy (title library) ++ undefined name)

namespace Platform.Contents

variable {platform : Platform B S L} (contents : platform.Contents File State)
  {world next : World B S} {path : Path} {location : Location} {content : Bytes} {library : L}

/-! ### Opening -/

/-- What is open from the file at a location came from the given contents. -/
def IsCurrent (books : B) (location : Location) (name content : Bytes) : Prop :=
  ∀ found, contents.bound? books (contents.located location) = some found →
    contents.accept name content = .ok found

/-- A library came from the given contents of the file at a location, by a name. If nothing was open
from there before, that is the name that it has. -/
structure OpenedFrom (books : B) (location : Location) (name content : Bytes) (library : L) : Prop
    where
  /-- It is what the contents come to. -/
  accept : contents.accept name content = .ok (contents.image library)
  /-- It keeps its state to itself. -/
  selfContained : contents.selfContained library
  /-- It is open from the file. -/
  file : contents.file library = contents.located location
  /-- The first handle names it. -/
  title : contents.handles books (contents.located location) = 0 → contents.title library = name

variable {contents}

/-- Where nothing is open, nothing came from other contents. -/
theorem isCurrent_of_closed {books : B} {name : Bytes}
    (hclosed : contents.handles books (contents.located location) = 0) :
    contents.IsCurrent books location name content := by
  intro found hfound
  rw [contents.bound?_eq_none.2 hclosed] at hfound
  cases hfound

section Opening

variable {files : FileSystem} {books : B} (hplain : IsPlain path.bytes)
  (hlookup : files.lookup path = .ok (location, .file content))
  (halone : contents.standsAlone content)
  (hcurrent : contents.IsCurrent books location path.bytes content)

include hplain hlookup halone hcurrent

/-- A path to contents that stand alone is refused or opened for these contents. -/
theorem openPath_alone :
    (∃ reason left, platform.openPath files books path = (.error reason, left)
        ∧ contents.accept path.bytes content = .error reason)
      ∨ ∃ library left change, platform.openPath files books path = (.ok library, left, change)
        ∧ contents.OpenedFrom books location path.bytes content library
        ∧ ∀ other, contents.known left other →
          contents.known books other ∨ contents.goesBy content other := by
  have hname := cString_of_not_mem (FileSystem.not_mem_of_lookup hlookup)
  simp only [openPath, hname]
  generalize hwork : platform.openLibrary files books path.bytes = work
  obtain ⟨result, left, change⟩ := work
  cases result with
  | error reason =>
    exact .inl ⟨reason, _, rfl, contents.refused hplain hlookup halone hcurrent hwork⟩
  | ok library =>
    obtain ⟨haccept, hself, htitle, hknown⟩ := contents.opened hplain hlookup halone hcurrent hwork
    exact .inr ⟨library, left, change, rfl,
      ⟨haccept, hself, contents.file_of_path hplain hlookup hwork,
        fun hclosed => htitle (contents.bound?_eq_none.2 hclosed)⟩, hknown⟩

end Opening

/-- What cannot be opened makes no name known. -/
theorem known_of_failed {reason : String}
    (hopen : platform.loader.open world path = (.failed reason, next)) (name : Bytes)
    (hknown : contents.known next.books name) : contents.known world.books name := by
  rcases open_of_failed hopen with rfl | ⟨_, left, change, -, hwork, rfl⟩
  · exact hknown
  · exact contents.known_failed hwork name hknown

/-- What is closed makes no name known. -/
theorem known_of_shut (name : Bytes)
    (hknown : contents.known (platform.loader.shut library world).books name) :
    contents.known world.books name := by
  generalize hclose : platform.closeLibrary world.books library = work
  obtain ⟨complaint?, left, change⟩ := work
  simp only [Loader.shut, loader, hclose] at hknown
  exact contents.known_closed hclose name hknown

/-! ### Entry points -/

/-- What comes of looking for a symbol in a library with a name and the given contents. -/
def find (contents : platform.Contents File State) (title : Bytes) (image : Image State)
    (symbol : String) : Except String (Routine State) := do
  let name ← cString (Bytes.ofText symbol)
  match image.export? name with
  | some (some routine) => .ok routine
  | some none => .error s!"symbol {symbol} resolved to a null address"
  | none => .error (Utf8.lossy title ++ contents.undefined name)

/-- A symbol is looked for among what the contents export. -/
theorem resolve_eq (hself : contents.selfContained library) (books : B) (symbol : String) :
    (platform.resolve books library symbol).map (contents.own (contents.file library)) =
      contents.find (contents.title library) (contents.image library) symbol := by
  unfold Platform.resolve find
  cases cString (Bytes.ofText symbol) with
  | error reason => rfl
  | ok name =>
    have hexported := @contents.exported books library hself name
    simp only [bind, Except.bind]
    -- what the platform finds is settled by what the image exports
    generalize platform.findSymbol books library name = found at hexported ⊢
    cases hexport : (contents.image library).export? name with
    | none =>
      rw [hexport] at hexported
      cases found with
      | error reason => simpa [Except.map] using hexported
      | ok routine? => cases hexported
    | some routine? =>
      rw [hexport] at hexported
      cases found with
      | error reason => cases hexported
      | ok found? =>
        obtain rfl : found?.map (contents.own (contents.file library)) = routine? := by
          simpa [Except.map] using hexported
        cases found? <;> rfl

/-- Under another name the same is found, or the texts differ in the name that they begin with. -/
theorem find_renamed (title title' : Bytes) (image : Image State) (symbol : String) :
    (∃ routine, contents.find title image symbol = .ok routine
        ∧ contents.find title' image symbol = .ok routine)
      ∨ ∃ reason reason', contents.find title image symbol = .error reason
        ∧ contents.find title' image symbol = .error reason'
        ∧ Text.Renamed title title' reason reason' := by
  unfold find
  cases cString (Bytes.ofText symbol) with
  | error reason => exact .inr ⟨_, _, rfl, rfl, .same _⟩
  | ok name =>
    simp only [bind, Except.bind]
    cases image.export? name with
    | none => exact .inr ⟨_, _, rfl, rfl, .named _⟩
    | some routine? =>
      cases routine? with
      | none => exact .inr ⟨_, _, rfl, rfl, .same _⟩
      | some routine => exact .inl ⟨_, rfl, rfl⟩

/-- An entry point is found in both of two libraries with the same contents, and is the same in
both, or it is found in neither of them. -/
theorem resolve_renamed {library' : L} (hself : contents.selfContained library)
    (hself' : contents.selfContained library')
    (himage : contents.image library = contents.image library') (books books' : B)
    (symbol : String) :
    (∃ routine routine', platform.resolve books library symbol = .ok routine
        ∧ platform.resolve books' library' symbol = .ok routine'
        ∧ contents.own (contents.file library) routine =
          contents.own (contents.file library') routine')
      ∨ ∃ reason reason', platform.resolve books library symbol = .error reason
        ∧ platform.resolve books' library' symbol = .error reason'
        ∧ Text.Renamed (contents.title library) (contents.title library') reason reason' := by
  have hfound := resolve_eq hself books symbol
  have hfound' := resolve_eq hself' books' symbol
  rw [← himage] at hfound'
  generalize platform.resolve books library symbol = result at hfound ⊢
  generalize platform.resolve books' library' symbol = result' at hfound' ⊢
  -- the search in the image decides for both, under either title
  rcases contents.find_renamed (contents.title library) (contents.title library')
      (contents.image library) symbol with
    ⟨routine, hfind, hfind'⟩ | ⟨reason, reason', hfind, hfind', hreason⟩
  · rw [hfind] at hfound
    rw [hfind'] at hfound'
    cases result with
    | error reason => cases hfound
    | ok given =>
      cases result' with
      | error reason => cases hfound'
      | ok given' =>
        exact .inl ⟨given, given', rfl, rfl,
          (Except.ok.inj hfound).trans (Except.ok.inj hfound').symm⟩
  · rw [hfind] at hfound
    rw [hfind'] at hfound'
    cases result with
    | ok given => cases hfound
    | error given =>
      cases result' with
      | ok given' => cases hfound'
      | error given' =>
        cases hfound
        cases hfound'
        exact .inr ⟨_, _, rfl, rfl, hreason⟩

end Platform.Contents

end ControllerHost
