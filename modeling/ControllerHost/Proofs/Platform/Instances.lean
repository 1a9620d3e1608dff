import ControllerHost.Platform
import ControllerHost.World

/-!
# Instances of libraries

A platform that opens one file several times opens one instance of it, with one static state. The
state is set up with the first handle and lasts until the last one is closed. This is assumed of a
platform wherever the static state of libraries matters; how the platform keeps its books and the
state is left open.

- `Routine.RunsOn`: a routine that sees the state of one file and leaves that of all others alone.
- `Platform.Instances`: what is assumed of a platform.
- `Platform.open_of_done`, `Platform.open_of_failed`: the platform at work as a loader.
- `Platform.Instances.Keeps`: how many handles on a file there are, and what its state is.
- `Platform.Instances.Keeps.opened`, `Platform.Instances.Keeps.shut`,
  `Platform.Instances.Keeps.called`: what the platform does to the file.
-/

namespace ControllerHost

variable {B S L File State : Type}

/-- What a routine does to all state is what another one does to the state of one file. The state of
the other files stays as it is. -/
structure Routine.RunsOn (routine : Routine S) (state : S → File → State) (file : File)
    (own : Routine State) : Prop where
  /-- The buffers that it leaves. -/
  buffers : ∀ all buffers, (routine.run all buffers).2 = (own.run (state all file) buffers).2
  /-- The state that it leaves in the file. -/
  inside : ∀ all buffers,
    state (routine.run all buffers).1 file = (own.run (state all file) buffers).1
  /-- The state that it leaves in other files. -/
  outside : ∀ all buffers other, other ≠ file →
    state (routine.run all buffers).1 other = state all other

/-- A name that is a path and that a platform takes as it is written. -/
structure Platform.IsPlain (name : Bytes) : Prop where
  /-- Only names with a separator are paths. -/
  separator : Path.separator ∈ name
  /-- Nothing in it stands for anything else. -/
  dollar : Platform.dollar ∉ name

instance (name : Bytes) : Decidable (Platform.IsPlain name) :=
  decidable_of_iff (Path.separator ∈ name ∧ Platform.dollar ∉ name)
    ⟨fun ⟨separator, dollar⟩ => ⟨separator, dollar⟩, fun ⟨separator, dollar⟩ => ⟨separator, dollar⟩⟩

/-- What is assumed of a platform about files that are opened several times. Where a law is about an
open library, it is about one that keeps its state to itself. -/
structure Platform.Instances (platform : Platform B S L) (File State : Type) where
  /-- The file at a location. -/
  located : Location → File
  /-- The file that an open library is an instance of. -/
  file : L → File
  /-- Whether an open library keeps its state to itself: it shares no part of the state with
  libraries from other files, and nothing keeps it open but the handles on it. -/
  selfContained : L → Prop
  /-- The number of handles on a file. -/
  handles : B → File → Nat
  /-- The static state of a file. -/
  state : S → File → State
  /-- The static state that a file begins with. -/
  initial : FileSystem → File → State
  /-- A routine from a file, seen as a routine on the state of that file. -/
  own : File → Routine S → Routine State
  /-- At different places there are different files. -/
  located_injective : ∀ {location other}, located location = located other → location = other
  /-- What is opened by a path is the file that the path leads to. -/
  file_of_path : ∀ {files books name location content library left change},
    IsPlain name → files.lookup ⟨name⟩ = .ok (location, .file content) →
    platform.openLibrary files books name = (.ok library, left, change) →
    file library = located location
  /-- What cannot be opened leaves the handles, and the state of what is open. -/
  failing : ∀ {files books name reason left change},
    platform.openLibrary files books name = (.error reason, left, change) →
    ∀ other, handles left other = handles books other
      ∧ (handles books other ≠ 0 → ∀ all, state (change all) other = state all other)
  /-- What is opened has one handle more, the first of which sets up its state. -/
  opening : ∀ {files books name library left change},
    platform.openLibrary files books name = (.ok library, left, change) → selfContained library →
    handles left (file library) = handles books (file library) + 1
      ∧ (handles books (file library) = 0 → ∀ all,
        state (change all) (file library) = initial files (file library))
      ∧ (∀ other, other ≠ file library → handles left other = handles books other)
      ∧ ∀ other, handles books other ≠ 0 → ∀ all, state (change all) other = state all other
  /-- What is closed has one handle fewer. -/
  closing : ∀ {books library complaint? left change},
    platform.closeLibrary books library = (complaint?, left, change) → selfContained library →
    handles books (file library) ≠ 0 →
    handles left (file library) = handles books (file library) - 1
      ∧ (∀ other, other ≠ file library → handles left other = handles books other)
      ∧ ∀ other, handles left other ≠ 0 → ∀ all, state (change all) other = state all other
  /-- What a library exports runs on the state of its file. -/
  running : ∀ {books library name routine},
    platform.findSymbol books library name = .ok (some routine) → selfContained library →
    routine.RunsOn state (file library) (own (file library) routine)

namespace Platform

variable {platform : Platform B S L} {world next : World B S} {path : Path} {library : L}

/-! ### The platform as a loader -/

/-- Without a NUL a byte string is handed to the platform as it is. -/
theorem cString_of_not_mem {bytes : Bytes} (hnul : 0 ∉ bytes) : cString bytes = .ok bytes := by
  have hlast : bytes.getLast? ≠ some 0 := fun hlast => hnul (List.mem_of_getLast? hlast)
  simp [cString, hlast, hnul]

/-- What the platform makes of a path is what it makes of a name. -/
theorem openLibrary_of_cString {files : FileSystem} {books : B} {name : Bytes}
    (hname : cString path.bytes = .ok name) :
    platform.loader.openLibrary files books path =
      let opened := platform.openLibrary files books name
      (.ofExcept opened.1, opened.2) := by
  simp only [loader, openPath, hname]

/-- What a loader that is the platform has opened is what the platform has opened by a name. -/
theorem open_of_done (hopen : platform.loader.open world path = (.done library, next)) :
    ∃ name left change, cString path.bytes = .ok name
      ∧ platform.openLibrary world.files world.books name = (.ok library, left, change)
      ∧ next = world.settle left change := by
  cases hname : cString path.bytes with
  | error reason =>
    simp only [Loader.open, loader, openPath, hname] at hopen
    cases hopen
  | ok name =>
    simp only [Loader.open, openLibrary_of_cString hname] at hopen
    generalize hwork : platform.openLibrary world.files world.books name = work at hopen
    obtain ⟨result, left, change⟩ := work
    cases result with
    | error reason => cases hopen
    | ok found =>
      cases hopen
      exact ⟨name, left, change, rfl, hwork, rfl⟩

/-- What such a loader has opened is what the platform makes of the path. -/
theorem openPath_of_done (hopen : platform.loader.open world path = (.done library, next)) :
    ∃ change,
      platform.openPath world.files world.books path = (.ok library, next.books, change) := by
  obtain ⟨name, left, change, hname, hwork, rfl⟩ := open_of_done hopen
  simp only [openPath, hname, hwork]
  exact ⟨change, rfl⟩

/-- What such a loader cannot open has no name, or the platform cannot open it. -/
theorem open_of_failed {reason : String}
    (hopen : platform.loader.open world path = (.failed reason, next)) :
    next = world
      ∨ ∃ name left change, cString path.bytes = .ok name
        ∧ platform.openLibrary world.files world.books name = (.error reason, left, change)
        ∧ next = world.settle left change := by
  cases hname : cString path.bytes with
  | error fault =>
    simp only [Loader.open, loader, openPath, hname] at hopen
    cases hopen
    exact .inl rfl
  | ok name =>
    simp only [Loader.open, openLibrary_of_cString hname] at hopen
    generalize hwork : platform.openLibrary world.files world.books name = work at hopen
    obtain ⟨result, left, change⟩ := work
    cases result with
    | ok found => cases hopen
    | error fault =>
      cases hopen
      exact .inr ⟨name, left, change, rfl, hwork, rfl⟩

/-- Such a loader does not give up when it opens a library. -/
theorem open_ne_panicked {message : String} :
    platform.loader.open world path ≠ (.panicked message, next) := by
  intro hopen
  have hattempt : (platform.loader.open world path).1 = .panicked message := by rw [hopen]
  simp only [Loader.open, loader] at hattempt
  cases hresult : (platform.openPath world.files world.books path).1 <;>
    simp [hresult, Attempt.ofExcept] at hattempt

/-- A symbol that the loader resolves is resolved by the platform, to the same routine. -/
theorem resolve_eq_ok {symbol : String} {routine : Routine S}
    (hresolve : platform.loader.resolve library symbol world = .done routine) :
    platform.resolve world.books library symbol = .ok routine := by
  simp only [Loader.resolve, loader] at hresolve
  cases hresult : platform.resolve world.books library symbol with
  | error reason => simp [hresult, Attempt.ofExcept] at hresolve
  | ok found => simpa [hresult, Attempt.ofExcept] using hresolve

/-- An entry point that such a loader finds is what the platform exports under a name. -/
theorem resolve_of_done {symbol : String} {routine : Routine S}
    (hresolve : platform.loader.resolve library symbol world = .done routine) :
    ∃ name, platform.findSymbol world.books library name = .ok (some routine) := by
  have hfound := resolve_eq_ok hresolve
  unfold resolve at hfound
  cases hname : cString (Bytes.ofText symbol) with
  | error reason =>
    rw [hname] at hfound
    cases hfound
  | ok name =>
    rw [hname] at hfound
    simp only [bind, Except.bind] at hfound
    cases hgiven : platform.findSymbol world.books library name with
    | error reason =>
      rw [hgiven] at hfound
      cases hfound
    | ok found? =>
      rw [hgiven] at hfound
      cases found? with
      | none => cases hfound
      | some found =>
        cases hfound
        exact ⟨name, hgiven⟩

/-- Such a loader does not give up when it looks for an entry point. -/
theorem resolve_ne_panicked {symbol message : String} :
    platform.loader.resolve library symbol world ≠ .panicked message := by
  simp only [Loader.resolve, loader]
  cases platform.resolve world.books library symbol <;> simp [Attempt.ofExcept]

/-! ### The static state of one file -/

namespace Instances

variable {instances : platform.Instances File State} {file : File} {handles : Nat} {own : State}

/-- There are a number of handles on a file, and if there are any the file has the given state. -/
def Keeps (instances : platform.Instances File State) (world : World B S) (file : File)
    (handles : Nat) (own : State) : Prop :=
  instances.handles world.books file = handles
    ∧ (handles ≠ 0 → instances.state world.state file = own)

/-- Where a file is not open, its state may as well be any other one. -/
theorem Keeps.restarted (hkeeps : instances.Keeps world file handles own) (other : State) :
    instances.Keeps world file handles (if handles = 0 then other else own) := by
  refine ⟨hkeeps.1, fun hheld => ?_⟩
  rw [if_neg hheld]
  exact hkeeps.2 hheld

/-- What cannot be opened does not concern a file. -/
theorem Keeps.notOpened {reason : String} (hkeeps : instances.Keeps world file handles own)
    (hopen : platform.loader.open world path = (.failed reason, next)) :
    instances.Keeps next file handles own := by
  rcases open_of_failed hopen with rfl | ⟨name, left, change, -, hwork, rfl⟩
  · exact hkeeps
  · obtain ⟨hhandles, hstate⟩ := instances.failing hwork file
    refine ⟨hhandles.trans hkeeps.1, fun hheld => ?_⟩
    exact (hstate (hkeeps.1 ▸ hheld) world.state).trans (hkeeps.2 hheld)

/-- A call into a file runs on the state of the file. -/
theorem Keeps.called {routine : Routine S} {inner : Routine State} {left : World B S}
    (hruns : routine.RunsOn instances.state file inner) (hheld : handles ≠ 0)
    (hkeeps : instances.Keeps world file handles own) (buffers : CallBuffers)
    (hbooks : left.books = world.books)
    (hstate : left.state = (routine.run world.state buffers).1) :
    (routine.run world.state buffers).2 = (inner.run own buffers).2
      ∧ instances.Keeps left file handles (inner.run own buffers).1 := by
  obtain ⟨hhandles, hown⟩ := hkeeps
  refine ⟨?_, hbooks ▸ hhandles, fun _ => ?_⟩
  · rw [hruns.buffers, hown hheld]
  · rw [hstate, hruns.inside, hown hheld]

/-- A call into another file does not concern this one. -/
theorem Keeps.called_of_ne {routine : Routine S} {inner : Routine State} {other : File}
    {left : World B S} (hruns : routine.RunsOn instances.state other inner) (hother : file ≠ other)
    (hkeeps : instances.Keeps world file handles own) {buffers : CallBuffers}
    (hbooks : left.books = world.books)
    (hstate : left.state = (routine.run world.state buffers).1) :
    instances.Keeps left file handles own := by
  obtain ⟨hhandles, hown⟩ := hkeeps
  refine ⟨hbooks ▸ hhandles, fun hheld => ?_⟩
  rw [hstate, hruns.outside _ _ _ hother, hown hheld]

/-- What is opened from another file does not concern this one. -/
theorem Keeps.opened_of_ne (hkeeps : instances.Keeps world file handles own)
    (hopen : platform.loader.open world path = (.done library, next))
    (hself : instances.selfContained library) (hother : file ≠ instances.file library) :
    instances.Keeps next file handles own := by
  obtain ⟨name, left, change, -, hwork, rfl⟩ := open_of_done hopen
  obtain ⟨-, -, hothers, hkept⟩ := instances.opening hwork hself
  obtain ⟨hhandles, hstate⟩ := hkeeps
  refine ⟨(hothers file hother).trans hhandles, fun hheld => ?_⟩
  exact (hkept file (hhandles ▸ hheld) world.state).trans (hstate hheld)

/-- What is closed again and was opened from another file does not concern this one. -/
theorem Keeps.shut_of_ne (hkeeps : instances.Keeps world file handles own)
    (hself : instances.selfContained library)
    (hheld : instances.handles world.books (instances.file library) ≠ 0)
    (hother : file ≠ instances.file library) :
    instances.Keeps (platform.loader.shut library world) file handles own := by
  generalize hclose : platform.closeLibrary world.books library = work
  obtain ⟨complaint?, left, change⟩ := work
  obtain ⟨-, hothers, hkept⟩ := instances.closing hclose hself hheld
  obtain ⟨hhandles, hstate⟩ := hkeeps
  have hleft : instances.handles left file = handles := (hothers file hother).trans hhandles
  simp only [Loader.shut, loader, hclose]
  refine ⟨hleft, fun hsome => ?_⟩
  exact (hkept file (hleft ▸ hsome) world.state).trans (hstate hsome)

/-- The first handle on a file finds the state that the file begins with. -/
theorem Keeps.opened_first (hclosed : instances.handles world.books (instances.file library) = 0)
    (hopen : platform.loader.open world path = (.done library, next))
    (hself : instances.selfContained library) :
    instances.Keeps next (instances.file library) 1
      (instances.initial world.files (instances.file library)) := by
  obtain ⟨name, left, change, -, hwork, rfl⟩ := open_of_done hopen
  obtain ⟨hmore, hfirst, -, -⟩ := instances.opening hwork hself
  exact ⟨hmore.trans (by rw [hclosed]), fun _ => hfirst hclosed world.state⟩

variable [DecidableEq File]

/-- Whether a library is an instance of a file, as a number. -/
def countOn (instances : platform.Instances File State) (library : L) (file : File) : Nat :=
  if instances.file library = file then 1 else 0

/-- What is opened has one handle more. The first handle finds the state that the file begins with,
and every other one the state that there is. -/
theorem Keeps.opened (hkeeps : instances.Keeps world file handles own)
    (hstart : handles = 0 → own = instances.initial world.files file)
    (hopen : platform.loader.open world path = (.done library, next))
    (hself : instances.selfContained library) :
    instances.Keeps next file (handles + instances.countOn library file) own := by
  by_cases hfile : instances.file library = file
  · rw [countOn, if_pos hfile]
    subst hfile
    by_cases hnone : handles = 0
    · subst hnone
      rw [hstart rfl]
      exact opened_first hkeeps.1 hopen hself
    · obtain ⟨name, left, change, -, hwork, rfl⟩ := open_of_done hopen
      obtain ⟨hmore, -, -, hkept⟩ := instances.opening hwork hself
      obtain ⟨hhandles, hstate⟩ := hkeeps
      refine ⟨hmore.trans (by rw [hhandles]), fun _ => ?_⟩
      exact (hkept _ (hhandles ▸ hnone) world.state).trans (hstate hnone)
  · rw [countOn, if_neg hfile]
    exact hkeeps.opened_of_ne hopen hself (Ne.symm hfile)

/-- What is closed has one handle fewer, and the state stays for the other handles. -/
theorem Keeps.shut (hself : instances.selfContained library)
    (hheld : instances.handles world.books (instances.file library) ≠ 0)
    (hkeeps : instances.Keeps world file (handles + instances.countOn library file) own) :
    instances.Keeps (platform.loader.shut library world) file handles own := by
  by_cases hfile : instances.file library = file
  · rw [countOn, if_pos hfile] at hkeeps
    subst hfile
    generalize hclose : platform.closeLibrary world.books library = work
    obtain ⟨complaint?, left, change⟩ := work
    obtain ⟨hless, -, hkept⟩ := instances.closing hclose hself hheld
    obtain ⟨hhandles, hstate⟩ := hkeeps
    have hleft : instances.handles left (instances.file library) = handles := by
      rw [hless, hhandles, Nat.add_sub_cancel]
    simp only [Loader.shut, loader, hclose]
    refine ⟨hleft, fun hsome => ?_⟩
    exact (hkept _ (hleft ▸ hsome) world.state).trans (hstate (Nat.succ_ne_zero _))
  · rw [countOn, if_neg hfile] at hkeeps
    exact hkeeps.shut_of_ne hself hheld (Ne.symm hfile)

omit [DecidableEq File] in
/-- With the last handle closed there is none left. -/
theorem Keeps.shut_last (hself : instances.selfContained library)
    (hkeeps : instances.Keeps world (instances.file library) 1 own) :
    instances.Keeps (platform.loader.shut library world) (instances.file library) 0 own := by
  classical
  have hheld : instances.handles world.books (instances.file library) ≠ 0 := by
    rw [hkeeps.1]
    exact Nat.one_ne_zero
  refine Keeps.shut hself hheld ?_
  rwa [countOn, if_pos rfl]

end Instances

end Platform

end ControllerHost
