import ControllerHost.Linker.Basic
import ControllerHost.Proofs.FileSystem.Lookup
import ControllerHost.Proofs.Platform.Instances

/-!
# The linker's instances

A linker keeps one instance of each library, and so it is a platform of which that can be assumed.

- `Linker.Books.at?_put`: what is open after one entry of the books has been written.
- `Linker.expand_of_not_mem`: names in which nothing stands for anything else.
- `Linker.Finds`, `Linker.finds`: what a linker finds is open, or is there to be opened.
- `Linker.instances`: a linker has instances.
-/

namespace ControllerHost.Linker

variable {σ : Type}

/-! ### Books -/

namespace Books

/-- What is open from a place after one entry has been written. -/
theorem at?_put (books : Books σ) (place : Place) (mapping : Mapping σ) (other : Place) :
    (books.put place mapping).at? other =
      if other = place then if mapping.handles = 0 then none else some mapping
      else books.at? other := by
  -- by induction on the books, since the entry of the place may be anywhere in them
  have hothers : (books.filter fun entry => decide (entry.1 ≠ place)).lookup other =
      if other = place then none else books.lookup other := by
    induction books with
    | nil => simp
    | cons entry rest ih =>
      obtain ⟨key, found⟩ := entry
      by_cases hkey : key = place
      · subst hkey
        rw [List.filter_cons_of_neg (by simp), ih]
        split
        · rfl
        · rename_i hother
          rw [List.lookup_cons, beq_eq_false_iff_ne.2 hother]
      · rw [List.filter_cons_of_pos (by simpa using hkey), List.lookup_cons, List.lookup_cons, ih]
        by_cases hother : other = key
        · subst hother
          simp [hkey]
        · rw [beq_eq_false_iff_ne.2 hother]
  unfold put at?
  by_cases hhandles : mapping.handles = 0
  · simp only [hhandles, if_true, hothers]
    split <;> rfl
  · simp only [hhandles, if_false, List.lookup_cons, hothers]
    by_cases hother : other = place
    · simp [hother, hhandles]
    · rw [beq_eq_false_iff_ne.2 hother, if_neg hother, if_neg hother]

/-- What is open has handles. -/
theorem handles_of_at? {books : Books σ} {place : Place} {mapping : Mapping σ}
    (hopen : books.at? place = some mapping) : mapping.handles ≠ 0 := by
  simpa using (Option.filter_eq_some_iff.1 hopen).2

/-- The number of handles on what is open from a place. -/
def handles (books : Books σ) (place : Place) : Nat := (books.at? place).elim 0 (·.handles)

/-- A place has no handles just when nothing is mapped there. -/
theorem handles_eq_zero {books : Books σ} {place : Place} :
    books.handles place = 0 ↔ books.at? place = none := by
  unfold handles
  cases hopen : books.at? place with
  | none => simp
  | some mapping => simpa using handles_of_at? hopen

/-- Putting down a mapping sets the handles of its own place only. -/
theorem handles_put (books : Books σ) (place : Place) (mapping : Mapping σ) (other : Place) :
    (books.put place mapping).handles other =
      if other = place then mapping.handles else books.handles other := by
  unfold handles
  rw [at?_put]
  by_cases hother : other = place
  · rw [if_pos hother, if_pos hother]
    split
    · rename_i hnone
      exact hnone.symm
    · rfl
  · rw [if_neg hother, if_neg hother]

/-- What goes by a name is open. -/
theorem at?_of_named? {books : Books σ} {name : Bytes} {place : Place} {mapping : Mapping σ}
    (hnamed : books.named? name = some (place, mapping)) : books.at? place = some mapping := by
  obtain ⟨entry, -, hfound⟩ := List.exists_of_findSome?_eq_some hnamed
  obtain ⟨found, hopen, hsame⟩ := Option.map_eq_some_iff.1 hfound
  cases hsame
  exact (Option.filter_eq_some_iff.1 hopen).1

end Books

/-! ### Names -/

/-- A text without a dollar sign is not expanded. -/
theorem expandFrom_of_not_mem {tokens : List (Bytes × Bytes)} {text : Bytes}
    (hplain : Platform.dollar ∉ text) (length : Nat) : expandFrom tokens length text = text := by
  induction text generalizing length with
  | nil => cases length <;> rfl
  | cons byte rest ih =>
    rw [List.mem_cons, not_or] at hplain
    cases length with
    | zero => rfl
    | succ length => rw [expandFrom, if_neg (Ne.symm hplain.1), ih hplain.2]

/-- A name without the sign that begins a token stands for itself. -/
theorem expand_of_not_mem {tokens : List (Bytes × Bytes)} {text : Bytes}
    (hplain : Platform.dollar ∉ text) : expand tokens text = text :=
  expandFrom_of_not_mem hplain _

/-! ### What a linker finds -/

variable (linker : Linker σ)

/-- The library that is at a place, whether it is open or not. -/
def library? (files : FileSystem) : Place → Option (SharedLibrary σ)
  | .file location =>
    match files.node? location with
    | some (.file content) => (linker.read content).toOption
    | _ => none
  | .system name => linker.system name
  | .program => some linker.program

/-- What a linker finds is open, or is at its place and not open yet. -/
inductive Finds (files : FileSystem) (books : Books σ) (place : Place) (mapping : Mapping σ) : Prop
  | opened (hopen : books.at? place = some mapping)
  | fresh (hclosed : books.at? place = none) (hhandles : mapping.handles = 0)
      (hlibrary : linker.library? files place = some mapping.library)

variable {linker} {files : FileSystem} {books : Books σ} {name : Bytes} {place : Place}
  {mapping : Mapping σ}

/-- A mapping is what the linker finds at its place, when the library it was read from lies
there. -/
theorem finds_of_mapping {read : Except String (SharedLibrary σ)}
    (hmapping : linker.mapping files books name place read = .ok mapping)
    (hread : ∀ library, read = .ok library → linker.library? files place = some library) :
    linker.Finds files books place mapping := by
  unfold Linker.mapping at hmapping
  -- it was open already, or it has been read and lacks nothing
  cases hopen : books.at? place with
  | some found =>
    rw [hopen] at hmapping
    cases hmapping
    exact .opened hopen
  | none =>
    rw [hopen] at hmapping
    cases read with
    | error reason => cases hmapping
    | ok library =>
      simp only at hmapping
      split at hmapping
      · cases hmapping
      · cases hmapping
        exact .fresh hopen rfl (hread library rfl)

/-- What a linker finds under a name is open, or is there to be opened. -/
theorem finds (hfind : linker.find files books name = .ok (place, mapping)) :
    linker.Finds files books place mapping := by
  -- the result of each branch is what is mapped at one place
  have hplaced {at' : Place} {read : Except String (SharedLibrary σ)}
      (hmap : (linker.mapping files books name at' read).map (fun mapping => (at', mapping)) =
        .ok (place, mapping))
      (hread : ∀ library, read = .ok library → linker.library? files at' = some library) :
      linker.Finds files books place mapping := by
    cases hmapping : linker.mapping files books name at' read with
    | error reason =>
      rw [hmapping] at hmap
      cases hmap
    | ok found =>
      rw [hmapping] at hmap
      cases hmap
      exact finds_of_mapping hmapping hread
  unfold find at hfind
  split at hfind
  · refine hplaced hfind fun library hlibrary => ?_
    cases hlibrary
    rfl
  · split at hfind
    · split at hfind
      · rename_i found hnamed
        cases hfind
        exact .opened (Books.at?_of_named? hnamed)
      · rename_i library hnone hsystem
        refine hplaced hfind fun found hfound => ?_
        cases hfound
        exact hsystem
      · cases hfind
    · split at hfind
      · cases hfind
      · cases hfind
      · rename_i location content hlookup
        refine hplaced hfind fun library hread => ?_
        have hnode := (FileSystem.lookup_eq_ok.1 hlookup).2.2
        simp only [library?, hnode, hread]
        rfl

/-- What a linker finds by a path is at the place that the path leads to. -/
theorem place_of_find (hplain : Platform.IsPlain name) {location : Location} {content : Bytes}
    (hlookup : files.lookup ⟨name⟩ = .ok (location, .file content))
    (hfind : linker.find files books name = .ok (place, mapping)) : place = .file location := by
  have hname : name ≠ [] := List.ne_nil_of_mem hplain.separator
  simp only [find, hname, if_false, hplain.separator, not_true_eq_false,
    expand_of_not_mem hplain.dollar, hlookup] at hfind
  cases hmapping : linker.mapping files books name (.file location) (linker.read content) with
  | error reason =>
    rw [hmapping] at hfind
    cases hfind
  | ok found =>
    rw [hmapping] at hfind
    cases hfind
    rfl

/-! ### Instances -/

@[simp]
theorem State.put_same (state : State σ) (place : Place) (own : σ) :
    state.put place own place = own := if_pos rfl

/-- Putting down the state of one place leaves every other. -/
@[simp]
theorem State.put_of_ne (state : State σ) {place other : Place} (hother : other ≠ place) (own : σ) :
    state.put place own other = state other := if_neg hother

/-- What a routine on all state does if all places have the state of one of them. -/
def ownRoutine (place : Place) (routine : Routine (State σ)) : Routine σ where
  run own buffers :=
    let (all, buffers) := routine.run (fun _ => own) buffers
    (all place, buffers)
  keepsLengths own buffers := routine.keepsLengths (fun _ => own) buffers

/-- A routine set up to run at a place is, seen from there, the routine itself. -/
theorem ownRoutine_routineAt (place : Place) (routine : Routine σ) :
    ownRoutine place (routineAt place routine) = routine := by
  obtain ⟨run, keepsLengths⟩ := routine
  simp [ownRoutine, routineAt]

/-- A routine set up to run at a place runs on the state of that place. -/
theorem runsOn_routineAt (place : Place) (routine : Routine σ) :
    (routineAt place routine).RunsOn (fun all : State σ => all) place routine where
  buffers _ _ := rfl
  inside _ _ := State.put_same _ _ _
  outside _ _ _ hother := State.put_of_ne _ hother _

/-- A linker keeps one instance of each library. -/
def instances (linker : Linker σ) : linker.platform.Instances Place σ where
  located := .file
  file := Handle.place
  selfContained _ := True
  handles := Books.handles
  state all := all
  initial files place := ((linker.library? files place).getD linker.program).initial
  own := ownRoutine
  located_injective hsame := by
    cases hsame
    rfl
  file_of_path {files books name location content library left change} hplain hlookup hopen := by
    simp only [platform, openLibrary] at hopen
    cases hfind : linker.find files books name with
    | error reason =>
      rw [hfind] at hopen
      cases hopen
    | ok found =>
      obtain ⟨place, mapping⟩ := found
      rw [hfind] at hopen
      cases hopen
      exact place_of_find hplain hlookup hfind
  failing {files books name reason left change} hopen := by
    simp only [platform, openLibrary] at hopen
    cases hfind : linker.find files books name with
    | error fault =>
      rw [hfind] at hopen
      cases hopen
      exact fun _ => ⟨rfl, fun _ _ => rfl⟩
    | ok found =>
      rw [hfind] at hopen
      cases hopen
  opening {files books name library left change} hopen _ := by
    simp only [platform, openLibrary] at hopen
    cases hfind : linker.find files books name with
    | error reason =>
      rw [hfind] at hopen
      cases hopen
    | ok found =>
      obtain ⟨place, mapping⟩ := found
      rw [hfind] at hopen
      cases hopen
      refine ⟨?_, ?_, fun other hother => by rw [Books.handles_put, if_neg hother], ?_⟩
      · rw [Books.handles_put, if_pos rfl]
        rcases finds hfind with hopened | ⟨hclosed, hhandles, -⟩
        · rw [Books.handles, hopened]
          rfl
        · rw [hhandles, Books.handles_eq_zero.2 hclosed]
      · intro hnone all
        rcases finds hfind with hopened | ⟨hclosed, -, hlibrary⟩
        · rw [Books.handles_eq_zero.1 hnone] at hopened
          cases hopened
        · simp [hclosed, hlibrary]
      · intro other hheld all
        split
        · rfl
        · rename_i hnot
          refine State.put_of_ne _ ?_ _
          rintro rfl
          exact hheld (Books.handles_eq_zero.2 (Option.not_isSome_iff_eq_none.1 hnot))
  closing {books library complaint? left change} hclose _ hheld := by
    simp only [platform, closeLibrary] at hclose
    cases hopened : books.at? library.place with
    | none => exact absurd (Books.handles_eq_zero.2 hopened) hheld
    | some mapping =>
      rw [hopened] at hclose
      cases hclose
      refine ⟨?_, fun other hother => by rw [Books.handles_put, if_neg hother], fun _ _ _ => rfl⟩
      rw [Books.handles_put, if_pos rfl, Books.handles, hopened]
      rfl
  running {books library name routine} hfound _ := by
    simp only [platform, findSymbol] at hfound
    cases hexport : library.library.export? name with
    | none =>
      rw [hexport] at hfound
      cases hfound
    | some exported? =>
      rw [hexport] at hfound
      obtain ⟨exported, rfl, rfl⟩ := Option.map_eq_some_iff.1 (Except.ok.inj hfound)
      rw [ownRoutine_routineAt]
      exact runsOn_routineAt _ _

end ControllerHost.Linker
