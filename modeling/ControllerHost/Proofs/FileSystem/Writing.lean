import ControllerHost.Proofs.FileSystem.Bystanders
import ControllerHost.Proofs.Settings.Basic

/-!
# Writing files

Writing a file and creating the directories that lead to it take nothing away: directories stay
directories, and what is there stays there. So paths lead to the same directories afterwards, and
the path that was written leads to what was written.

- `FileSystem.Keeps`: a file system in which everything from before is still there.
- `FileSystem.Keeps.isDirectory`: paths that still lead to a directory.
- `FileSystem.keeps_createParents`: the directories that lead to a file.
- `FileSystem.Written`, `FileSystem.written_write`: a file that has been written.
- `FileSystem.Written.readText`: a text that has been written is read.
-/

namespace ControllerHost.FileSystem

variable {files left : FileSystem} {path : Path} {location place : Location}

/-- Everything is still there, and the directories are still directories. -/
structure Keeps (files left : FileSystem) : Prop where
  /-- Relative paths begin where they did. -/
  workDir : left.workDir = files.workDir
  /-- Directories stay directories. -/
  directory : ∀ location, files.node? location = some .directory →
    left.node? location = some .directory
  /-- What is there stays there. -/
  node : ∀ location, files.node? location ≠ none → left.node? location ≠ none

namespace Keeps

theorem refl (files : FileSystem) : files.Keeps files := ⟨rfl, fun _ h => h, fun _ h => h⟩

theorem trans {last : FileSystem} (hfirst : files.Keeps left) (hsecond : left.Keeps last) :
    files.Keeps last where
  workDir := hsecond.workDir.trans hfirst.workDir
  directory location h := hsecond.directory location (hfirst.directory location h)
  node location h := hsecond.node location (hfirst.node location h)

theorem walk (hkeeps : files.Keeps left) {pieces : List Bytes}
    (hwalk : files.walk place pieces = .ok location) : left.walk place pieces = .ok location :=
  walk_mono hkeeps.directory hkeeps.node hwalk

theorem origin (hkeeps : files.Keeps left) (path : Path) :
    left.origin path = files.origin path := by
  rw [FileSystem.origin, FileSystem.origin, hkeeps.workDir]

/-- A path that leads to a directory still does. -/
theorem isDirectory (hkeeps : files.Keeps left) (hpath : files.isDirectory path) :
    left.isDirectory path := by
  unfold FileSystem.isDirectory at hpath ⊢
  split at hpath
  · rename_i location hlookup
    obtain ⟨hfault, hwalk, hnode⟩ := lookup_eq_ok.1 hlookup
    have hleft : left.lookup path = .ok (location, .directory) :=
      lookup_eq_ok.2 ⟨hfault, by rw [hkeeps.origin]; exact hkeeps.walk hwalk,
        hkeeps.directory location hnode⟩
    rw [hleft]
  · cases hpath

end Keeps

/-! ### New entries -/

/-- A new entry takes nothing away. -/
theorem keeps_place (hlocation : files.node? location = none) (node : Node) :
    files.Keeps (files.place location node) := by
  have hne {other : Location} (hother : files.node? other ≠ none) : other ≠ location := by
    rintro rfl
    exact hother hlocation
  refine ⟨rfl, fun other hother => ?_, fun other hother => ?_⟩
  · rwa [node?_place (ne_nil_of_node? hlocation), if_neg (hne (by simp [hother]))]
  · rwa [node?_place (ne_nil_of_node? hlocation), if_neg (hne hother)]

/-- Where a new entry goes is a directory that all but the last of the path's names lead to. -/
theorem newEntry_eq_ok {pieces : List Bytes} {piece? : Option Bytes}
    (hnew : files.newEntry path pieces = .ok (place, piece?)) :
    pathFault? path = none ∧ files.walk (files.origin path) pieces.dropLast = .ok place
      ∧ files.node? place = some .directory ∧ piece? = pieces.getLast? := by
  unfold newEntry at hnew
  split at hnew
  · cases hnew
  · rename_i hfault
    obtain ⟨found, hwalk, hfound⟩ := bind_eq_ok.1 hnew
    split at hfound
    · cases hfound
    · rename_i hdirectory
      cases hfound
      exact ⟨hfault, hwalk, Classical.not_not.1 hdirectory, rfl⟩

/-- A directory is created where there is nothing yet. -/
theorem createDirectory_eq_ok (hcreate : files.createDirectory path = .ok left) :
    ∃ location, files.node? location = none ∧ left = files.place location .directory := by
  obtain ⟨⟨directory, piece?⟩, -, hcreate⟩ := bind_eq_ok.1 hcreate
  cases piece? with
  | none => cases hcreate
  | some piece =>
    simp only at hcreate
    split at hcreate
    · cases hcreate
    split at hcreate
    · cases hcreate
    split at hcreate
    · cases hcreate
    · rename_i hfree
      cases hcreate
      exact ⟨directory ++ [piece], hfree, rfl⟩

theorem keeps_createDirectory (hcreate : files.createDirectory path = .ok left) :
    files.Keeps left := by
  obtain ⟨location, hlocation, rfl⟩ := createDirectory_eq_ok hcreate
  exact keeps_place hlocation .directory

theorem keeps_ensureDirectory (hensure : files.ensureDirectory path = .ok left) :
    files.Keeps left := by
  unfold ensureDirectory at hensure
  split at hensure
  · rename_i created hcreate
    cases hensure
    exact keeps_createDirectory hcreate
  · split at hensure
    · cases hensure
      exact .refl files
    · cases hensure

/-- Creating the directories that lead somewhere takes nothing away. -/
theorem keeps_createDirectoriesFrom {depth : Nat}
    (hcreate : files.createDirectoriesFrom path depth = .ok left) : files.Keeps left := by
  induction depth generalizing path left with
  | zero => cases hcreate
  | succ depth ih =>
    rw [createDirectoriesFrom] at hcreate
    split at hcreate
    · cases hcreate
      exact .refl files
    split at hcreate
    · rename_i created hcreated
      cases hcreate
      exact keeps_createDirectory hcreated
    -- a missing parent is created first, and then the directory itself
    · split at hcreate
      · cases hcreate
      · obtain ⟨created, hparent, hensure⟩ := bind_eq_ok.1 hcreate
        exact (ih hparent).trans (keeps_ensureDirectory hensure)
    · split at hcreate
      · cases hcreate
        exact .refl files
      · cases hcreate

theorem keeps_createParents (hcreate : Settings.createParents files path = .ok left) :
    files.Keeps left := by
  unfold Settings.createParents at hcreate
  split at hcreate
  · exact keeps_createDirectoriesFrom hcreate
  · cases hcreate
    exact .refl files

/-! ### Written files -/

/-- A file that has been written. -/
structure Written (files : FileSystem) (path : Path) (content : Bytes) (left : FileSystem) :
    Prop where
  /-- Everything is still there. -/
  keeps : files.Keeps left
  /-- The path leads to the file. -/
  lookup : ∃ location, left.lookup path = .ok (location, .file content)

/-- What is placed in a directory under the last of a path's names is what the path leads to. -/
theorem lookup_of_place {piece : Bytes} {node : Node} (hfault : pathFault? path = none)
    (hwalk : files.walk (files.origin path) (pieces path).dropLast = .ok place)
    (hplace : files.node? place = some .directory) (hlast : (pieces path).getLast? = some piece)
    (hdots : isDots piece = false) (hshort : piece.length ≤ maxName)
    (hnode : files.node? (place ++ [piece]) = some node) :
    files.lookup path = .ok (place ++ [piece], node) := by
  have hpieces : pieces path = (pieces path).dropLast ++ [piece] :=
    (List.dropLast_append_getLast? piece hlast).symm
  have hstep : files.step place piece = .ok (place ++ [piece]) :=
    step_eq_ok.2 ⟨hplace, .inr (.inr ⟨hdots, hshort, by simp [hnode], rfl⟩)⟩
  rw [lookup_eq_ok, hpieces, walk_append, hwalk]
  refine ⟨hfault, ?_, hnode⟩
  simp only [Except.bind, walk_cons, hstep]
  rfl

/-- A file where no directory is takes nothing away, whether it is new or in the place of
another. -/
theorem keeps_file {content : Bytes} (hworkDir : left.workDir = files.workDir)
    (hleft : ∀ other, left.node? other =
      if other = location then some (.file content) else files.node? other)
    (hlocation : files.node? location ≠ some .directory) : files.Keeps left := by
  refine ⟨hworkDir, fun other hother => ?_, fun other hother => ?_⟩
  · have hne : other ≠ location := by
      rintro rfl
      exact hlocation hother
    rwa [hleft, if_neg hne]
  · rw [hleft]
    split
    · simp
    · exact hother

/-- Writing a file takes nothing away, and the path leads to the file. -/
theorem written_write {content : Bytes} (hwrite : files.write path content = .ok left) :
    files.Written path content left := by
  obtain ⟨⟨directory, piece?⟩, hnew, hwrite⟩ := bind_eq_ok.1 hwrite
  obtain ⟨hfault, hwalk, hdirectory, rfl⟩ := newEntry_eq_ok hnew
  cases hlast : (pieces path).getLast? with
  | none =>
    rw [hlast] at hwrite
    cases hwrite
  | some piece =>
    rw [hlast] at hwrite
    simp only at hwrite
    split at hwrite
    · cases hwrite
    rename_i hdots
    split at hwrite
    · cases hwrite
    rename_i hshort
    -- the file is the only change, and it is not where a directory was
    have hdone (hworkDir : left.workDir = files.workDir)
        (hleft : ∀ other, left.node? other =
          if other = directory ++ [piece] then some (.file content) else files.node? other)
        (hfree : files.node? (directory ++ [piece]) ≠ some .directory) :
        files.Written path content left := by
      have hkeeps := keeps_file hworkDir hleft hfree
      have hplaced : left.node? (directory ++ [piece]) = some (.file content) := by
        rw [hleft, if_pos rfl]
      exact ⟨hkeeps, directory ++ [piece], lookup_of_place hfault
        (by rw [hkeeps.origin]; exact hkeeps.walk hwalk) (hkeeps.directory directory hdirectory)
        hlast (Bool.eq_false_iff.2 hdots) (Nat.le_of_not_gt hshort) hplaced⟩
    have hlocation : directory ++ [piece] ≠ [] := by simp
    split at hwrite
    · cases hwrite
    · rename_i old hold
      cases hwrite
      refine hdone rfl (fun other => ?_) (by simp [hold])
      rw [node?_place hlocation, node?_remove hlocation]
      split <;> rfl
    · rename_i hnone
      cases hwrite
      exact hdone rfl (node?_place hlocation _) (by simp [hnone])

/-- A text that has been written to a file is read from it. -/
theorem Written.readText {text : String}
    (hwritten : files.Written path (Bytes.ofText text) left) :
    left.readText path = .ok text := by
  obtain ⟨location, hlookup⟩ := hwritten.lookup
  simp [FileSystem.readText, hlookup, Bytes.text?_ofText, bind, Except.bind]

end ControllerHost.FileSystem
