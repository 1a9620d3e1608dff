import ControllerHost.Proofs.FileSystem.CopyNames
import Mathlib.Data.List.Infix

/-!
# Files that do not matter

More files in a file system matter to a path only if it passes one of them, and to a new name in a
directory only if one of them has the name.

- `FileSystem.Passes`, `FileSystem.lookup_adding_of_not_passes`: paths that pass none of the files.
- `FileSystem.node?_remove`, `FileSystem.Passes.of_remove`: one file less.
- `FileSystem.room`: where a new name in a directory would go.
- `FileSystem.createNew_eq`, `FileSystem.exists?_eq`: new names and names that are taken.
- `FileSystem.room_adding`, `FileSystem.room_eq_map`: among more files, and for another name.
- `PrivateCopy.createNew_matches`, `PrivateCopy.create_matches`: making a copy among more files,
  with another random part.
-/

namespace ControllerHost

/-- Leaving out the entries with one key leaves what is found under the other ones. -/
theorem lookup_filter_ne {κ β : Type} [BEq κ] [LawfulBEq κ] [DecidableEq κ] (list : List (κ × β))
    (key other : κ) : (list.filter fun entry => entry.1 ≠ key).lookup other =
      if other = key then none else list.lookup other := by
  induction list with
  | nil => simp
  | cons entry rest ih =>
    by_cases hentry : entry.1 = key
    · rw [List.filter_cons_of_neg (by simpa using hentry), ih, List.lookup_cons]
      split
      · rfl
      · rename_i hother
        rw [beq_eq_false_iff_ne.2 fun hsame => hother (hsame.trans hentry)]
    · rw [List.filter_cons_of_pos (by simpa using hentry), List.lookup_cons, List.lookup_cons, ih]
      by_cases hother : other = entry.1
      · simp [hother, hentry]
      · rw [beq_eq_false_iff_ne.2 hother]

namespace FileSystem

variable {files : FileSystem} {added : List (Location × Bytes)} {location place : Location}

/-! ### Paths -/

/-- A path passes a location if it leads there, at its end or on its way. -/
def Passes (files : FileSystem) (path : Path) (location : Location) : Prop :=
  ∃ front ∈ (pieces path).inits, files.walk (files.origin path) front = .ok location

instance (files : FileSystem) (path : Path) (location : Location) :
    Decidable (files.Passes path location) := inferInstanceAs (Decidable (∃ front ∈ _, _))

theorem step_adding_of_not_mem (hfree : files.AreFree added)
    (hdistinct : (added.map Prod.fst).Nodup) (hplace : place ∉ added.map Prod.fst) {piece : Bytes}
    (hnext : ∀ location, (files.adding added).step place piece = .ok location →
      location ∉ added.map Prod.fst) :
    (files.adding added).step place piece = files.step place piece := by
  by_cases hpiece : place ++ [piece] ∈ added.map Prod.fst
  -- a step along the piece would be one to an added file, and so there is none
  · obtain ⟨entry, hentry, hlocation⟩ := List.mem_map.1 hpiece
    have hnode := node?_adding_of_mem hfree hdistinct hentry
    rw [hlocation] at hnode
    have hstep := hnext (place ++ [piece])
    unfold step at hstep ⊢
    rw [node?_adding_of_not_mem hfree hplace] at hstep ⊢
    rw [hnode] at hstep ⊢
    split
    · rfl
    · split
      · rfl
      · split
        · rfl
        · split
          · rfl
          · simp_all
  · unfold step
    rw [node?_adding_of_not_mem hfree hplace, node?_adding_of_not_mem hfree hpiece]

theorem walk_adding_of_not_mem (hfree : files.AreFree added)
    (hdistinct : (added.map Prod.fst).Nodup) {pieces : List Bytes}
    (hpasses : ∀ front, front <+: pieces → ∀ location,
      (files.adding added).walk place front = .ok location → location ∉ added.map Prod.fst) :
    (files.adding added).walk place pieces = files.walk place pieces := by
  induction pieces generalizing place with
  | nil => rfl
  | cons piece pieces ih =>
    -- the walk begins and goes on where no file was added
    have hplace : place ∉ added.map Prod.fst := hpasses [] (List.nil_prefix) place rfl
    have hnext : ∀ location, (files.adding added).step place piece = .ok location →
        location ∉ added.map Prod.fst := by
      intro location hstep
      apply hpasses [piece] (by simp)
      rw [walk_cons, hstep]
      rfl
    rw [walk_cons, walk_cons, ← step_adding_of_not_mem hfree hdistinct hplace hnext]
    cases hstep : (files.adding added).step place piece with
    | error fault => rfl
    | ok next =>
      apply ih
      intro front hfront location hwalk
      apply hpasses (piece :: front) (by simpa using hfront)
      rw [walk_cons, hstep]
      exact hwalk

/-- What a path leads to is the same among more files, if it passes none of them. -/
theorem lookup_adding_of_not_passes (hfree : files.AreFree added)
    (hdistinct : (added.map Prod.fst).Nodup) {path : Path}
    (hpasses : ∀ location ∈ added.map Prod.fst, ¬ (files.adding added).Passes path location) :
    (files.adding added).lookup path = files.lookup path := by
  -- where a walk along part of the path ends, the path passes
  have havoid : ∀ front, front <+: pieces path → ∀ location,
      (files.adding added).walk (files.origin path) front = .ok location →
        location ∉ added.map Prod.fst := by
    intro front hfront location hwalk hmem
    rw [← origin_adding files added] at hwalk
    exact hpasses location hmem ⟨front, (List.mem_inits _ _).2 hfront, hwalk⟩
  unfold lookup
  cases pathFault? path with
  | some fault => rfl
  | none =>
    rw [origin_adding]
    have hwalk := walk_adding_of_not_mem hfree hdistinct havoid
    cases hend : files.walk (files.origin path) (pieces path) with
    | error fault =>
      rw [hend] at hwalk
      rw [hwalk]
      rfl
    | ok location =>
      rw [hend] at hwalk
      have hlocation := havoid _ List.prefix_rfl location hwalk
      simp only [hwalk, bind, Except.bind, node?_adding_of_not_mem hfree hlocation]

/-- What leads on leads on where there is more, as long as directories stay directories. -/
theorem walk_mono {more : FileSystem}
    (hdirectory : ∀ location, files.node? location = some .directory →
      more.node? location = some .directory)
    (hnode : ∀ location, files.node? location ≠ none → more.node? location ≠ none)
    {pieces : List Bytes} (hwalk : files.walk place pieces = .ok location) :
    more.walk place pieces = .ok location := by
  -- a step leaves a directory and comes to something, and both are still there
  have hmore {place next : Location} {piece : Bytes} (hstep : files.step place piece = .ok next) :
      more.step place piece = .ok next := by
    rw [step_eq_ok] at hstep ⊢
    obtain ⟨hplace, hhere | hup | ⟨hdots, hshort, hnext, hlocation⟩⟩ := hstep
    · exact ⟨hdirectory place hplace, .inl hhere⟩
    · exact ⟨hdirectory place hplace, .inr (.inl hup)⟩
    · exact ⟨hdirectory place hplace, .inr (.inr ⟨hdots, hshort, hnode _ hnext, hlocation⟩)⟩
  induction pieces generalizing place with
  | nil => exact hwalk
  | cons piece pieces ih =>
    rw [walk_cons] at hwalk ⊢
    cases hstep : files.step place piece with
    | error fault =>
      rw [hstep] at hwalk
      cases hwalk
    | ok next =>
      rw [hstep] at hwalk
      rw [hmore hstep]
      exact ih hwalk

theorem node?_remove (hlocation : location ≠ []) (other : Location) :
    (files.remove location).node? other = if other = location then none else files.node? other := by
  cases other with
  | nil => simp [node?, Ne.symm hlocation]
  | cons piece rest => exact lookup_filter_ne files.entries location (piece :: rest)

/-- What a path passes without a file it passes with it. -/
theorem Passes.of_remove {path : Path} (hlocation : location ≠ [])
    (hpasses : (files.remove location).Passes path place) : files.Passes path place := by
  have hnode (other : Location) := @node?_remove files location hlocation other
  obtain ⟨front, hfront, hwalk⟩ := hpasses
  refine ⟨front, hfront, walk_mono (fun other hother => ?_) (fun other hother => ?_) hwalk⟩
  all_goals
    rw [hnode] at hother
    split at hother
    · simp at hother
    · exact hother

/-! ### New names -/

/-- What can be the name of a private copy, but for its length. -/
structure IsWord (name : Bytes) : Prop where
  whole : Path.separator ∉ name
  ne_nil : name ≠ []
  not_dots : isDots name = false

/-- Where a new name in a directory would go, or why it cannot go there. -/
def room (files : FileSystem) (base : Path) (name : Bytes) : Except FileFault Location :=
  match pathFault? (base.join ⟨name⟩) with
  | some fault => .error fault
  | none => (files.walk (files.origin base) (names base)).bind fun place =>
    if files.node? place ≠ some .directory then .error .notADirectory
    else if name.length > maxName then .error .nameTooLong
    else .ok (place ++ [name])

variable {base : Path} {name : Bytes}

/-- A new file goes where there is room for its name, if nothing is there. -/
theorem createNew_eq (hbase : base.bytes ≠ []) (hname : IsWord name) (content : Bytes) :
    files.createNew (base.join ⟨name⟩) content =
      (files.room base name).bind fun location =>
        if files.node? location = none then
          .ok (location, files.place location (.file content))
        else .error .alreadyExists := by
  simp only [createNew, newEntry, room, pieces_join hbase hname.whole hname.ne_nil,
    origin_join files hbase hname.whole, List.dropLast_concat, List.getLast?_concat]
  cases pathFault? (base.join ⟨name⟩) with
  | some fault => rfl
  | none =>
    cases files.walk (files.origin base) (names base) with
    | error fault => rfl
    | ok place =>
      by_cases hplace : files.node? place = some .directory
      · by_cases hlong : name.length > maxName
        · simp [bind, Except.bind, hplace, hname.not_dots, hlong]
        · cases hnode : files.node? (place ++ [name]) <;>
            simp [bind, Except.bind, hplace, hname.not_dots, hlong, hnode]
      · simp [bind, Except.bind, hplace]

/-- A name is taken if there is something where it would go. -/
theorem exists?_eq (hbase : base.bytes ≠ []) (hname : IsWord name) :
    files.exists? (base.join ⟨name⟩) =
      match files.room base name with
      | .ok location => (files.node? location).isSome
      | .error _ => false := by
  have hdots := hname.not_dots
  rw [isDots, Bool.or_eq_false_iff, decide_eq_false_iff_not, decide_eq_false_iff_not] at hdots
  simp only [exists?, lookup, room, pieces_join hbase hname.whole hname.ne_nil,
    origin_join files hbase hname.whole, walk_append]
  cases pathFault? (base.join ⟨name⟩) with
  | some fault => rfl
  | none =>
    cases files.walk (files.origin base) (names base) with
    | error fault => rfl
    | ok place =>
      simp only [bind, Except.bind, walk_cons, step, hdots.1, hdots.2, if_false]
      -- whether there is something is asked in a directory only, and for names that are not too
      -- long
      by_cases hplace : files.node? place = some .directory
      · by_cases hlong : name.length > maxName
        · simp [hplace, hlong, Except.isOk, Except.toBool]
        · cases hnode : files.node? (place ++ [name]) with
          | none => simp [hplace, hlong, hnode, Except.isOk, Except.toBool]
          | some node =>
            simp [hplace, hlong, hnode, walk, pure, Except.pure, Except.isOk, Except.toBool]
      · simp [hplace, Except.isOk, Except.toBool]

/-- Where a name would go is the same among more files. -/
theorem room_adding (hfree : files.AreFree added)
    (hdirectory : added = [] ∨ ∃ place, files.lookup base = .ok (place, .directory))
    (name : Bytes) : (files.adding added).room base name = files.room base name := by
  rcases hdirectory with rfl | ⟨place, hplace⟩
  · rfl
  · have hwalk := (lookup_directory.1 hplace).2.1
    have hnode := (lookup_directory.1 hplace).2.2
    have hwalk' := (lookup_directory.1 ((lookup_adding_directory hfree).2 hplace)).2.1
    have hnode' := (node?_adding_directory hfree).2 hnode
    simp only [room, hwalk, hwalk', Except.bind, hnode, hnode']

/-- Another name of the same length would go to the same directory. -/
theorem room_eq_map {name' : Bytes} (hlength : name'.length = name.length)
    (hfault : pathFault? (base.join ⟨name'⟩) = pathFault? (base.join ⟨name⟩)) :
    files.room base name' =
      (files.room base name).map fun location => location.dropLast ++ [name'] := by
  simp only [room, hfault, hlength]
  cases pathFault? (base.join ⟨name⟩) with
  | some fault => rfl
  | none =>
    cases files.walk (files.origin base) (names base) with
    | error fault => rfl
    | ok place =>
      simp only [Except.bind]
      split
      · rfl
      · split
        · rfl
        · simp [Except.map]

theorem getLast?_of_room (hroom : files.room base name = .ok location) :
    location.getLast? = some name := by
  unfold room at hroom
  split at hroom
  · cases hroom
  · cases hwalk : files.walk (files.origin base) (names base) with
    | error fault => simp [hwalk, Except.bind] at hroom
    | ok place =>
      simp only [hwalk, Except.bind] at hroom
      split at hroom
      · cases hroom
      · split at hroom
        · cases hroom
        · cases hroom
          exact List.getLast?_concat

/-- The path to a name in a directory ends in the name. -/
theorem exists_bytes_join (hbase : base.bytes ≠ []) :
    ∃ front, ∀ name, Path.separator ∉ name → (base.join ⟨name⟩).bytes = front ++ name := by
  have hrelative {name : Bytes} (hwhole : Path.separator ∉ name) :
      (Path.mk name).isAbsolute = false := by
    cases name with
    | nil => rfl
    | cons byte rest =>
      rw [List.mem_cons, not_or] at hwhole
      simp [Path.isAbsolute, Ne.symm hwhole.1]
  by_cases hlast : base.bytes.getLast? = some Path.separator
  · refine ⟨base.bytes, fun name hwhole => ?_⟩
    rw [Path.join, if_neg (by simp [hrelative hwhole, hbase]), if_pos hlast]
  · refine ⟨base.bytes ++ [Path.separator], fun name hwhole => ?_⟩
    rw [Path.join, if_neg (by simp [hrelative hwhole, hbase]), if_neg hlast, List.append_assoc,
      List.singleton_append]

end FileSystem

namespace PrivateCopy

open FileSystem

/-! ### Private copies -/

variable {source directory : Path} {fileName : Bytes} {conn : ConnectionId} {part part' : NamePart}

theorem isWord_nameOf (hname : source.fileName? = some fileName) (conn : ConnectionId)
    (part : NamePart) : IsWord (nameOf source fileName conn part) where
  whole := separator_not_mem_nameOf hname conn part
  ne_nil := nameOf_ne_nil source fileName conn part
  not_dots := by
    -- the random part alone is longer than two dots
    have hlength : 2 < (nameOf source fileName conn part).length := by
      simp only [nameOf, List.length_append, part.length_eq]
      omega
    simp only [isDots, Bool.or_eq_false_iff, decide_eq_false_iff_not]
    constructor <;> intro hdots <;> simp [hdots] at hlength

theorem length_nameOf (source : Path) (fileName : Bytes) (conn : ConnectionId)
    (part part' : NamePart) : (nameOf source fileName conn part').length =
      (nameOf source fileName conn part).length := by
  simp only [nameOf, List.length_append, part.length_eq, part'.length_eq]

/-- What is wrong with the path of a copy is not due to the random part of its name. -/
theorem pathFault?_nameOf {base : Path} (hbase : base.bytes ≠ [])
    (hname : source.fileName? = some fileName) (conn : ConnectionId) (part part' : NamePart) :
    pathFault? (base.join ⟨nameOf source fileName conn part'⟩) =
      pathFault? (base.join ⟨nameOf source fileName conn part⟩) := by
  obtain ⟨front, hfront⟩ := exists_bytes_join hbase
  have hzero (part : NamePart) : (0 : UInt8) ∉ part.bytes := fun hmem =>
    absurd (part.alphanumeric 0 hmem) (by decide)
  have hlength := length_nameOf source fileName conn part part'
  have hmem : 0 ∈ nameOf source fileName conn part' ↔ 0 ∈ nameOf source fileName conn part := by
    simp only [nameOf, List.mem_append, hzero, or_false]
  have hnil : ∀ part, front ++ nameOf source fileName conn part ≠ [] := fun part hnil =>
    nameOf_ne_nil source fileName conn part (List.append_eq_nil_iff.1 hnil).2
  simp only [pathFault?, hfront _ (separator_not_mem_nameOf hname conn _), List.mem_append, hmem,
    List.length_append, hlength, hnil, if_false]

/-- Other files do not matter to whether a name for a copy is taken. -/
theorem exists?_adding {files : FileSystem} {added : List (Location × Bytes)} {base : Path}
    (hbase : base.bytes ≠ []) (hfree : files.AreFree added)
    (hdirectory : added = [] ∨ ∃ place, files.lookup base = .ok (place, .directory))
    (hname : source.fileName? = some fileName)
    (hothers : ∀ location ∈ added.map Prod.fst, ∀ part,
      location.getLast? ≠ some (nameOf source fileName conn part)) (part : NamePart) :
    (files.adding added).exists? (base.join ⟨nameOf source fileName conn part⟩) =
      files.exists? (base.join ⟨nameOf source fileName conn part⟩) := by
  have hword := isWord_nameOf hname conn part
  rw [exists?_eq hbase hword, exists?_eq hbase hword, room_adding hfree hdirectory]
  cases hroom : files.room base (nameOf source fileName conn part) with
  | error fault => rfl
  | ok location =>
    have hmem : location ∉ added.map Prod.fst := fun hmem =>
      hothers location hmem part (getLast?_of_room hroom)
    simp only [node?_adding_of_not_mem hfree hmem]

theorem join_matches {base : Path} (hbase : base.bytes ≠ [])
    (hname : source.fileName? = some fileName) (conn : ConnectionId) (part part' : NamePart) :
    Bytes.Matches conn (base.join ⟨nameOf source fileName conn part⟩).bytes
      (base.join ⟨nameOf source fileName conn part'⟩).bytes := by
  obtain ⟨front, hfront⟩ := exists_bytes_join hbase
  have hmatches := (nameOf_matches source fileName conn part part').append front []
  rwa [List.append_nil, List.append_nil, ← hfront _ (separator_not_mem_nameOf hname conn part),
    ← hfront _ (separator_not_mem_nameOf hname conn part')] at hmatches

/-- Two free names for a copy can both be used, or for one reason neither. -/
theorem createNew_matches {files : FileSystem} {added : List (Location × Bytes)} {base : Path}
    (hbase : base.bytes ≠ []) (hfree : files.AreFree added)
    (hdirectory : added = [] ∨ ∃ place, files.lookup base = .ok (place, .directory))
    (hname : source.fileName? = some fileName)
    (hnone : (files.adding added).exists? (base.join ⟨nameOf source fileName conn part⟩) = false)
    (hnone' : files.exists? (base.join ⟨nameOf source fileName conn part'⟩) = false)
    (content : Bytes) :
    (∃ fault,
        (files.adding added).createNew (base.join ⟨nameOf source fileName conn part⟩) content =
          .error fault
        ∧ files.createNew (base.join ⟨nameOf source fileName conn part'⟩) content = .error fault)
      ∨ ∃ location location',
        (files.adding added).createNew (base.join ⟨nameOf source fileName conn part⟩) content =
          .ok (location, (files.adding added).place location (.file content))
        ∧ files.createNew (base.join ⟨nameOf source fileName conn part'⟩) content =
          .ok (location', files.place location' (.file content)) := by
  have hword := isWord_nameOf hname conn
  have hlike : files.room base (nameOf source fileName conn part') = _ :=
    room_eq_map (length_nameOf source fileName conn part part')
      (pathFault?_nameOf hbase hname conn part part')
  rw [exists?_eq hbase (hword part), room_adding hfree hdirectory] at hnone
  rw [exists?_eq hbase (hword part'), hlike] at hnone'
  rw [createNew_eq hbase (hword part), createNew_eq hbase (hword part'),
    room_adding hfree hdirectory, hlike]
  -- nothing is in the way of either name, so only room can be missing, and then for both
  cases hroom : files.room base (nameOf source fileName conn part) with
  | error fault => exact .inl ⟨fault, rfl, rfl⟩
  | ok location =>
    rw [hroom] at hnone hnone'
    have hhere : (files.adding added).node? location = none := by simpa using hnone
    have hthere : files.node?
        (location.dropLast ++ [nameOf source fileName conn part']) = none := by
      simpa [Except.map] using hnone'
    simp only [Except.map, Except.bind, hhere, hthere, if_true]
    exact .inr ⟨_, _, rfl, rfl⟩

/-- Making a copy of a file comes to the same among other files that it has nothing to do with, for
any choice of the random part. -/
theorem create_matches {files : FileSystem} {added : List (Location × Bytes)}
    {names names' : NameSource}
    (hnames : ∀ taken, (names.pick taken).isSome = (names'.pick taken).isSome)
    (hfree : files.AreFree added)
    (hdirectory : added = [] ∨ ∃ place,
      files.lookup ((absolute files.workDir).join directory) = .ok (place, .directory))
    (hothers : ∀ location ∈ added.map Prod.fst, ∀ fileName, source.fileName? = some fileName →
      ∀ part, location.getLast? ≠ some (nameOf source fileName conn part))
    (hsource : (files.adding added).lookup source = files.lookup source) {found : Location}
    {content : Bytes} (hfile : files.lookup source = .ok (found, .file content)) :
    (∃ failure failure', create (files.adding added) names source conn directory = .error failure
        ∧ create files names' source conn directory = .error failure'
        ∧ Text.Matches conn failure.message failure'.message)
      ∨ ∃ copy copy', create (files.adding added) names source conn directory =
          .ok (copy, (files.adding added).place copy.location (.file content))
        ∧ create files names' source conn directory =
          .ok (copy', files.place copy'.location (.file content))
        ∧ Bytes.Matches conn copy.path.bytes copy'.path.bytes := by
  have hbase := bytes_absolute_join files.workDir directory
  unfold create
  rw [hsource, workDir_adding, hfile]
  generalize (absolute files.workDir).join directory = base at hbase hdirectory ⊢
  cases hname : source.fileName? with
  | none => exact .inl ⟨_, _, rfl, rfl, Text.matches_self _ _⟩
  | some fileName =>
    -- the same names are free with and without the other files
    have htaken := exists?_adding hbase hfree hdirectory hname fun location hmem =>
      hothers location hmem fileName hname
    simp only [htaken]
    have hgive := hnames fun part =>
      files.exists? (base.join ⟨nameOf source fileName conn part⟩)
    cases hpick : names.pick fun part =>
        files.exists? (base.join ⟨nameOf source fileName conn part⟩) with
    | none =>
      rw [hpick, Option.isSome_none, eq_comm, Option.isSome_eq_false_iff,
        Option.isNone_iff_eq_none] at hgive
      simp only [hgive]
      exact .inl ⟨_, _, rfl, rfl, Text.matches_self _ _⟩
    | some part =>
      rw [hpick, Option.isSome_some, eq_comm, Option.isSome_iff_exists] at hgive
      obtain ⟨part', hpick'⟩ := hgive
      simp only [hpick']
      have hmatches := join_matches hbase hname conn part part'
      have hnone := (htaken part).trans (names.pick_free hpick)
      have hnone' := names'.pick_free hpick'
      -- both sources give a part, though perhaps not the same one
      rcases createNew_matches hbase hfree hdirectory hname hnone hnone' content with
        ⟨fault, hcreate, hcreate'⟩ | ⟨location, location', hcreate, hcreate'⟩
      · rw [hcreate, hcreate']
        refine .inl ⟨_, _, rfl, rfl, ?_⟩
        have hquote := hmatches.quote.append (fault.message ++ " at path ") ""
        simpa [Failure.message] using hquote
      · rw [hcreate, hcreate']
        exact .inr ⟨⟨_, _⟩, ⟨_, _⟩, rfl, rfl, hmatches⟩

end PrivateCopy

end ControllerHost
