import ControllerHost.FileSystem

/-!
# Following paths among more and fewer files

A regular file at a location where nothing was leads nowhere further: paths lead to the same
directories with and without it. So where a name in a directory leads depends on that directory and
that name alone, whatever other files there are.

- `FileSystem.adding`: a file system with more regular files.
- `FileSystem.lookup_adding_directory`, `FileSystem.lookup_adding_of_ok`: paths lead to the same
  directories among more files, and to what they led to.
- `FileSystem.IsName`, `FileSystem.lookup_join`: where a name in a directory leads.
- `FileSystem.createNew_join`: what creating a file in a directory takes and does.
-/

namespace ControllerHost.FileSystem

variable {files : FileSystem} {added : List (Location × Bytes)} {location place : Location}

/-! ### More files -/

/-- A file system with more regular files. -/
def adding (files : FileSystem) (added : List (Location × Bytes)) : FileSystem :=
  added.foldr (fun (location, content) files => files.place location (.file content)) files

/-- There is nothing yet where the files are added. -/
def AreFree (files : FileSystem) (added : List (Location × Bytes)) : Prop :=
  ∀ entry ∈ added, files.node? entry.1 = none

@[simp]
theorem adding_cons (files : FileSystem) (entry : Location × Bytes)
    (added : List (Location × Bytes)) :
    files.adding (entry :: added) = (files.adding added).place entry.1 (.file entry.2) := rfl

/-- More files do not change the working directory. -/
@[simp]
theorem workDir_adding (files : FileSystem) (added : List (Location × Bytes)) :
    (files.adding added).workDir = files.workDir := by
  induction added with
  | nil => rfl
  | cons entry rest ih => exact ih

/-- There is always something at the root. -/
theorem ne_nil_of_node? (hnone : files.node? location = none) : location ≠ [] := by
  rintro rfl
  cases hnone

/-- Placing something changes what is at its location and nowhere else. -/
theorem node?_place (hlocation : location ≠ []) (node : Node) (other : Location) :
    (files.place location node).node? other =
      if other = location then some node else files.node? other := by
  cases other with
  | nil => simp [node?, Ne.symm hlocation]
  | cons piece rest =>
    simp only [node?, FileSystem.place, List.lookup_cons]
    by_cases hother : piece :: rest = location
    · rw [if_pos hother, hother, BEq.rfl]
    · rw [if_neg hother, beq_eq_false_iff_ne.2 hother]

/-- Where no file was added there is what there was. -/
theorem node?_adding_of_not_mem (hfree : files.AreFree added)
    (hlocation : location ∉ added.map Prod.fst) :
    (files.adding added).node? location = files.node? location := by
  -- the file added last is at another location, and the earlier ones are by induction
  induction added with
  | nil => rfl
  | cons entry rest ih =>
    rw [List.map_cons, List.mem_cons, not_or] at hlocation
    have hrest : files.AreFree rest := fun other hmem => hfree other (List.mem_cons_of_mem _ hmem)
    have hentry := ne_nil_of_node? (hfree entry (List.mem_cons_self ..))
    rw [adding_cons, node?_place hentry, if_neg hlocation.1, ih hrest hlocation.2]

/-- Where a file was added there is that file. -/
theorem node?_adding_of_mem (hfree : files.AreFree added) (hdistinct : (added.map Prod.fst).Nodup)
    {entry : Location × Bytes} (hentry : entry ∈ added) :
    (files.adding added).node? entry.1 = some (.file entry.2) := by
  induction added with
  | nil => cases hentry
  | cons first rest ih =>
    have hrest : files.AreFree rest := fun other hmem => hfree other (List.mem_cons_of_mem _ hmem)
    have hfirst := ne_nil_of_node? (hfree first (List.mem_cons_self ..))
    rw [List.map_cons, List.nodup_cons] at hdistinct
    rw [adding_cons, node?_place hfirst]
    rcases List.mem_cons.1 hentry with rfl | hentry
    · rw [if_pos rfl]
    -- a file added earlier is not covered by a later one, since no two are at one location
    · rw [if_neg, ih hrest hdistinct.2 hentry]
      intro hsame
      exact hdistinct.1 (hsame ▸ List.mem_map_of_mem hentry)

/-- There are no other directories among more files. -/
theorem node?_adding_directory (hfree : files.AreFree added) :
    (files.adding added).node? location = some .directory ↔
      files.node? location = some .directory := by
  induction added with
  | nil => rfl
  | cons entry rest ih =>
    have hrest : files.AreFree rest := fun other hmem => hfree other (List.mem_cons_of_mem _ hmem)
    have hentry := hfree entry (List.mem_cons_self ..)
    rw [adding_cons, node?_place (ne_nil_of_node? hentry)]
    split
    -- at the location of an added file there is no directory, neither before nor after
    · rename_i hlocation
      rw [hlocation, hentry]
      simp
    · exact ih hrest

/-- What there was is there among more files. -/
theorem node?_adding_ne_none (hfree : files.AreFree added) (hnode : files.node? location ≠ none) :
    (files.adding added).node? location ≠ none := by
  rw [node?_adding_of_not_mem hfree]
  · exact hnode
  · intro hlocation
    obtain ⟨entry, hentry, rfl⟩ := List.mem_map.1 hlocation
    exact hnode (hfree entry hentry)

/-- Removing one of the added files leaves the others. -/
theorem remove_adding (hlocation : files.node? location = none) :
    (files.adding added).remove location =
      files.adding (added.filter fun entry => entry.1 ≠ location) := by
  induction added with
  | nil => exact remove_of_node? hlocation
  | cons entry rest ih =>
    by_cases hentry : entry.1 = location
    · rw [List.filter_cons_of_neg (by simpa using hentry), ← ih]
      simp [FileSystem.place, remove, hentry]
    · rw [List.filter_cons_of_pos (by simpa using hentry), adding_cons, adding_cons, ← ih]
      simp [FileSystem.place, remove, hentry]

/-! ### The same directories -/

/-- A step is taken in a directory. It stays, or goes back, or goes on to what is there. -/
theorem step_eq_ok {piece : Bytes} :
    files.step place piece = .ok location ↔
      files.node? place = some .directory
        ∧ (piece = [Path.dot] ∧ location = place
          ∨ piece = [Path.dot, Path.dot] ∧ location = place.dropLast
          ∨ isDots piece = false ∧ piece.length ≤ maxName ∧ files.node? (place ++ [piece]) ≠ none
            ∧ location = place ++ [piece]) := by
  unfold step isDots
  -- the cases are those of the step, in its order
  by_cases hplace : files.node? place = some .directory
  · by_cases hhere : piece = [Path.dot]
    · simp [hplace, hhere, eq_comm]
    · by_cases hup : piece = [Path.dot, Path.dot]
      · simp [hplace, hup, eq_comm]
      · by_cases hlong : piece.length > maxName
        · simp [hplace, hhere, hup, hlong, Nat.not_le_of_gt hlong]
        · by_cases hnone : files.node? (place ++ [piece]) = none
          · simp [hplace, hhere, hup, hlong, hnone]
          · simp [hplace, hhere, hup, hlong, hnone, Nat.le_of_not_gt hlong, eq_comm]
  · simp [hplace]

/-- A step that was possible is possible among more files. -/
theorem step_adding (hfree : files.AreFree added) {piece : Bytes}
    (hstep : files.step place piece = .ok location) :
    (files.adding added).step place piece = .ok location := by
  rw [step_eq_ok] at hstep ⊢
  obtain ⟨hplace, hhere | hup | ⟨hdots, hshort, hnode, hlocation⟩⟩ := hstep
  · exact ⟨(node?_adding_directory hfree).2 hplace, .inl hhere⟩
  · exact ⟨(node?_adding_directory hfree).2 hplace, .inr (.inl hup)⟩
  · exact ⟨(node?_adding_directory hfree).2 hplace,
      .inr (.inr ⟨hdots, hshort, node?_adding_ne_none hfree hnode, hlocation⟩)⟩

/-- A step that leads to a directory among more files leads there without them. -/
theorem step_of_adding (hfree : files.AreFree added) {piece : Bytes}
    (hstep : (files.adding added).step place piece = .ok location)
    (hlocation : files.node? location = some .directory) :
    files.step place piece = .ok location := by
  rw [step_eq_ok] at hstep ⊢
  -- only the last case depends on what stands ahead, and there the directory is given
  obtain ⟨hplace, hhere | hup | ⟨hdots, hshort, hnode, rfl⟩⟩ := hstep
  · exact ⟨(node?_adding_directory hfree).1 hplace, .inl hhere⟩
  · exact ⟨(node?_adding_directory hfree).1 hplace, .inr (.inl hup)⟩
  · exact ⟨(node?_adding_directory hfree).1 hplace,
      .inr (.inr ⟨hdots, hshort, by simp [hlocation], rfl⟩)⟩

theorem walk_cons (files : FileSystem) (place : Location) (piece : Bytes) (pieces : List Bytes) :
    files.walk place (piece :: pieces) =
      (files.step place piece).bind fun place => files.walk place pieces := rfl

/-- A walk to a directory begins in one. -/
theorem directory_of_walk {pieces : List Bytes} (hwalk : files.walk place pieces = .ok location)
    (hlocation : files.node? location = some .directory) :
    files.node? place = some .directory := by
  cases pieces with
  | nil =>
    cases hwalk
    exact hlocation
  | cons piece pieces =>
    rw [walk_cons] at hwalk
    cases hstep : files.step place piece with
    | error fault =>
      rw [hstep] at hwalk
      cases hwalk
    | ok next => exact (step_eq_ok.1 hstep).1

/-- A walk that was possible is possible among more files. -/
theorem walk_adding (hfree : files.AreFree added) {pieces : List Bytes}
    (hwalk : files.walk place pieces = .ok location) :
    (files.adding added).walk place pieces = .ok location := by
  induction pieces generalizing place with
  | nil => exact hwalk
  | cons piece pieces ih =>
    rw [walk_cons] at hwalk ⊢
    cases hstep : files.step place piece with
    | error fault =>
      rw [hstep] at hwalk
      cases hwalk
    | ok next =>
      rw [hstep] at hwalk
      rw [step_adding hfree hstep]
      exact ih hwalk

/-- What is walked to a directory among more files is walked without them. -/
theorem walk_of_adding (hfree : files.AreFree added) {pieces : List Bytes}
    (hwalk : (files.adding added).walk place pieces = .ok location)
    (hlocation : files.node? location = some .directory) :
    files.walk place pieces = .ok location := by
  induction pieces generalizing place with
  | nil => exact hwalk
  | cons piece pieces ih =>
    rw [walk_cons] at hwalk ⊢
    cases hstep : (files.adding added).step place piece with
    | error fault =>
      rw [hstep] at hwalk
      cases hwalk
    | ok next =>
      rw [hstep] at hwalk
      -- the rest of the walk begins in a directory, which is none of the added files
      have hnext := directory_of_walk hwalk ((node?_adding_directory hfree).2 hlocation)
      rw [step_of_adding hfree hstep ((node?_adding_directory hfree).1 hnext)]
      exact ih hwalk

/-- Where a path leads, it leads by being walked from where it begins. -/
theorem lookup_eq_ok {path : Path} {node : Node} :
    files.lookup path = .ok (location, node) ↔
      pathFault? path = none ∧ files.walk (files.origin path) (pieces path) = .ok location
        ∧ files.node? location = some node := by
  unfold lookup
  cases hfault : pathFault? path with
  | some fault => simp
  | none =>
    cases hwalk : files.walk (files.origin path) (pieces path) with
    | error fault => simp [bind, Except.bind]
    | ok found =>
      simp only [bind, Except.bind, true_and, Except.ok.injEq]
      cases hnode : files.node? found with
      | none =>
        simp only [reduceCtorEq, false_iff, not_and]
        rintro rfl
        simp [hnode]
      | some found =>
        simp only [Except.ok.injEq, Prod.mk.injEq]
        constructor
        · rintro ⟨rfl, rfl⟩
          exact ⟨rfl, hnode⟩
        · rintro ⟨rfl, hfound⟩
          rw [hnode] at hfound
          cases hfound
          exact ⟨rfl, rfl⟩

/-- There is no NUL in a path that leads anywhere. -/
theorem not_mem_of_lookup {path : Path} {node : Node}
    (hlookup : files.lookup path = .ok (location, node)) : 0 ∉ path.bytes := by
  have hfault := (lookup_eq_ok.1 hlookup).1
  intro hnul
  simp [pathFault?, hnul] at hfault

/-- Paths start in the same place among more files. -/
theorem origin_adding (files : FileSystem) (added : List (Location × Bytes)) (path : Path) :
    (files.adding added).origin path = files.origin path := by
  rw [origin, origin, workDir_adding]

/-- Paths lead to the same directories among more files. -/
theorem lookup_adding_directory (hfree : files.AreFree added) {path : Path} :
    (files.adding added).lookup path = .ok (location, .directory) ↔
      files.lookup path = .ok (location, .directory) := by
  rw [lookup_eq_ok, lookup_eq_ok, node?_adding_directory hfree, origin_adding]
  constructor
  · rintro ⟨hpath, hwalk, hlocation⟩
    exact ⟨hpath, walk_of_adding hfree hwalk hlocation, hlocation⟩
  · rintro ⟨hpath, hwalk, hlocation⟩
    exact ⟨hpath, walk_adding hfree hwalk, hlocation⟩

/-- Among more files a path that leads anywhere leads to the same. -/
theorem lookup_adding_of_ok (hfree : files.AreFree added) {path : Path} {node : Node}
    (hlookup : files.lookup path = .ok (location, node)) :
    (files.adding added).lookup path = .ok (location, node) := by
  obtain ⟨hfault, hwalk, hnode⟩ := lookup_eq_ok.1 hlookup
  -- nothing is added where there is something already
  have hlocation : location ∉ added.map Prod.fst := by
    intro hmem
    obtain ⟨entry, hentry, rfl⟩ := List.mem_map.1 hmem
    rw [hfree entry hentry] at hnode
    cases hnode
  rw [lookup_eq_ok, origin_adding, node?_adding_of_not_mem hfree hlocation]
  exact ⟨hfault, walk_adding hfree hwalk, hnode⟩

/-! ### Names in a directory -/

/-- What can be the name of a new entry. -/
structure IsName (name : Bytes) : Prop where
  /-- There is no separator in it. -/
  whole : Path.separator ∉ name
  /-- It is not empty. -/
  ne_nil : name ≠ []
  /-- It stands for no other directory. -/
  not_dots : isDots name = false
  /-- It is not too long. -/
  short : name.length ≤ maxName

/-- The names in a path, from left to right. -/
def names (path : Path) : List Bytes :=
  (Bytes.split Path.separator path.bytes).filter (· ≠ [])

/-- The bytes of the path to a name in a directory: as many bytes of the directory's path as there
are before its last separator, if it ends with one, then a separator and the name. -/
theorem bytes_join {base : Path} {name : Bytes} (hbase : base.bytes ≠ [])
    (hwhole : Path.separator ∉ name) :
    ∃ front, (base.join ⟨name⟩).bytes = front ++ Path.separator :: name
      ∧ (base.bytes.getLast? ≠ some Path.separator ∧ front = base.bytes
        ∨ base.bytes = front ++ [Path.separator]) := by
  -- a name does not begin with a separator, so it does not replace the directory
  have hrelative : (Path.mk name).isAbsolute = false := by
    cases name with
    | nil => rfl
    | cons byte rest =>
      rw [List.mem_cons, not_or] at hwhole
      simp [Path.isAbsolute, Ne.symm hwhole.1]
  unfold Path.join
  rw [if_neg (by simp [hrelative, hbase])]
  split
  · rename_i hlast
    obtain ⟨front, hfront⟩ := List.getLast?_eq_some_iff.1 hlast
    exact ⟨front, by simp [hfront], .inr hfront⟩
  · rename_i hlast
    exact ⟨base.bytes, rfl, .inl ⟨hlast, rfl⟩⟩

theorem pieces_eq (path : Path) :
    pieces path =
      names path ++ if path.bytes.getLast? = some Path.separator then [[Path.dot]] else [] := rfl

/-- A name is the last of those in the path to it. -/
theorem pieces_join {base : Path} {name : Bytes} (hbase : base.bytes ≠ [])
    (hwhole : Path.separator ∉ name) (hname : name ≠ []) :
    pieces (base.join ⟨name⟩) = names base ++ [name] := by
  obtain ⟨front, hbytes, hfront⟩ := bytes_join hbase hwhole
  -- the path ends in the name, and so without a separator
  have hlast : (base.join ⟨name⟩).bytes.getLast? ≠ some Path.separator := by
    intro hseparator
    rw [hbytes, List.getLast?_append, List.getLast?_cons, List.getLast?_eq_some_getLast hname,
      Option.getD_some, Option.some_or, Option.some.injEq] at hseparator
    exact hwhole (hseparator ▸ List.getLast_mem hname)
  have hnames : names (base.join ⟨name⟩) =
      (Bytes.split Path.separator front).filter (· ≠ []) ++ [name] := by
    rw [names, hbytes, Bytes.split_append_cons, Bytes.split_of_not_mem hwhole, List.filter_append,
      List.filter_cons_of_pos (by simpa using hname), List.filter_nil]
  rw [pieces_eq, if_neg hlast, hnames, List.append_nil]
  rcases hfront with ⟨-, rfl⟩ | hfront
  · rfl
  -- a separator at the end of the directory's path adds an empty piece, which is no name
  · rw [names, hfront, Bytes.split_append_cons]
    simp [Bytes.split]

/-- A name in a directory starts where the directory's path starts. -/
theorem origin_join (files : FileSystem) {base : Path} {name : Bytes} (hbase : base.bytes ≠ [])
    (hwhole : Path.separator ∉ name) : files.origin (base.join ⟨name⟩) = files.origin base := by
  obtain ⟨front, hbytes, hfront⟩ := bytes_join hbase hwhole
  have hhead : (base.join ⟨name⟩).bytes.head? = base.bytes.head? := by
    rcases hfront with ⟨-, rfl⟩ | hfront
    · rw [hbytes, List.head?_append, List.head?_eq_some_head hbase, Option.some_or]
    · rw [hbytes, hfront]
      cases front <;> rfl
  unfold origin Path.isAbsolute
  rw [hhead]

/-- Nothing is wrong with the path of a directory if nothing is wrong with that of a name in it. -/
theorem pathFault?_of_join {base : Path} {name : Bytes} (hbase : base.bytes ≠ [])
    (hwhole : Path.separator ∉ name) (hpath : pathFault? (base.join ⟨name⟩) = none) :
    pathFault? base = none := by
  obtain ⟨front, hbytes, hfront⟩ := bytes_join hbase hwhole
  -- all that can be wrong with a path is wrong with every longer one
  have hbegins : base.bytes <+: (base.join ⟨name⟩).bytes := by
    rcases hfront with ⟨-, rfl⟩ | hfront
    · exact ⟨Path.separator :: name, hbytes.symm⟩
    · exact ⟨name, by simp [hbytes, hfront]⟩
  have hshort := hbegins.length_le
  unfold pathFault? at hpath ⊢
  split at hpath
  · cases hpath
  · rename_i hnul
    split at hpath
    · cases hpath
    · split at hpath
      · cases hpath
      · rename_i hlong
        rw [if_neg fun hmem => hnul (hbegins.subset hmem), if_neg hbase, if_neg (by omega)]

/-- A walk in two parts is a walk from where the first one ends. -/
theorem walk_append (files : FileSystem) (place : Location) (first second : List Bytes) :
    files.walk place (first ++ second) =
      (files.walk place first).bind fun place => files.walk place second := by
  simp only [walk, List.foldlM_append]
  rfl

/-- A dot leads from a directory to itself. -/
theorem walk_dot : files.walk place [[Path.dot]] = .ok location ↔
    files.node? place = some .directory ∧ location = place := by
  have hstep : files.walk place [[Path.dot]] = files.step place [Path.dot] := by
    rw [walk_cons]
    cases files.step place [Path.dot] <;> rfl
  rw [hstep, step_eq_ok]
  simp [isDots]

/-- A path leads to a directory if its names do. -/
theorem lookup_directory {base : Path} :
    files.lookup base = .ok (place, .directory) ↔
      pathFault? base = none ∧ files.walk (files.origin base) (names base) = .ok place
        ∧ files.node? place = some .directory := by
  rw [lookup_eq_ok, pieces_eq]
  split
  · rw [walk_append]
    cases hwalk : files.walk (files.origin base) (names base) with
    | error fault => simp [Except.bind]
    | ok found =>
      -- the dot that stands for a last separator changes nothing
      simp only [Except.bind, walk_dot, Except.ok.injEq]
      constructor
      · rintro ⟨hfault, ⟨hfound, rfl⟩, -⟩
        exact ⟨hfault, rfl, hfound⟩
      · rintro ⟨hfault, rfl, hfound⟩
        exact ⟨hfault, ⟨hfound, rfl⟩, hfound⟩
  · rw [List.append_nil]

/-- A name leads from a directory to what is in it under that name. -/
theorem step_name (hplace : files.node? place = some .directory) {name : Bytes}
    (hname : IsName name) :
    files.step place name =
      if files.node? (place ++ [name]) = none then .error .notFound else .ok (place ++ [name]) := by
  have hdots := hname.not_dots
  rw [isDots, Bool.or_eq_false_iff, decide_eq_false_iff_not, decide_eq_false_iff_not] at hdots
  unfold step
  rw [if_neg (by simp [hplace]), if_neg hdots.1, if_neg hdots.2,
    if_neg (Nat.not_lt_of_le hname.short)]

/-- Where the path to a name in a directory leads depends on what stands there. -/
theorem lookup_join {base : Path} {name : Bytes}
    (hbase : files.lookup base = .ok (place, .directory)) (hname : IsName name)
    (hpath : pathFault? (base.join ⟨name⟩) = none) :
    files.lookup (base.join ⟨name⟩) =
      match files.node? (place ++ [name]) with
      | some node => .ok (place ++ [name], node)
      | none => .error .notFound := by
  obtain ⟨hfault, hwalk, hplace⟩ := lookup_directory.1 hbase
  have hne : base.bytes ≠ [] := by
    intro hnil
    simp [pathFault?, hnil] at hfault
  -- the walk leads to the directory first, and a step along the name is left
  unfold lookup
  rw [hpath, pieces_join hne hname.whole hname.ne_nil, origin_join files hne hname.whole,
    walk_append, hwalk]
  simp only [Except.bind, walk_cons, step_name hplace hname]
  cases hnode : files.node? (place ++ [name]) with
  | none => rfl
  | some node => simp [walk, bind, Except.bind, pure, Except.pure, hnode]

/-- A file is created in a directory under a new name, if the directory is there. -/
theorem createNew_join {base : Path} {name : Bytes} {content : Bytes} {left : FileSystem}
    (hbase : base.bytes ≠ []) (hwhole : Path.separator ∉ name) (hname : name ≠ [])
    (hcreate : files.createNew (base.join ⟨name⟩) content = .ok (location, left)) :
    ∃ place, files.lookup base = .ok (place, .directory) ∧ IsName name
      ∧ pathFault? (base.join ⟨name⟩) = none ∧ location = place ++ [name]
      ∧ files.node? location = none ∧ left = files.place location (.file content) := by
  simp only [createNew, newEntry, pieces_join hbase hwhole hname, origin_join files hbase hwhole,
    List.dropLast_concat, List.getLast?_concat] at hcreate
  -- every test on the way has to be passed, and each gives one of the facts
  cases hpath : pathFault? (base.join ⟨name⟩) with
  | some fault => simp [hpath, bind, Except.bind] at hcreate
  | none =>
    cases hwalk : files.walk (files.origin base) (names base) with
    | error fault => simp [hpath, hwalk, bind, Except.bind] at hcreate
    | ok place =>
      simp only [hpath, hwalk, bind, Except.bind] at hcreate
      by_cases hplace : files.node? place = some .directory
      · simp only [hplace, ne_eq, not_true_eq_false, if_false] at hcreate
        have hbase' : files.lookup base = .ok (place, .directory) :=
          lookup_directory.2 ⟨pathFault?_of_join hbase hwhole hpath, hwalk, hplace⟩
        split at hcreate
        · cases hcreate
        · rename_i hdots
          split at hcreate
          · cases hcreate
          · rename_i hlong
            split at hcreate
            · cases hcreate
            · rename_i hnode
              cases hcreate
              have hname' : IsName name :=
                ⟨hwhole, hname, Bool.eq_false_iff.2 hdots, Nat.le_of_not_lt hlong⟩
              exact ⟨place, hbase', hname', rfl, rfl, hnode, rfl⟩
      · simp [hplace] at hcreate

/-! ### Regular files -/

/-- What a path leads to, if that is a regular file. -/
theorem exists_of_isFile {files : FileSystem} {path : Path} (hfile : files.isFile path = true) :
    ∃ location content, files.lookup path = .ok (location, .file content) := by
  unfold isFile at hfile
  split at hfile
  · exact ⟨_, _, by assumption⟩
  · cases hfile

/-- Whether a path leads to a regular file is settled by what it leads to. -/
theorem isFile_congr {files more : FileSystem} {path : Path}
    (hlookup : files.lookup path = more.lookup path) : files.isFile path = more.isFile path := by
  simp only [isFile, hlookup]

end ControllerHost.FileSystem
