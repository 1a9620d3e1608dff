import ControllerHost.Proofs.FileSystem.Bystanders
import ControllerHost.Proofs.Slot.Files

/-!
# Making a copy step by step

A private copy is not made at once. Its source is opened, an empty file is created under a new name,
and what the source holds is put into it; if that fails, the file is there already and has to go
again. This file takes the steps one after another and finds that nothing of them is left behind but
one whole copy.

- `PrivateCopy.inSteps`, `PrivateCopy.inSteps_eq`: the steps, and that they come to the same as
  making the copy at once.
- `PrivateCopy.IsPadded`, `PrivateCopy.isPadded_paddedNumber`: the number in the name of a copy.
- `PrivateCopy.exactly_one`: what is there after a copy has been made, and after it has not.
- `World.copyPrivately_exactly_one`: the same of a world, with the reasons why a copy is not made.
-/

namespace ControllerHost

/-- Puts contents into the file at a location, in the place of what it holds. -/
def FileSystem.fill (files : FileSystem) (location : Location) (content : Bytes) : FileSystem :=
  (files.remove location).place location (.file content)

namespace PrivateCopy

/-- Makes a copy in steps, and says what files there are in the end, also when a step fails. Before
the new file is created no step changes any files, and after it a failing step removes the new file
again. -/
def inSteps (names : NameSource) (source : Path) (connection : Int32) (directory : Path)
    (files : FileSystem) : Except Failure PrivateCopy × FileSystem :=
  match source.fileName? with
  | none => (.error ⟨.noFileName, none⟩, files)
  | some fileName =>
    -- the source is opened first
    match files.lookup source with
    | .error fault => (.error ⟨fault, none⟩, files)
    | .ok (_, node) =>
      let base := (FileSystem.absolute files.workDir).join directory
      let pathOf (part : NamePart) : Path :=
        base.join ⟨nameOf source fileName connection part⟩
      match names.pick fun part => files.exists? (pathOf part) with
      | none => (.error ⟨.noFreeName, some base⟩, files)
      | some part =>
        match files.createNew (pathOf part) [] with
        | .error fault => (.error ⟨fault, some (pathOf part)⟩, files)
        | .ok (location, created) =>
          match node with
          | .directory => (.error ⟨.isADirectory, none⟩, created.remove location)
          | .file content => (.ok ⟨pathOf part, location⟩, created.fill location content)

variable {files : FileSystem} {names : NameSource} {source directory : Path} {connection : Int32}

/-- Filling a new file is creating it with its contents. -/
theorem fill_place {location : Location} (hfree : files.node? location = none) (node : Node)
    (content : Bytes) :
    (files.place location node).fill location content = files.place location (.file content) := by
  rw [FileSystem.fill, FileSystem.remove_place node hfree]

/-- The steps leave one copy, or the files that there were, as making the copy at once does. -/
theorem inSteps_eq : inSteps names source connection directory files =
    match create files names source connection directory with
    | .ok (copy, left) => (.ok copy, left)
    | .error failure => (.error failure, files) := by
  unfold inSteps create
  cases hname : source.fileName? with
  | none => rfl
  | some fileName =>
    cases files.lookup source with
    | error fault => rfl
    | ok found =>
      obtain ⟨found, node⟩ := found
      simp only
      cases names.pick _ with
      | none => rfl
      | some part =>
        have hbase := bytes_absolute_join files.workDir directory
        have hword := isWord_nameOf hname connection part
        simp only [FileSystem.createNew_eq hbase hword]
        cases files.room _ _ with
        | error fault => rfl
        | ok location =>
          simp only [Except.bind]
          by_cases hfree : files.node? location = none
          · -- what was created for a directory is removed, and for a file it is filled
            cases node with
            | directory => simp only [if_pos hfree, FileSystem.remove_place _ hfree]
            | file content => simp only [if_pos hfree, fill_place hfree]
          · simp only [if_neg hfree]

/-! ### The number in a name -/

/-- A text is a number in decimal, with as many zeros behind the sign as it takes to have three
characters. -/
def IsPadded (number : Int) (text : String) : Prop :=
  ∃ sign digits : List Char, (toString number).toList = sign ++ digits
    ∧ sign = (if number < 0 then ['-'] else [])
    ∧ text.toList = sign ++ List.replicate (3 - (toString number).length) '0' ++ digits

theorem toList_toString (number : Int) : (toString number).toList =
    (if number < 0 then ['-'] else []) ++ Nat.toDigits 10 number.natAbs := by
  cases number with
  | ofNat number =>
    have hsign : ¬ Int.ofNat number < 0 := Int.not_lt.2 (Int.natCast_nonneg number)
    rw [if_neg hsign, List.nil_append]
    exact String.toList_ofList
  | negSucc number =>
    rw [if_pos (by omega)]
    exact (String.toList_append ..).trans (congrArg _ String.toList_ofList)

theorem isPadded_paddedNumber (connection : Int32) :
    IsPadded connection.toInt (paddedNumber connection) := by
  refine ⟨_, _, toList_toString connection.toInt, rfl, ?_⟩
  rw [← String.length_toList, toList_toString, List.length_append, Nat.sub_add_eq, paddedNumber,
    String.toList_ofList]

/-- A name for a copy of a source: the source's file name, the padded number between dashes, six
letters or digits, and the source's extension behind a dot, if it has one. -/
def IsCopyName (source : Path) (connection : Int32) (name : Bytes) : Prop :=
  ∃ (fileName : Bytes) (number : String) (part : NamePart),
    source.fileName? = some fileName ∧ IsPadded connection.toInt number
      ∧ name = Bytes.ofText (Utf8.lossy fileName ++ "-" ++ number ++ "-") ++ part.bytes
        ++ source.extension?.elim []
          (fun extension => Bytes.ofText ("." ++ Utf8.lossy extension))

theorem isCopyName_nameOf {fileName : Bytes} (hname : source.fileName? = some fileName)
    (connection : Int32) (part : NamePart) :
    IsCopyName source connection (nameOf source fileName connection part) := by
  refine ⟨fileName, _, part, hname, isPadded_paddedNumber connection, ?_⟩
  rw [nameOf]
  cases source.extension? <;> rfl

/-! ### One copy or none -/

/-- When a copy has been made there are the files that there were, the source among them, and one
new file in the directory, which holds what the source holds. Deleting it undoes all that. -/
theorem exactly_one {left : FileSystem} {copy : PrivateCopy}
    (hcreate : create files names source connection directory = .ok (copy, left)) :
    let base := (FileSystem.absolute files.workDir).join directory
    ∃ name content found place, IsCopyName source connection name
      ∧ files.lookup source = .ok (found, .file content)
      ∧ files.lookup base = .ok (place, .directory)
      ∧ copy.path = base.join ⟨name⟩ ∧ copy.location = place ++ [name]
      ∧ files.node? copy.location = none ∧ left = files.place copy.location (.file content)
      ∧ left.lookup copy.path = .ok (copy.location, .file content)
      ∧ left.lookup source = files.lookup source ∧ copy.delete left = files := by
  obtain ⟨fileName, part, found, content, place, hfileName, hsource, hdirectory, hname, hpath,
    hfault, hlocation, hfree, hleft⟩ := create_eq_ok hcreate
  -- the copy is one new file among the others
  have hadding : left = files.adding [(copy.location, content)] := hleft
  have hnew : files.AreFree [(copy.location, content)] := List.forall_mem_singleton.2 hfree
  have hthere : left.lookup copy.path = .ok (copy.location, .file content) := by
    rw [hadding]
    exact (IsNewIn.intro hname hdirectory hpath hfault hlocation hfree).lookup_adding hnew (by simp)
      (List.mem_singleton_self _)
  have hkept : left.lookup source = files.lookup source := by
    rw [hadding, hsource]
    exact FileSystem.lookup_adding_of_ok hnew hsource
  exact ⟨_, content, found, place, isCopyName_nameOf hfileName connection part, hsource, hdirectory,
    hpath, hlocation, hfree, hleft, hthere, hkept, delete_of_create hcreate⟩

/-- Without a file name nothing is made, and nothing else is found out. -/
theorem create_of_fileName? (hname : source.fileName? = none) :
    create files names source connection directory = .error ⟨.noFileName, none⟩ := by
  simp only [create, hname]

/-- A source that cannot be opened is the only thing that is reported, whatever the directory is. -/
theorem create_of_lookup (hname : source.fileName? ≠ none) {fault : FileFault}
    (hsource : files.lookup source = .error fault) :
    create files names source connection directory = .error ⟨fault, none⟩ := by
  obtain ⟨fileName, hfileName⟩ := Option.ne_none_iff_exists'.1 hname
  simp only [create, hfileName, hsource]

end PrivateCopy

open PrivateCopy in
/-- **Making a copy leaves one whole file, or nothing.** What a host does to make a copy comes to
what the single steps come to. If they succeed, the source was a regular file, and the files are
those from before with one more: in the directory, at a place where there was nothing, under a name
for a copy of this source, with what the source holds. The source is what it was, and deleting the
copy takes the files back to what they were. If a step fails, the files are what they were, also
when the new file had been created before, as it is for a source that is a directory. That the
source has no file name is found out before anything else, and that it cannot be opened before
anything is asked about the directory. -/
theorem World.copyPrivately_exactly_one {B S : Type} (world : World B S) (conn : ConnectionId)
    (source : Path) (directory? : Option Path) :
    let files := world.files
    let base := (FileSystem.absolute files.workDir).join (directory?.getD world.tempDir)
    let made := inSteps world.names source conn (directory?.getD world.tempDir) files
    ((world.copyPrivately conn source directory?).1 = made.1.mapError Failure.message
        ∧ (world.copyPrivately conn source directory?).2.files = made.2)
      ∧ (∀ copy, made.1 = .ok copy →
        ∃ name content found place, IsCopyName source conn name
          ∧ files.lookup source = .ok (found, .file content)
          ∧ files.lookup base = .ok (place, .directory)
          ∧ copy.path = base.join ⟨name⟩ ∧ copy.location = place ++ [name]
          ∧ files.node? copy.location = none
          ∧ made.2 = files.place copy.location (.file content)
          ∧ made.2.lookup copy.path = .ok (copy.location, .file content)
          ∧ made.2.lookup source = files.lookup source ∧ copy.delete made.2 = files)
      ∧ (∀ failure, made.1 = .error failure → made.2 = files)
      ∧ (source.fileName? = none → made.1 = .error ⟨.noFileName, none⟩)
      ∧ (∀ fault, source.fileName? ≠ none → files.lookup source = .error fault →
        made.1 = .error ⟨fault, none⟩)
      ∧ ∀ found, files.lookup source = .ok (found, .directory) →
        ∃ failure, made.1 = .error failure := by
  intro files base made
  -- all that is said of the steps is read off making the copy at once
  have hmade : made = match create files world.names source conn
      (directory?.getD world.tempDir) with
    | .ok (copy, left) => (.ok copy, left)
    | .error failure => (.error failure, files) := inSteps_eq
  refine ⟨?_, ?_, ?_, ?_, ?_, ?_⟩
  · rw [hmade, World.copyPrivately]
    cases create files world.names source conn (directory?.getD world.tempDir) with
    | error failure => exact ⟨rfl, rfl⟩
    | ok made => exact ⟨rfl, rfl⟩
  · intro copy hcopy
    cases hcreate : create files world.names source conn (directory?.getD world.tempDir) with
    | error failure => simp [hmade, hcreate] at hcopy
    | ok result =>
      obtain ⟨copy', left⟩ := result
      rw [hcreate] at hmade
      rw [hmade, Except.ok.injEq] at hcopy
      subst hcopy
      rw [hmade]
      exact exactly_one hcreate
  · intro failure hfailure
    cases hcreate : create files world.names source conn (directory?.getD world.tempDir) with
    | error failure => simp [hmade, hcreate]
    | ok result => simp [hmade, hcreate] at hfailure
  · intro hname
    rw [hmade, create_of_fileName? hname]
  · intro fault hname hsource
    rw [hmade, create_of_lookup hname hsource]
  · intro found hsource
    cases hcreate : create files world.names source conn (directory?.getD world.tempDir) with
    | error failure => exact ⟨failure, by simp [hmade, hcreate]⟩
    | ok result =>
      obtain ⟨found', content, hfile, -, -⟩ := create_ok hcreate
      rw [hsource] at hfile
      cases hfile

open PrivateCopy in
/-- The file's name is no text, the path to it goes back and forth, and the connection has a sign. A
directory can be opened, and when it turns out that it cannot be read, the new file is there already
and goes again. -/
theorem World.copyPrivately_exactly_one_signed :
    let files : FileSystem :=
      { entries :=
          [([Bytes.ofText "tmp"], .directory), ([Bytes.ofText "lib"], .directory),
            ([Bytes.ofText "lib", 0xFF :: Bytes.ofText ".so"], .file [1, 2, 3])]
        workDir := [Bytes.ofText "lib"] }
    let world : World Unit Unit := { files, tempDir := .ofText "/tmp", books := (), state := () }
    let source : Path := ⟨Bytes.ofText "../lib/.//" ++ 0xFF :: Bytes.ofText ".so"⟩
    let made := inSteps world.names source (-5) world.tempDir files
    let failed := inSteps world.names (.ofText "../lib") 0 world.tempDir files
    let copy : PrivateCopy :=
      ⟨.ofText "/tmp/�.so--05-aaaaaa.so",
        [Bytes.ofText "tmp", Bytes.ofText "�.so--05-aaaaaa.so"]⟩
    made.1 = .ok copy ∧ (world.copyPrivately (-5) source none).2.files = made.2
      ∧ made.2.lookup copy.path = .ok (copy.location, .file [1, 2, 3])
      ∧ copy.delete made.2 = files
      ∧ failed.1 = .error ⟨.isADirectory, none⟩ ∧ failed.2 = files := by
  intro files world source made failed copy
  obtain ⟨⟨-, hfiles⟩, hone, -, -, -, -⟩ := copyPrivately_exactly_one world (-5) source none
  obtain ⟨-, -, hnone, -, -, -⟩ := copyPrivately_exactly_one world 0 (.ofText "../lib") none
  have hmade : made.1 = .ok copy := by decide +kernel
  have hfailed : failed.1 = .error ⟨.isADirectory, none⟩ := by decide +kernel
  obtain ⟨name, content, found, place, -, hsource, -, -, -, -, -, hthere, -, hdeleted⟩ :=
    hone copy hmade
  have hcontent : files.lookup source =
      .ok ([Bytes.ofText "lib", 0xFF :: Bytes.ofText ".so"], .file [1, 2, 3]) := by
    decide +kernel
  have hsame := hcontent.symm.trans hsource
  simp only [Except.ok.injEq, Prod.mk.injEq, Node.file.injEq] at hsame
  obtain ⟨-, rfl⟩ := hsame
  exact ⟨hmade, hfiles, hthere, hdeleted, hfailed, hnone _ hfailed⟩

end ControllerHost
