import ControllerHost.PrivateCopy
import ControllerHost.Proofs.FileSystem.Lookup

/-!
# Private copies in a file system

A private copy is a new regular file directly in the directory that it is made in, with the contents
of its source. There is no separator in its name, whatever bytes the name of the source has, so that
no other directory is ever meant.

- `PrivateCopy.separator_not_mem_nameOf`: there is no separator in the name of a copy.
- `PrivateCopy.IsNewIn`: where a copy is, and that nothing was there.
- `PrivateCopy.create_eq_ok`, `PrivateCopy.create_ok`: what making a copy takes and does.
- `PrivateCopy.IsNewIn.lookup_adding`: a copy stays where it is among other new files.
-/

namespace ControllerHost

/-! ### Names -/

theorem Path.separator_mem_ofText {text : String} :
    Path.separator ∈ Bytes.ofText text ↔ '/' ∈ text.toList := by
  rw [Bytes.mem_ofText (by decide)]
  constructor
  · rintro ⟨char, hchar, hnumber⟩
    have hslash : char = '/' := Char.toNat_inj.1 hnumber
    exact hslash ▸ hchar
  · intro hslash
    exact ⟨'/', hslash, rfl⟩

theorem Path.slash_not_mem_lossy {bytes : Bytes} (hbytes : Path.separator ∉ bytes) :
    '/' ∉ (Utf8.lossy bytes).toList := by
  intro hslash
  obtain ⟨byte, hmem, hbyte⟩ := Utf8.mem_of_mem_lossy (by decide) hslash
  have hseparator : byte = Path.separator := UInt8.toNat_inj.1 hbyte
  exact hbytes (hseparator ▸ hmem)

/-- A file name is one of the pieces of its path. -/
theorem Path.mem_split_of_fileName? {path : Path} {name : Bytes}
    (hname : path.fileName? = some name) : name ∈ Bytes.split separator path.bytes := by
  unfold fileName? at hname
  split at hname
  · rename_i piece hlast
    cases hname
    have hmem := List.mem_of_getLast? hlast
    simp only [components, List.mem_append, List.mem_filterMap] at hmem
    rcases hmem with hfront | ⟨piece', hpiece', hcomponent⟩
    -- what may stand in front of the pieces, a root or a dot, is no name
    · split at hfront
      · simp at hfront
      · split at hfront <;> simp at hfront
    · unfold Component.ofPiece? at hcomponent
      split at hcomponent
      · cases hcomponent
      · split at hcomponent
        · cases hcomponent
        · cases hcomponent
          exact hpiece'
  · cases hname

/-- There is no separator in a file name. -/
theorem Path.separator_not_mem_fileName {path : Path} {name : Bytes}
    (hname : path.fileName? = some name) : Path.separator ∉ name :=
  Bytes.not_mem_of_mem_split (mem_split_of_fileName? hname)

theorem Path.separator_not_mem_extension {path : Path} {extension : Bytes}
    (hextension : path.extension? = some extension) : Path.separator ∉ extension := by
  obtain ⟨name, hname, hextension⟩ := Option.bind_eq_some_iff.1 hextension
  unfold Path.extensionOf? at hextension
  simp only at hextension
  split at hextension
  -- the extension is the end of the file name
  · cases hextension
    intro hseparator
    have hmem := (List.takeWhile_sublist _).subset (List.mem_reverse.1 hseparator)
    exact Path.separator_not_mem_fileName hname (List.mem_reverse.1 hmem)
  · cases hextension

namespace PrivateCopy

theorem slash_not_mem_paddedNumber (connection : Int32) :
    '/' ∉ (paddedNumber connection).toList := by
  unfold paddedNumber
  simp only [String.toList_ofList, List.mem_append, not_or]
  refine ⟨⟨?_, ?_⟩, ?_⟩
  -- the sign, the zeros in front, and the digits
  · split <;> simp
  · simp [List.mem_replicate]
  · intro hslash
    have hdigit := Nat.isDigit_of_mem_toDigits (by decide) (by decide) hslash
    exact absurd hdigit (by decide)

/-- There is no separator in the name of a copy. -/
theorem separator_not_mem_nameOf {source : Path} {fileName : Bytes}
    (hname : source.fileName? = some fileName) (connection : Int32) (part : NamePart) :
    Path.separator ∉ nameOf source fileName connection part := by
  have hpart : Path.separator ∉ part.bytes := by
    intro hseparator
    exact absurd (part.alphanumeric _ hseparator) (by decide)
  have hfront : Path.separator ∉
      Bytes.ofText (Utf8.lossy fileName ++ "-" ++ paddedNumber connection ++ "-") := by
    rw [Path.separator_mem_ofText]
    have hlossy := Path.slash_not_mem_lossy (Path.separator_not_mem_fileName hname)
    simp [hlossy, slash_not_mem_paddedNumber]
  unfold nameOf
  rw [List.mem_append, List.mem_append, not_or, not_or]
  refine ⟨⟨hfront, hpart⟩, ?_⟩
  -- the extension, if the source has one
  split
  · rename_i extension hextension
    rw [Path.separator_mem_ofText]
    have hlossy := Path.slash_not_mem_lossy (Path.separator_not_mem_extension hextension)
    simp [hlossy]
  · simp

theorem nameOf_ne_nil (source : Path) (fileName : Bytes) (connection : Int32) (part : NamePart) :
    nameOf source fileName connection part ≠ [] := by
  intro hnil
  have hlength := congrArg List.length hnil
  rw [nameOf, List.length_append, List.length_append, part.length_eq, List.length_nil] at hlength
  omega

/-! ### Places -/

/-- A private copy is at a new name in the directory that a path leads to, when the path is taken
from the working directory. -/
inductive IsNewIn (copy : PrivateCopy) (files : FileSystem) (directory : Path) : Prop
  | intro {place : Location} {name : Bytes} (hname : FileSystem.IsName name)
      (hdirectory : files.lookup ((FileSystem.absolute files.workDir).join directory) =
        .ok (place, .directory))
      (hpath : copy.path = ((FileSystem.absolute files.workDir).join directory).join ⟨name⟩)
      (hfault : FileSystem.pathFault? copy.path = none)
      (hlocation : copy.location = place ++ [name]) (hfree : files.node? copy.location = none)

theorem bytes_absolute_join (location : Location) (directory : Path) :
    ((FileSystem.absolute location).join directory).bytes ≠ [] := by
  have habsolute : (FileSystem.absolute location).bytes ≠ [] := by
    cases location with
    | nil => exact List.cons_ne_nil _ _
    | cons name rest => simp [FileSystem.absolute]
  unfold Path.join
  split
  · rename_i hjoin
    intro hnil
    rcases hjoin with hdirectory | hempty
    · simp [Path.isAbsolute, hnil] at hdirectory
    · exact habsolute hempty
  · split
    · simp [habsolute]
    · simp

/-- Making a copy takes a regular file and a directory. The copy goes into the directory, under a
name that is made for it, at a place where there was nothing. -/
theorem create_eq_ok {files left : FileSystem} {names : NameSource} {source directory : Path}
    {connection : Int32} {copy : PrivateCopy}
    (hcreate : create files names source connection directory = .ok (copy, left)) :
    let base := (FileSystem.absolute files.workDir).join directory
    ∃ fileName part found content place, source.fileName? = some fileName
      ∧ files.lookup source = .ok (found, .file content)
      ∧ files.lookup base = .ok (place, .directory)
      ∧ FileSystem.IsName (nameOf source fileName connection part)
      ∧ copy.path = base.join ⟨nameOf source fileName connection part⟩
      ∧ FileSystem.pathFault? copy.path = none
      ∧ copy.location = place ++ [nameOf source fileName connection part]
      ∧ files.node? copy.location = none ∧ left = files.place copy.location (.file content) := by
  intro base
  unfold create at hcreate
  cases hfileName : source.fileName? with
  | none => simp [hfileName] at hcreate
  | some fileName =>
    cases hsource : files.lookup source with
    | error fault => simp [hfileName, hsource] at hcreate
    | ok found =>
      obtain ⟨found, node⟩ := found
      simp only [hfileName, hsource] at hcreate
      split at hcreate
      · cases hcreate
      · rename_i part hpart
        cases node with
        | directory =>
          -- what is made of a directory is nothing, in either case
          simp only at hcreate
          split at hcreate <;> cases hcreate
        | file content =>
          simp only at hcreate
          split at hcreate
          · cases hcreate
          · rename_i location left' hnew
            cases hcreate
            obtain ⟨place, hdirectory, hname, hfault, hlocation, hfree, hleft⟩ :=
              FileSystem.createNew_join (bytes_absolute_join files.workDir directory)
                (separator_not_mem_nameOf hfileName connection part)
                (nameOf_ne_nil source fileName connection part) hnew
            exact ⟨fileName, part, found, content, place, rfl, rfl, hdirectory, hname, rfl, hfault,
              hlocation, hfree, hleft⟩

/-- Making a copy takes a regular file, and puts its contents at a new name in the directory. -/
theorem create_ok {files left : FileSystem} {names : NameSource} {source directory : Path}
    {connection : Int32} {copy : PrivateCopy}
    (hcreate : create files names source connection directory = .ok (copy, left)) :
    ∃ found content, files.lookup source = .ok (found, .file content)
      ∧ copy.IsNewIn files directory ∧ left = files.place copy.location (.file content) := by
  obtain ⟨fileName, part, found, content, place, -, hsource, hdirectory, hname, hpath, hfault,
    hlocation, hfree, hleft⟩ := create_eq_ok hcreate
  exact ⟨found, content, hsource, .intro hname hdirectory hpath hfault hlocation hfree, hleft⟩

variable {copy : PrivateCopy} {files : FileSystem} {directory : Path}
  {added : List (Location × Bytes)}

/-- Where a copy is going to be there is nothing. -/
theorem IsNewIn.lookup_path (hnew : copy.IsNewIn files directory) :
    files.lookup copy.path = .error .notFound := by
  obtain ⟨hname, hdirectory, hpath, hfault, hlocation, hfree⟩ := hnew
  rw [hpath] at hfault
  rw [hlocation] at hfree
  rw [hpath, FileSystem.lookup_join hdirectory hname hfault, hfree]

/-- A copy stays where it is among other new files. -/
theorem IsNewIn.lookup_adding (hnew : copy.IsNewIn files directory) (hfree : files.AreFree added)
    (hdistinct : (added.map Prod.fst).Nodup) {content : Bytes}
    (hadded : (copy.location, content) ∈ added) :
    (files.adding added).lookup copy.path = .ok (copy.location, .file content) := by
  obtain ⟨hname, hdirectory, hpath, hfault, hlocation, -⟩ := hnew
  -- its directory is found among the other files, and in it the copy itself
  have hnode := FileSystem.node?_adding_of_mem hfree hdistinct hadded
  rw [hlocation] at hnode
  rw [hpath] at hfault
  rw [hpath, FileSystem.lookup_join ((FileSystem.lookup_adding_directory hfree).2 hdirectory) hname
    hfault, hnode, hlocation]

/-- A copy that has just been made is at a place where there was nothing, and holds what its source
holds. -/
theorem lookup_of_create {made : FileSystem} {names : NameSource} {source : Path}
    {connection : Int32}
    (hcreate : create files names source connection directory = .ok (copy, made)) :
    ∃ found content, files.lookup source = .ok (found, .file content)
      ∧ files.node? copy.location = none ∧ made = files.place copy.location (.file content)
      ∧ made.lookup copy.path = .ok (copy.location, .file content) := by
  obtain ⟨found, content, hsource, hnew, rfl⟩ := create_ok hcreate
  have hfree : files.node? copy.location = none := by
    cases hnew
    assumption
  have hadded : files.AreFree [(copy.location, content)] := by
    simpa [FileSystem.AreFree] using hfree
  exact ⟨found, content, hsource, hfree, rfl,
    hnew.lookup_adding hadded (by simp) (List.mem_singleton_self _)⟩

/-- What is new among other new files is new without them, and at another place than they. -/
theorem IsNewIn.of_adding (hfree : files.AreFree added) (hdistinct : (added.map Prod.fst).Nodup)
    (hnew : copy.IsNewIn (files.adding added) directory) :
    copy.IsNewIn files directory ∧ copy.location ∉ added.map Prod.fst := by
  obtain ⟨hname, hdirectory, hpath, hfault, hlocation, hnone⟩ := hnew
  rw [FileSystem.workDir_adding] at hdirectory hpath
  -- it is new, and where another new file is there is something
  have hother : copy.location ∉ added.map Prod.fst := by
    intro hmem
    obtain ⟨entry, hentry, hsame⟩ := List.mem_map.1 hmem
    have hnode := FileSystem.node?_adding_of_mem hfree hdistinct hentry
    rw [hsame, hnone] at hnode
    cases hnode
  rw [FileSystem.node?_adding_of_not_mem hfree hother] at hnone
  exact ⟨.intro hname ((FileSystem.lookup_adding_directory hfree).1 hdirectory) hpath hfault
    hlocation hnone, hother⟩

end PrivateCopy

end ControllerHost
