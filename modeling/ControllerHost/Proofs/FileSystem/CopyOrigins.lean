import ControllerHost.Proofs.FileSystem.CopyNames

/-!
# Where copies come from

The name of a private copy is the last component of its path, and it says what the copy was made of,
for which connection, and which six characters were drawn. Copies of files with different names, or
for different connections, never have one name, in whatever directories they are and whatever is
drawn.

This takes names that are texts and numbers without a sign. Bytes that are no text are shown as
replacement characters, which many of them have in common, and a sign is a dash, as those around the
number are.

- `Path.fileName?_join`: the last component of the path to a name in a directory.
- `PrivateCopy.fileName?_of_create`: the name of a copy that was made.
- `PrivateCopy.nameOf_determines`: what the name of a copy says.
-/

namespace ControllerHost

/-- The path to a name in a directory has the name as its last component. -/
theorem Path.fileName?_join {base : Path} {name : Bytes} (hbase : base.bytes ≠ [])
    (hname : FileSystem.IsName name) : (base.join ⟨name⟩).fileName? = some name := by
  obtain ⟨front, hbytes, -⟩ := FileSystem.bytes_join hbase hname.whole
  have hdots := hname.not_dots
  simp only [FileSystem.isDots, Bool.or_eq_false_iff, decide_eq_false_iff_not] at hdots
  have hpiece : Component.ofPiece? name = some (.name name) := by
    rw [Component.ofPiece?, if_neg (not_or.2 ⟨hname.ne_nil, hdots.1⟩), if_neg hdots.2]
  have hlast : (base.join ⟨name⟩).components.getLast? = some (.name name) := by
    simp only [components, hbytes, Bytes.split_append_cons, Bytes.split_of_not_mem hname.whole]
    rw [List.filterMap_append, List.filterMap_cons_some hpiece, List.filterMap_nil,
      ← List.append_assoc, List.getLast?_concat]
  rw [fileName?, hlast]

namespace PrivateCopy

/-- A copy that was made has a name for its source and its connection. -/
theorem fileName?_of_create {files left : FileSystem} {names : NameSource}
    {source directory : Path} {conn : ConnectionId} {copy : PrivateCopy}
    (hcreate : create files names source conn directory = .ok (copy, left)) :
    ∃ fileName part, source.fileName? = some fileName
      ∧ copy.path.fileName? = some (nameOf source fileName conn part) := by
  obtain ⟨fileName, part, -, -, -, hfileName, -, -, hname, hpath, -⟩ := create_eq_ok hcreate
  refine ⟨fileName, part, hfileName, ?_⟩
  rw [hpath]
  exact Path.fileName?_join (bytes_absolute_join files.workDir directory) hname

/-- **The name of a copy says where the copy comes from.** Among sources whose names are texts and
connections that have no sign, it belongs to one name of a source, one connection and one choice of
the six characters. A copy that was made has such a name as the last component of its path, so two
copies whose sources have different names, or that were made for different connections, have
different names, wherever they are and whatever was drawn. -/
theorem nameOf_determines :
    (∀ (source source' : Path) (name name' : String) (conn conn' : ConnectionId)
        (part part' : NamePart), source.fileName? = some (Bytes.ofText name) →
        source'.fileName? = some (Bytes.ofText name') → 0 ≤ conn.toInt → 0 ≤ conn'.toInt →
        nameOf source (Bytes.ofText name) conn part =
          nameOf source' (Bytes.ofText name') conn' part' →
        name = name' ∧ conn = conn' ∧ part = part')
      ∧ (∀ (files left : FileSystem) (names : NameSource) (source directory : Path)
        (conn : ConnectionId) (copy : PrivateCopy),
        create files names source conn directory = .ok (copy, left) →
        ∃ fileName part, source.fileName? = some fileName
          ∧ copy.path.fileName? = some (nameOf source fileName conn part))
      ∧ ∀ (files files' left left' : FileSystem) (names names' : NameSource)
        (source source' directory directory' : Path) (name name' : String)
        (conn conn' : ConnectionId) (copy copy' : PrivateCopy),
        create files names source conn directory = .ok (copy, left) →
        create files' names' source' conn' directory' = .ok (copy', left') →
        source.fileName? = some (Bytes.ofText name) →
        source'.fileName? = some (Bytes.ofText name') → 0 ≤ conn.toInt → 0 ≤ conn'.toInt →
        name ≠ name' ∨ conn ≠ conn' → copy.path.fileName? ≠ copy'.path.fileName? := by
  have hparts {source source' : Path} {name name' : String} {conn conn' : ConnectionId}
      {part part' : NamePart} (hname : source.fileName? = some (Bytes.ofText name))
      (hname' : source'.fileName? = some (Bytes.ofText name')) (hconn : 0 ≤ conn.toInt)
      (hconn' : 0 ≤ conn'.toInt)
      (hsame : nameOf source (Bytes.ofText name) conn part =
        nameOf source' (Bytes.ofText name') conn' part') :
      name = name' ∧ conn = conn' ∧ part = part' := by
    -- a text is shown as it is
    have hshown := parts_of_nameOf hname hname' hconn hconn' hsame
    rwa [Utf8.lossy_ofText, Utf8.lossy_ofText] at hshown
  refine ⟨fun _ _ _ _ _ _ _ _ => hparts, fun _ _ _ _ _ _ _ => fileName?_of_create, ?_⟩
  intro files files' left left' names names' source source' directory directory' name name' conn
    conn' copy copy' hcreate hcreate' hname hname' hconn hconn' hdiffer hsame
  obtain ⟨fileName, part, hfileName, hpath⟩ := fileName?_of_create hcreate
  obtain ⟨fileName', part', hfileName', hpath'⟩ := fileName?_of_create hcreate'
  cases hname.symm.trans hfileName
  cases hname'.symm.trans hfileName'
  rw [hpath, hpath', Option.some.injEq] at hsame
  obtain ⟨rfl, rfl, -⟩ := hparts hname hname' hconn hconn' hsame
  simp at hdiffer

/-- Names with dots in front and at the end and with dashes around a number: however the path to
such a file is written, it has copies of one name, and a file with one dot less, or a connection
whose number needs no zeros, has others. -/
theorem nameOf_determines_dotted :
    let name := ".-001-a.b."
    let shorter := ".-001-a.b"
    let files : FileSystem :=
      { entries :=
          [([Bytes.ofText "tmp"], .directory), ([Bytes.ofText "lib"], .directory),
            ([Bytes.ofText "lib", Bytes.ofText name], .file [1]),
            ([Bytes.ofText "lib", Bytes.ofText shorter], .file [2])] }
    let source : Path := .ofText "/lib/.-001-a.b."
    let respelled : Path := .ofText "lib/./.-001-a.b./"
    let shorterSource : Path := .ofText "/lib/.-001-a.b"
    let part := NamePart.ofNat 0
    let copy : PrivateCopy :=
      ⟨.ofText "/tmp/.-001-a.b.-007-aaaaaa.",
        [Bytes.ofText "tmp", Bytes.ofText ".-001-a.b.-007-aaaaaa."]⟩
    let copy' : PrivateCopy :=
      ⟨.ofText "/tmp/.-001-a.b-1000-aaaaaa.b",
        [Bytes.ofText "tmp", Bytes.ofText ".-001-a.b-1000-aaaaaa.b"]⟩
    nameOf source (Bytes.ofText name) 7 part = nameOf respelled (Bytes.ofText name) 7 part
      ∧ create files .firstFree source 7 (.ofText "/tmp") =
        .ok (copy, files.place copy.location (.file [1]))
      ∧ create files .firstFree shorterSource 1000 (.ofText "/tmp") =
        .ok (copy', files.place copy'.location (.file [2]))
      ∧ copy.path.fileName? ≠ copy'.path.fileName? := by
  intro name shorter files source respelled shorterSource part copy copy'
  have hname : source.fileName? = some (Bytes.ofText name) := by decide +kernel
  have hshorter : shorterSource.fileName? = some (Bytes.ofText shorter) := by decide +kernel
  have hsame : nameOf source (Bytes.ofText name) 7 part =
      nameOf respelled (Bytes.ofText name) 7 part := by
    decide +kernel
  have hcreate : create files .firstFree source 7 (.ofText "/tmp") =
      .ok (copy, files.place copy.location (.file [1])) := by
    decide +kernel
  have hcreate' : create files .firstFree shorterSource 1000 (.ofText "/tmp") =
      .ok (copy', files.place copy'.location (.file [2])) := by
    decide +kernel
  have hdistinct := nameOf_determines.2.2 files files _ _ _ _ _ _ _ _ name shorter 7 1000 copy copy'
    hcreate hcreate' hname hshorter (by decide) (by decide) (.inl (by decide))
  exact ⟨hsame, hcreate, hcreate', hdistinct⟩

/-- A dash in front of a number is a sign or the end of a name. -/
example : nameOf (.ofText "a") (Bytes.ofText "a") (-100) (.ofNat 0) =
    nameOf (.ofText "a-") (Bytes.ofText "a-") 100 (.ofNat 0) := by
  decide +kernel

end PrivateCopy

end ControllerHost
