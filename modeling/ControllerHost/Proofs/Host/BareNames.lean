import ControllerHost.Linker.Samples
import ControllerHost.Proofs.Host.Step
import ControllerHost.Proofs.Slot.Events
import ControllerHost.Proofs.Slot.Files
import ControllerHost.Proofs.Slot.Settling

/-!
# Bare names

A path without a separator is a bare name, which the platform looks for on its own search path and
not in the working directory. A load of a bare name comes to what that search gives, unless a
private copy is asked for and the working directory holds a regular file of that name: then the file
is copied, and it is the copy that is opened.

- `Path.IsBare`, `FileSystem.withoutFilesIn`: bare names, and the files without those in a
  directory.
- `Platform.SearchesElsewhere`: that a platform does not look for bare names in a directory.
- `Linker.searchesElsewhere`: linkers do not, unless a library of the system asks for it.
- `Host.loadWith_bare`: when a load of a bare name is left to the search, and what it is otherwise.
- `Host.loadWith_bare_hidden`: a file in the working directory that hides a library.
-/

namespace ControllerHost

variable {B S L : Type}

/-- A path without a separator. -/
def Path.IsBare (path : Path) : Prop := Path.separator ∉ path.bytes

instance (path : Path) : Decidable path.IsBare := inferInstanceAs (Decidable (_ ∉ _))

/-- The file system without the regular files that are in a directory. -/
def FileSystem.withoutFilesIn (files : FileSystem) (directory : Location) : FileSystem :=
  { files with
    entries := files.entries.filter fun (location, node) =>
      location = [] ∨ location.dropLast ≠ directory ∨ node = .directory }

/-! ### The platform's search -/

namespace Platform

/-- What a platform makes of a bare name does not depend on the regular files in a directory. -/
def SearchesElsewhere (platform : Platform B S L) (directory : Location) : Prop :=
  ∀ files books name, Path.separator ∉ name →
    platform.openLibrary files books name =
      platform.openLibrary (files.withoutFilesIn directory) books name

theorem mem_of_mem_cString {byte : UInt8} {bytes name : Bytes} (hname : cString bytes = .ok name)
    (hbyte : byte ∈ name) : byte ∈ bytes := by
  unfold cString at hname
  by_cases hlast : bytes.getLast? = some 0
  · simp only [hlast, if_true] at hname
    split at hname
    · obtain rfl := Except.ok.inj hname
      exact (List.dropLast_sublist _).mem hbyte
    · cases hname
  · simp only [hlast, if_false] at hname
    split at hname
    · obtain rfl := Except.ok.inj hname
      exact hbyte
    · cases hname

/-- Such a platform opens a bare path whatever regular files are in the directory. -/
theorem SearchesElsewhere.openLibrary_loader {platform : Platform B S L} {directory : Location}
    (hsearch : platform.SearchesElsewhere directory) {path : Path} (hbare : path.IsBare)
    (files : FileSystem) (books : B) :
    platform.loader.openLibrary files books path =
      platform.loader.openLibrary (files.withoutFilesIn directory) books path := by
  simp only [loader, openPath]
  cases hname : cString path.bytes with
  | error reason => rfl
  | ok name =>
    have hseparator : Path.separator ∉ name := fun hmem => hbare (mem_of_mem_cString hname hmem)
    simp only [hsearch files books name hseparator]

end Platform

section Linker

variable {σ : Type} {linker : Linker σ}

/-- What comes of a library that names no directories does not depend on the files. -/
theorem Linker.mapping_of_runPath {library : SharedLibrary σ} (hrunPath : library.runPath = [])
    (files other : FileSystem) (books : Linker.Books σ) (name : Bytes) (place : Linker.Place) :
    linker.mapping files books name place (.ok library) =
      linker.mapping other books name place (.ok library) := by
  simp only [mapping, missing?, hrunPath, List.map_nil, provides, List.any_nil]

/-- A linker looks for bare names in no directory, if neither a library of the system nor the
program asks for that. -/
theorem Linker.searchesElsewhere
    (hsystem : ∀ name library, linker.system name = some library → library.runPath = [])
    (hprogram : linker.program.runPath = []) (directory : Location) :
    linker.platform.SearchesElsewhere directory := by
  intro files books name hbare
  -- nothing that a bare name can lead to has a run path in which files would be looked for
  have hfind : linker.find files books name =
      linker.find (files.withoutFilesIn directory) books name := by
    unfold find
    by_cases hname : name = []
    · simp only [hname, if_true,
        mapping_of_runPath hprogram files (files.withoutFilesIn directory)]
    · simp only [hname, if_false, hbare, not_false_eq_true, if_true]
      cases books.named? name with
      | some found => rfl
      | none =>
        cases hlibrary : linker.system name with
        | none => rfl
        | some library =>
          simp only [mapping_of_runPath (hsystem name library hlibrary) files
            (files.withoutFilesIn directory)]
  simp only [platform, openLibrary, hfind]

end Linker

/-! ### Private copies -/

/-- Whether an event says that a private copy was made, or that it could not be made. -/
def Event.isCopying : Event → Bool
  | copied _ _ _ | copyFailed _ _ _ => true
  | _ => false

namespace Slot

section Copying

variable {loader : Loader B S L} {directory? : Option Path} {conn : ConnectionId}
  {request : LoadRequest} {world left : World B S}

theorem Copied.isCopying {result : Except String (Option PrivateCopy)}
    (hcopy : Copied loader directory? conn request world result left) :
    ∃ first, left.events = world.events ++ first
      ∧ (first.any Event.isCopying = true ↔
        (request.isolate && loader.isFileBacked) = true
          ∧ world.files.isFile request.path = true) := by
  cases hcopy with
  | unasked hunasked => exact ⟨[], by simp, by simp [hunasked]⟩
  | noFile hasked hfile => exact ⟨_, rfl, by simp [Event.isCopying, hfile]⟩
  | refused hasked hfile hcreate => exact ⟨_, rfl, by simp [Event.isCopying, hasked, hfile]⟩
  | made hasked hfile hcreate => exact ⟨_, rfl, by simp [Event.isCopying, hasked, hfile]⟩

theorem any_isCopying_closing (path : Path) (complaint? : Option String) :
    (loader.closing conn path complaint?).any Event.isCopying = false := by
  cases complaint? <;> simp [Loader.closing, Event.isCopying]

theorem any_isCopying_deletion (copy? : Option PrivateCopy) :
    (PrivateCopy.deletion conn copy?).any Event.isCopying = false := by
  simp [PrivateCopy.deletion, Event.isCopying]

/-- A load into an empty slot makes a private copy, or tries to, exactly if one is asked for and
there is a file to copy. -/
theorem Attached.isCopying {outcome : LoadOutcome} {slot : Slot S L}
    (hexit : Attached loader directory? conn request world outcome slot left) :
    ∃ added, left.events = world.events ++ added
      ∧ (added.any Event.isCopying = true ↔
        (request.isolate && loader.isFileBacked) = true
          ∧ world.files.isFile request.path = true) := by
  -- what comes after the private copy has been dealt with says nothing about making one
  have hlater {copied opened : World B S} {result : Except String (Option PrivateCopy)}
      (hcopy : Copied loader directory? conn request world result copied)
      (hopened : opened.events = copied.events) (later : List Event)
      (hevents : left.events = opened.events ++ later)
      (hnone : later.any Event.isCopying = false) :
      ∃ added, left.events = world.events ++ added
        ∧ (added.any Event.isCopying = true ↔
          (request.isolate && loader.isFileBacked) = true
            ∧ world.files.isFile request.path = true) := by
    obtain ⟨first, hfirst, hcopying⟩ := hcopy.isCopying
    refine ⟨first ++ later, by rw [hevents, hopened, hfirst, List.append_assoc], ?_⟩
    rw [List.any_append, hnone, Bool.or_false, hcopying]
  cases hexit with
  | notCopied hcopy => exact hlater hcopy rfl [] (List.append_nil _).symm rfl
  | @notOpened copy? copied opened reason hcopy hopen =>
    exact hlater hcopy (Loader.events_of_open hopen)
      (.openFailed conn request.path reason :: PrivateCopy.deletion conn copy?)
      (by simp [World.discard_eq, World.tell])
      (by simp [Event.isCopying, any_isCopying_deletion])
  | @openPanicked copy? copied opened message hcopy hopen =>
    exact hlater hcopy (Loader.events_of_open hopen)
      (.openPanicked conn :: PrivateCopy.deletion conn copy?)
      (by simp [World.discard_eq, World.tell])
      (by simp [Event.isCopying, any_isCopying_deletion])
  | @notResolved copy? copied opened library reason hcopy hopen hresolve =>
    exact hlater hcopy (Loader.events_of_open hopen)
      ([.opened conn (request.openPath copy?) loader.isLogged,
          .resolveFailed conn request.path request.symbol reason]
        ++ loader.closing conn (request.openPath copy?) (loader.complaint? library opened)
        ++ PrivateCopy.deletion conn copy?)
      (by simp [World.discard_eq, Loader.close_eq, Loader.complaint?, World.tell])
      (by simp [Event.isCopying, any_isCopying_closing, any_isCopying_deletion])
  | @resolvePanicked copy? copied opened library message hcopy hopen hresolve =>
    exact hlater hcopy (Loader.events_of_open hopen)
      ([.opened conn (request.openPath copy?) loader.isLogged, .resolvePanicked conn,
          .closed conn (request.openPath copy?) false] ++ PrivateCopy.deletion conn copy?)
      (by simp [World.discard_eq, Loader.drop, World.tell])
      (by simp [Event.isCopying, any_isCopying_deletion])
  | @bound copy? copied opened library routine hcopy hopen hresolve =>
    exact hlater hcopy (Loader.events_of_open hopen)
      [.opened conn (request.openPath copy?) loader.isLogged,
        .loaded conn request.path request.symbol]
      (by simp [World.tell]) rfl

end Copying

end Slot

namespace Host

/-- **When a bare name is left to the search.** Whatever a host over a platform has loaded, take a
connection, a bare name and a symbol, with a private copy asked for or not, and let the platform
look for bare names elsewhere than in the working directory. A private copy is made, or cannot be
made, exactly if one is asked for and, once the connection has been released, the name leads to a
regular file in the working directory. If that is not so the load comes to what the platform makes
of the name with no regular file in the working directory, and leaves the files as they are. If it
is so the load fails because the file cannot be copied, or it comes to what the platform makes of a
copy of that file. -/
theorem loadWith_bare {platform : Platform B S L} {host : Host B S L} {conn : ConnectionId}
    {index : Nat} {request : LoadRequest} (hplatform : host.registry.loader = platform.loader)
    (hsearch : platform.SearchesElsewhere (host.released conn).files.workDir)
    (hindex : conn.index? host.registry.capacity = some index)
    (hfault : Registry.requestFault? request = none) (hbare : request.path.IsBare) :
    let left := host.registry.loadWith conn request host.world
    let released := host.released conn
    let files := released.files
    ∃ slot added, left.2.1 = host.registry.setSlot index slot
      ∧ left.2.2.events = released.events ++ added
      ∧ (added.any Event.isCopying = true ↔
        request.isolate = true ∧ files.isFile request.path = true)
      ∧ (added.any Event.isCopying = false →
        (left.1, slot) = Slot.settled platform.loader request none
            (platform.loader.openLibrary (files.withoutFilesIn files.workDir) released.books
              request.path)
          ∧ left.2.2.files = files)
      ∧ (added.any Event.isCopying = true → ∃ location content,
        files.lookup request.path = .ok (location, .file content)
          ∧ ((∃ reason, left.1 = .failed (.libraryNotFound request.path reason) ∧ slot = .empty)
            ∨ ∃ copy made, made.lookup copy.path = .ok (copy.location, .file content)
              ∧ copy.delete made = files
              ∧ (left.1, slot) = Slot.settled platform.loader request (some copy)
                (platform.loader.openLibrary made released.books copy.path))) := by
  intro left released files
  let directory? := host.registry.settings.copyDir?
  let attached := Slot.attach platform.loader directory? conn request released
  have hload : left = (attached.1, host.registry.setSlot index attached.2.1, attached.2.2) := by
    simp only [left, loadWith_eq hindex hfault, hplatform, attached, directory?, released]
  have hexit := (Slot.attached platform.loader directory? conn request released).1
  have hasked : (request.isolate && platform.loader.isFileBacked) = request.isolate :=
    Bool.and_true _
  obtain ⟨added, hevents, hcopying⟩ := hexit.isCopying
  rw [hasked] at hcopying
  rw [hload]
  refine ⟨attached.2.1, added, rfl, hevents, hcopying, ?_, ?_⟩
  · intro hnone
    -- without a file to copy the name itself is what is opened
    have hnot : ¬(request.isolate = true ∧ released.files.isFile request.path = true) := by
      simp [← hcopying, hnone]
    have huncopied : (request.isolate && platform.loader.isFileBacked) = true →
        released.files.isFile request.path = false := fun hboth =>
      Bool.eq_false_iff.2 fun hfile => hnot ⟨hasked.symm.trans hboth, hfile⟩
    have hsettled : (attached.1, attached.2.1) = _ := Slot.attach_of_uncopied huncopied
    rw [hsearch.openLibrary_loader hbare] at hsettled
    have hfiles := hexit.files_deleteFrom
    rw [hexit.held?_of_uncopied huncopied] at hfiles
    exact ⟨hsettled, hfiles⟩
  · intro hsome
    obtain ⟨hisolate, hfile⟩ := hcopying.1 hsome
    have hboth : (request.isolate && platform.loader.isFileBacked) = true := hasked.trans hisolate
    cases hcreate : PrivateCopy.create released.files released.names request.path conn
        (directory?.getD released.tempDir) with
    | error failure =>
      obtain ⟨location, content, hlookup⟩ := FileSystem.exists_of_isFile hfile
      have hrefused := Slot.attach_of_refused hboth hfile hcreate
      exact ⟨location, content, hlookup, .inl ⟨failure.message, Prod.ext_iff.1 hrefused⟩⟩
    | ok made =>
      obtain ⟨copy, made⟩ := made
      obtain ⟨location, content, hlookup, -, -, hcopy⟩ := PrivateCopy.lookup_of_create hcreate
      exact ⟨location, content, hlookup, .inr ⟨copy, made, hcopy,
        PrivateCopy.delete_of_create hcreate, Slot.attach_of_create hboth hfile hcreate⟩⟩

/-- A host in whose working directory is a file, no library, under the name of a library that the
platform's search finds. -/
def shadowed : Host (Linker.Books Nat) (Linker.State Nat) (Linker.Handle Nat) :=
  start Linker.sample.platform.loader { maxConnections := 1 }
    { files :=
        { entries :=
            [([Bytes.ofText "tmp"], .directory), ([Bytes.ofText "work"], .directory),
              ([Bytes.ofText "work", Bytes.ofText "libm.so.6"],
                .file (Bytes.ofText "not a library"))]
          workDir := [Bytes.ofText "work"] }
      tempDir := .ofText "/tmp"
      books := []
      state := fun _ => 0 }

/-- With a private copy asked for, the file hides the library from a load of the name; without one
it does not. -/
theorem loadWith_bare_hidden :
    let path := Path.ofText "libm.so.6"
    let files := shadowed.world.files
    let copied := shadowed.registry.loadWith 0 ⟨path, "cos", true⟩ shadowed.world
    let searched := shadowed.registry.loadWith 0 ⟨path, "cos", false⟩ shadowed.world
    path.IsBare
      ∧ copied.1 = .failed (.libraryNotFound path "/tmp/libm.so.6-000-aaaaaa.6: file too short")
      ∧ copied.2.2.events.any Event.isCopying = true
      ∧ searched.1 = .loaded
      ∧ (searched.1, searched.2.1.slot 0) =
        Slot.settled Linker.sample.platform.loader ⟨path, "cos", false⟩ none
          (Linker.sample.platform.loader.openLibrary (files.withoutFilesIn files.workDir) []
            path) := by
  intro path files
  have hbare : path.IsBare := by decide +kernel
  have hindex : (0 : ConnectionId).index? shadowed.registry.capacity = some 0 := by decide +kernel
  have hsearch (directory : Location) : Linker.sample.platform.SearchesElsewhere directory := by
    refine Linker.searchesElsewhere ?_ rfl directory
    intro name library hlibrary
    simp only [Linker.sample] at hlibrary
    split at hlibrary <;> cases hlibrary
    rfl
  obtain ⟨_, added, -, hevents, hcopying, -⟩ :=
    @loadWith_bare _ _ _ _ shadowed 0 0 ⟨path, "cos", true⟩ rfl (hsearch _) hindex (by decide) hbare
  obtain ⟨slot, _, hslot, -, huncopied, hsearched, -⟩ :=
    @loadWith_bare _ _ _ _ shadowed 0 0 ⟨path, "cos", false⟩ rfl (hsearch _) hindex (by decide)
      hbare
  refine ⟨hbare, by decide +kernel, ?_, by decide +kernel, ?_⟩
  · have hfile : (shadowed.released 0).files.isFile path = true := by decide +kernel
    rw [hevents, List.any_append, hcopying.2 ⟨rfl, hfile⟩, Bool.or_true]
  · have hset : (shadowed.registry.setSlot 0 slot).slot 0 = slot := by
      rw [Registry.slot_setSlot (by decide +kernel), if_pos rfl]
    rw [hslot, hset]
    exact (hsearched (by simpa using huncopied)).1

/-- Not every load of a bare name is left to the search: some come to something else, and do so by a
private copy. -/
theorem not_searched_of_bare :
    ¬ ∀ (host : Host (Linker.Books Nat) (Linker.State Nat) (Linker.Handle Nat))
        (conn : ConnectionId) (index : Nat) (request : LoadRequest),
      let released := host.released conn
      let files := released.files
      host.registry.loader = Linker.sample.platform.loader →
      conn.index? host.registry.capacity = some index →
      Registry.requestFault? request = none → request.path.IsBare →
      (host.registry.loadWith conn request host.world).1 =
        (Slot.settled Linker.sample.platform.loader request none
          (Linker.sample.platform.loader.openLibrary (files.withoutFilesIn files.workDir)
            released.books request.path)).1 := by
  intro hall
  have hsame := hall shadowed 0 0 ⟨.ofText "libm.so.6", "cos", true⟩ rfl (by decide +kernel)
    (by decide) (by decide +kernel)
  exact absurd hsame (by decide +kernel)

end Host

end ControllerHost
