import ControllerHost.Linker.Samples
import ControllerHost.Proofs.Host.Step
import ControllerHost.Proofs.Linker.Contents
import ControllerHost.Proofs.Slot.Likeness

/-!
# Private copies change nothing else

A load from a private copy of contents that stand alone comes to what the same load of the file
itself would have come to. The two bind one routine of one library, or fail in one way. What differs
is where the library is open, and with it whether its static state is shared, and the name that the
platform's texts begin with. Of other contents that cannot be said, since the place of a file may
decide whether it can be opened.

- `Platform.Contents.Copyable`: files that can do with being copied.
- `Slot.Twins.status`, `Slot.Twins.info`: what a host sees of two loads that fare alike.
- `Slot.attach_twins`: a load from a private copy, and one from the file.
- `Host.loadWith_transparent`: two such loads of a connection, whatever it holds before.
- `Host.Distinguishes`, `Host.not_transparent`: hosts for which the two are not the same.
-/

namespace ControllerHost

variable {B S L File State : Type} {platform : Platform B S L}

/-- What is in a file name is in its path. -/
theorem Path.mem_of_mem_fileName {path : Path} {name : Bytes} {byte : UInt8}
    (hname : path.fileName? = some name) (hbyte : byte ∈ name) : byte ∈ path.bytes :=
  Bytes.mem_of_mem_split (mem_split_of_fileName? hname) hbyte

/-- A file does as well from a private copy: its contents stand alone, the platform takes its path
and the directory for copies as they are written, and neither is there anything open from it that
came from other contents, nor anything at all from where there is no file. -/
structure Platform.Contents.Copyable (contents : platform.Contents File State)
    (world : World B S) (path directory : Path) (location : Location) (content : Bytes) : Prop where
  /-- The contents. -/
  standsAlone : contents.standsAlone content
  /-- The path. -/
  dollar : Platform.dollar ∉ path.bytes
  /-- The directory. -/
  directory : Platform.dollar ∉ ((FileSystem.absolute world.files.workDir).join directory).bytes
  /-- What is open from the file. -/
  current : contents.IsCurrent world.books location path.bytes content
  /-- What is open from where there is no file. -/
  tidy : ∀ location, world.files.node? location = none →
    contents.handles world.books (contents.located location) = 0

namespace Slot

variable {contents : platform.Contents File State} {world : World B S} {path : Path}
  {symbol : String} {directory? : Option Path} {conn : ConnectionId}

section Seen

variable {copy? copy?' : Option PrivateCopy} {name name' : Bytes} {opened opened' : L → Prop}
  {first second : LoadResult × Slot S L}
  (htwins : Twins contents path symbol copy? copy?' name name' opened opened' first second)

include htwins

/-- A host that asks for statuses cannot tell the two apart. -/
theorem Twins.status :
    first.1.status = second.1.status ∧ first.2.status = second.2.status := by
  cases htwins <;> exact ⟨rfl, rfl⟩

/-- What a host learns about the two slots differs in where the library was opened from, and in the
text about an entry point that was not found. -/
theorem Twins.info :
    first.2.info =
      { second.2.info with
        loadedFrom? := first.2.info.loadedFrom?
        failure? := first.2.info.failure? } := by
  cases htwins <;> rfl

end Seen

/-- Without a file to copy, it makes no difference whether a private copy is asked for. -/
theorem attach_of_not_isFile (hfile : world.files.isFile path = false) :
    let isolated := attach platform.loader directory? conn ⟨path, symbol, true⟩ world
    let direct := attach platform.loader directory? conn ⟨path, symbol, false⟩ world
    (isolated.1, isolated.2.1) = (direct.1, direct.2.1) := by
  intro isolated direct
  have hisolated : (isolated.1, isolated.2.1) = _ := attach_of_uncopied fun _ => hfile
  have hdirect : (direct.1, direct.2.1) = _ := attach_of_uncopied (by simp)
  rw [hisolated, hdirect]
  rfl

/-- Two loads into an empty slot, one from a private copy and one from the file itself, fare
alike. -/
theorem attach_twins {location : Location} {content : Bytes}
    (hseparator : Path.separator ∈ path.bytes)
    (hlookup : world.files.lookup path = .ok (location, .file content))
    (hcopyable : contents.Copyable world path (directory?.getD world.tempDir) location content)
    {copy : PrivateCopy} {files : FileSystem}
    (hcreate : PrivateCopy.create world.files world.names path conn
      (directory?.getD world.tempDir) = .ok (copy, files)) :
    let isolated := attach platform.loader directory? conn ⟨path, symbol, true⟩ world
    let direct := attach platform.loader directory? conn ⟨path, symbol, false⟩ world
    world.files.node? copy.location = none
      ∧ Twins contents path symbol (some copy) none copy.path.bytes path.bytes
        (contents.OpenedFrom world.books copy.location copy.path.bytes content)
        (contents.OpenedFrom world.books location path.bytes content)
        (isolated.1, isolated.2.1) (direct.1, direct.2.1) := by
  intro isolated direct
  obtain ⟨_, _, hsource, hfree, -, hcopied⟩ := PrivateCopy.lookup_of_create hcreate
  cases hlookup.symm.trans hsource
  have hisolated : (isolated.1, isolated.2.1) = _ :=
    attach_of_create rfl (by simp [FileSystem.isFile, hlookup]) hcreate
  have hdirect : (direct.1, direct.2.1) = _ := attach_of_uncopied (by simp)
  have hplain : Platform.IsPlain copy.path.bytes :=
    PrivateCopy.isPlain_of_create hcreate hcopyable.directory fun fileName hname hmem =>
      hcopyable.dollar (Path.mem_of_mem_fileName hname hmem)
  rw [hisolated, hdirect]
  -- the copy and the file have the same contents, which decide on all that follows
  exact ⟨hfree, settled_twins (some copy) none true false path symbol hcopyable.standsAlone hplain
    hcopied (Platform.Contents.isCurrent_of_closed (hcopyable.tidy _ hfree))
    ⟨hseparator, hcopyable.dollar⟩ hlookup hcopyable.current⟩

end Slot

namespace Host

/-- **Private copies are transparent.** Whatever a host over the platform has loaded, take a
connection, a path with a separator and a symbol. If the path leads to a file once the connection
has been released, let a private copy of it be possible and the file do as well from one. Then a
load with a private copy and a load without one come to the same: both succeed, both cannot open the
library, or both lack the entry point, with the same path and symbol. They leave slots of the same
status, path and symbol, and all other slots as they were. If they succeed they have bound the same
routine of a library with the same contents, the one on a private copy at a new place, the other on
the file itself. The texts differ in the name of the file that they begin with, if at all, and the
files in the private copy that is held. If the path leads to no file, nothing differs at all. -/
theorem loadWith_transparent (contents : platform.Contents File State) {host : Host B S L}
    {conn : ConnectionId} {index : Nat} {path : Path} {symbol : String}
    (hplatform : host.registry.loader = platform.loader)
    (hindex : conn.index? host.registry.capacity = some index)
    (hseparator : Path.separator ∈ path.bytes) (hsymbol : symbol ≠ "")
    (hcopyable : ∀ location content,
      (host.released conn).files.lookup path = .ok (location, .file content) →
        let directory := host.registry.settings.copyDir?.getD (host.released conn).tempDir
        (PrivateCopy.create (host.released conn).files (host.released conn).names path conn
          directory).isOk = true
        ∧ contents.Copyable (host.released conn) path directory location content) :
    let isolated := host.registry.loadWith conn ⟨path, symbol, true⟩ host.world
    let direct := host.registry.loadWith conn ⟨path, symbol, false⟩ host.world
    ∃ slot slot', isolated.2.1 = host.registry.setSlot index slot
      ∧ direct.2.1 = host.registry.setSlot index slot'
      ∧ ((host.released conn).files.isFile path = false →
        (isolated.1, slot) = (direct.1, slot') ∧ slot.held? = none)
      ∧ (∀ location content,
        (host.released conn).files.lookup path = .ok (location, .file content) →
          ∃ copy, (host.released conn).files.node? copy.location = none
            ∧ Slot.Twins contents path symbol (some copy) none copy.path.bytes path.bytes
              (contents.OpenedFrom (host.released conn).books copy.location copy.path.bytes content)
              (contents.OpenedFrom (host.released conn).books location path.bytes content)
              (isolated.1, slot) (direct.1, slot'))
      ∧ isolated.1.status = direct.1.status
      ∧ slot.info =
        { slot'.info with loadedFrom? := slot.info.loadedFrom?, failure? := slot.info.failure? }
      ∧ slot'.held? = none
      ∧ direct.2.2.files = (host.released conn).files
      ∧ PrivateCopy.deleteFrom slot.held? isolated.2.2.files = (host.released conn).files := by
  have hpath : path.bytes ≠ [] := List.ne_nil_of_mem hseparator
  intro isolated direct
  -- each of the two is a load into an empty slot, in the world that releasing the connection leaves
  let attached (isolate : Bool) := Slot.attach platform.loader host.registry.settings.copyDir? conn
    ⟨path, symbol, isolate⟩ (host.released conn)
  have hload (isolate : Bool) :
      host.registry.loadWith conn ⟨path, symbol, isolate⟩ host.world =
        ((attached isolate).1, host.registry.setSlot index (attached isolate).2.1,
          (attached isolate).2.2) := by
    have hfault : Registry.requestFault? ⟨path, symbol, isolate⟩ = none := by
      simp [Registry.requestFault?, hpath, hsymbol]
    rw [loadWith_eq hindex hfault, hplatform]
  have hexit (isolate : Bool) := (Slot.attached platform.loader host.registry.settings.copyDir? conn
    ⟨path, symbol, isolate⟩ (host.released conn)).1
  have hheld : (attached false).2.1.held? = none := (hexit false).held?_of_uncopied (by simp)
  have hdirect : PrivateCopy.deleteFrom (attached false).2.1.held? (attached false).2.2.files = _ :=
    (hexit false).files_deleteFrom
  rw [hheld] at hdirect
  have hnothing (hfile : (host.released conn).files.isFile path = false) :
      ((attached true).1, (attached true).2.1) = ((attached false).1, (attached false).2.1)
        ∧ (attached true).2.1.held? = none :=
    ⟨Slot.attach_of_not_isFile hfile, (hexit true).held?_of_uncopied fun _ => hfile⟩
  have htwins (location : Location) (content : Bytes)
      (hlookup : (host.released conn).files.lookup path = .ok (location, .file content)) :
      ∃ copy, (host.released conn).files.node? copy.location = none
        ∧ Slot.Twins contents path symbol (some copy) none copy.path.bytes path.bytes
          (contents.OpenedFrom (host.released conn).books copy.location copy.path.bytes content)
          (contents.OpenedFrom (host.released conn).books location path.bytes content)
          ((attached true).1, (attached true).2.1) ((attached false).1, (attached false).2.1) := by
    obtain ⟨hmade, hfile⟩ := hcopyable location content hlookup
    cases hcreate : PrivateCopy.create (host.released conn).files (host.released conn).names path
        conn (host.registry.settings.copyDir?.getD (host.released conn).tempDir) with
    | error failure =>
      rw [hcreate] at hmade
      cases hmade
    | ok made => exact ⟨made.1, Slot.attach_twins hseparator hlookup hfile hcreate⟩
  have hseen : (attached true).1.status = (attached false).1.status
      ∧ (attached true).2.1.info =
        { (attached false).2.1.info with
          loadedFrom? := (attached true).2.1.info.loadedFrom?
          failure? := (attached true).2.1.info.failure? } := by
    cases hfile : (host.released conn).files.isFile path with
    | false =>
      obtain ⟨hresult, hslot⟩ := Prod.mk.inj (hnothing hfile).1
      rw [hresult, hslot]
      exact ⟨rfl, rfl⟩
    | true =>
      obtain ⟨location, content, hlookup⟩ := FileSystem.exists_of_isFile hfile
      obtain ⟨copy, -, halike⟩ := htwins location content hlookup
      exact ⟨halike.status.1, halike.info⟩
  rw [show isolated = _ from hload true, show direct = _ from hload false]
  exact ⟨_, _, rfl, rfl, hnothing, htwins, hseen.1, hseen.2, hheld, hdirect,
    (hexit true).files_deleteFrom⟩

/-- A connection has loaded a library directly, and another one loads it by a path with a separator
too many. With a private copy and without one that succeeds, though the library is open already. -/
theorem loadWith_transparent_reloaded :
    let world := Linker.bare (fun _ => 0) ["lib", "tmp"] [(["lib", "ctrl.so"], "counting")]
    let host := (Host.start Linker.sample.platform.loader { maxConnections := 2 } world).next
      (.loadWith 0 ⟨.ofText "/lib/ctrl.so", "DISCON", false⟩)
    let isolated := host.registry.loadWith 1 ⟨.ofText "/lib//ctrl.so", "DISCON", true⟩ host.world
    let direct := host.registry.loadWith 1 ⟨.ofText "/lib//ctrl.so", "DISCON", false⟩ host.world
    isolated.1 = .loaded ∧ direct.1.status = isolated.1.status
      ∧ direct.2.2.files = world.files := by
  intro world host
  let path := Path.ofText "/lib//ctrl.so"
  let directory := host.registry.settings.copyDir?.getD (host.released 1).tempDir
  let location : Location := [Bytes.ofText "lib", Bytes.ofText "ctrl.so"]
  have hindex : (1 : ConnectionId).index? host.registry.capacity = some 1 := by decide +kernel
  have hlookup : (host.released 1).files.lookup path =
      .ok (location, .file (Bytes.ofText "counting")) := by decide +kernel
  have hmade : (PrivateCopy.create (host.released 1).files (host.released 1).names path 1
      directory).isOk = true := by decide +kernel
  have hdirectory : Platform.dollar ∉
      ((FileSystem.absolute (host.released 1).files.workDir).join directory).bytes := by
    decide +kernel
  have hbooks : (host.released 1).books =
      [(.file location, ⟨1, Bytes.ofText "/lib/ctrl.so", Linker.counting⟩)] := rfl
  have hreleased : (host.released 1).files = world.files := by decide +kernel
  have hcopyable : Linker.sample.contents.Copyable (host.released 1) path directory location
      (Bytes.ofText "counting") := by
    refine ⟨Linker.standsAlone_counting, by decide +kernel, hdirectory, ?current, ?tidy⟩
    case current =>
      -- the other connection has opened it from what is there now
      intro found hfound
      rw [hbooks] at hfound
      cases hfound
      rfl
    case tidy =>
      intro other hnone
      rw [hbooks]
      have hother : other ≠ location := by
        rintro rfl
        cases (FileSystem.lookup_eq_ok.1 hlookup).2.2.symm.trans hnone
      have hplace : (Linker.Place.file other == Linker.Place.file location) = false := by
        simp [hother]
      change Linker.Books.handles _ (Linker.Place.file other) = 0
      rw [Linker.Books.handles, Linker.Books.at?, List.lookup_cons, hplace]
      rfl
  obtain ⟨_, _, -, -, -, -, hstatus, -, -, hfiles, -⟩ :=
    @loadWith_transparent _ _ _ _ _ _ Linker.sample.contents host 1 1 path "DISCON" rfl hindex
      (by decide +kernel) (by decide) fun found content hfound => by
        cases hlookup.symm.trans hfound
        exact ⟨hmade, hcopyable⟩
  exact ⟨by decide +kernel, hstatus.symm, hfiles.trans hreleased⟩

/-! ### Copies that make a difference -/

/-- A host over a platform for which, with the same path and symbol, a load of a connection with a
private copy and one without do not come to the same, though the copy can be made. -/
def Distinguishes (platform : Platform B S L) (host : Host B S L) (conn : ConnectionId)
    (path : Path) (symbol : String) : Prop :=
  let released := host.released conn
  host.registry.loader = platform.loader
    ∧ (conn.index? host.registry.capacity).isSome = true
    ∧ Path.separator ∈ path.bytes ∧ symbol ≠ ""
    ∧ (PrivateCopy.create released.files released.names path conn
      (host.registry.settings.copyDir?.getD released.tempDir)).isOk = true
    ∧ (host.registry.loadWith conn ⟨path, symbol, true⟩ host.world).1.status ≠
      (host.registry.loadWith conn ⟨path, symbol, false⟩ host.world).1.status

/-- **Private copies are not always transparent.** A library that needs one beside it is no longer
beside it once it is copied. A token in a path leads elsewhere than to the file that is copied, and
one in the directory for copies elsewhere than to the copy. A library that is open stays what it is
when its file is replaced, and so does one that was open from where the copy is put. -/
theorem not_transparent :
    let platform := Linker.entwined.platform
    let settings : Settings := { maxConnections := 2 }
    let world (files : List (List String × String)) :=
      Linker.bare (fun _ => 0) ["lib", "tmp", "$LIB"] files
    let start (settings : Settings) (files : List (List String × String)) :=
      Host.start platform.loader settings (world files)
    let opened (before : List (List String × String)) (path : String)
        (after : List (List String × String)) : Host _ _ _ :=
      let host := (start settings before).next (.loadWith 0 ⟨.ofText path, "DISCON", false⟩)
      ⟨host.registry, { host.world with files := (world after).files }⟩
    Distinguishes platform
        (start settings [(["lib", "libhelper.so"], "helper"), (["lib", "libuser.so"], "user")]) 1
        (.ofText "/lib/libuser.so") "DISCON"
      ∧ Distinguishes platform (start settings [(["$LIB", "a.so"], "helper")]) 1
        (.ofText "/$LIB/a.so") "DISCON"
      ∧ Distinguishes platform
        (start { settings with copyDir? := some (.ofText "/$LIB") } [(["lib", "a.so"], "helper")]) 1
        (.ofText "/lib/a.so") "DISCON"
      ∧ Distinguishes platform
        (opened [(["lib", "a.so"], "helper")] "/lib/a.so" [(["lib", "a.so"], "no library")]) 1
        (.ofText "/lib/a.so") "DISCON"
      ∧ Distinguishes platform
        (opened [(["tmp", "a.so-001-aaaaaa.so"], "helper")] "/tmp/a.so-001-aaaaaa.so"
          [(["lib", "a.so"], "no library")]) 1
        (.ofText "/lib/a.so") "DISCON" := by
  intro platform settings world start opened
  refine ⟨⟨rfl, ?_, ?_, ?_, ?_, ?_⟩, ⟨rfl, ?_, ?_, ?_, ?_, ?_⟩, ⟨rfl, ?_, ?_, ?_, ?_, ?_⟩,
    ⟨rfl, ?_, ?_, ?_, ?_, ?_⟩, ⟨rfl, ?_, ?_, ?_, ?_, ?_⟩⟩ <;> decide +kernel

end Host

end ControllerHost
