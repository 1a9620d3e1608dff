import ControllerHost.Proofs.FileSystem.Bystanders
import ControllerHost.Proofs.Platform.Contents
import ControllerHost.Proofs.Slot.Files

/-!
# Libraries opened from private copies

The platform keeps the static state of an open library with the file that it was opened from.
Nothing else is ever opened from a private copy, so the state of a library there is that of its own
calls, whatever is opened, called and closed elsewhere.

- `Routine.replay`: the state that several calls leave.
- `Platform.Contents.Orderly`: nothing is open from where there is no file, and no library goes by a
  name that is set aside.
- `LoadRequest.IsApart`: a request for contents that stand alone, or for what the platform refuses.
- `PrivateCopy.isPlain_of_create`: what the platform makes of the path of a private copy.
- `LoadedController.IsLodged`: a controller whose library has its copy to itself.
- `Slot.OpensCopy`, `Slot.Lodges`: a library opened from a private copy, and what a load leaves.
- `Slot.Attached.lodges`, `LoadedController.IsLodged.release`, `LoadedController.IsLodged.call`:
  what loads, releases and calls do to such controllers and to the state of other files.
-/

namespace ControllerHost

variable {B S L File State : Type} {platform : Platform B S L}

/-- The state that several calls of a routine leave. -/
def Routine.replay (routine : Routine State) (initial : State) (calls : List CallBuffers) : State :=
  calls.foldl (fun own buffers => (routine.run own buffers).1) initial

@[simp]
theorem Routine.replay_concat (routine : Routine State) (initial : State)
    (calls : List CallBuffers) (buffers : CallBuffers) :
    routine.replay initial (calls ++ [buffers]) =
      (routine.run (routine.replay initial calls) buffers).1 := by
  simp [replay]

/-! ### Orderly worlds -/

/-- No library is open from where there is no file, and none goes by a name that is set aside. -/
structure Platform.Contents.Orderly (contents : platform.Contents File State)
    (aside : Bytes → Prop) (world : World B S) : Prop where
  /-- Without a file there is no handle. -/
  tidy : ∀ location, world.files.node? location = none →
    contents.handles world.books (contents.located location) = 0
  /-- The names that are set aside are unknown. -/
  unknown : ∀ name, aside name → ¬ contents.known world.books name

/-- A request that does not depend on what else is open: its path leads to a file whose contents
stand alone and go by none of the names that are set aside, or to no file, and the platform refuses
it as long as nothing else goes by these names. -/
inductive LoadRequest.IsApart (request : LoadRequest) (contents : platform.Contents File State)
    (aside : Bytes → Prop) (files : FileSystem) : Prop
  | file {location : Location} {content : Bytes}
      (hlookup : files.lookup request.path = .ok (location, .file content))
      (halone : contents.standsAlone content)
      (haside : ∀ name, aside name → ¬ contents.goesBy content name)
      (hdollar : ∀ fileName, request.path.fileName? = some fileName → Platform.dollar ∉ fileName)
  | refused {reason : String} (hfile : files.isFile request.path = false)
      (hreason : ∀ more books, more.lookup request.path = files.lookup request.path →
        (∀ name, aside name → ¬ contents.known books name) →
        (platform.openPath more books request.path).1 = .error reason)

/-- Where the path leads to the same, a request is as independent. -/
theorem LoadRequest.IsApart.congr {request : LoadRequest}
    {contents : platform.Contents File State} {aside : Bytes → Prop} {files more : FileSystem}
    (hapart : request.IsApart contents aside files)
    (hlookup : more.lookup request.path = files.lookup request.path) :
    request.IsApart contents aside more := by
  cases hapart with
  | file hfile halone haside hdollar => exact .file (hlookup.trans hfile) halone haside hdollar
  | refused hfile hreason =>
    exact .refused ((FileSystem.isFile_congr hlookup).trans hfile) fun other books hsame =>
      hreason other books (hsame.trans hlookup)

/-! ### Fresh copies -/

/-- A private copy has a name that is made for a connection. -/
def PrivateCopy.IsFor (copy : PrivateCopy) (conn : ConnectionId) : Prop :=
  ∃ source fileName part, Path.fileName? source = some fileName
    ∧ copy.location.getLast? = some (nameOf source fileName conn part)

theorem PrivateCopy.IsFor.location_ne_nil {copy : PrivateCopy} {conn : ConnectionId}
    (hfor : copy.IsFor conn) : copy.location ≠ [] := by
  obtain ⟨source, fileName, part, -, hlast⟩ := hfor
  intro hnil
  simp [hnil] at hlast

section Create

variable {files made : FileSystem} {names : NameSource} {source directory : Path}
  {conn : ConnectionId} {copy : PrivateCopy}
  (hcreate : PrivateCopy.create files names source conn directory = .ok (copy, made))

include hcreate

theorem PrivateCopy.isFor_of_create : copy.IsFor conn := by
  obtain ⟨fileName, part, found, content, place, hname, -, -, -, -, -, hlocation, -⟩ :=
    create_eq_ok hcreate
  exact ⟨source, fileName, part, hname, by rw [hlocation, List.getLast?_concat]⟩

/-- The platform takes the path of a private copy as it is written, if it takes the directory and
the file's name so. -/
theorem PrivateCopy.isPlain_of_create
    (hdirectory : Platform.dollar ∉ ((FileSystem.absolute files.workDir).join directory).bytes)
    (hdollar : ∀ fileName, source.fileName? = some fileName → Platform.dollar ∉ fileName) :
    Platform.IsPlain copy.path.bytes := by
  obtain ⟨fileName, part, found, content, place, hname, -, -, hword, hpath, -, -, -⟩ :=
    create_eq_ok hcreate
  have hsign : ¬ IsPlain Platform.dollar := by
    rintro (halphanumeric | hdash)
    · exact absurd halphanumeric (by decide)
    · exact absurd hdash (by decide)
  have hcopyName : Platform.dollar ∉ nameOf source fileName conn part := fun hmem =>
    hdollar fileName hname (mem_of_mem_nameOf (by decide) hsign (by decide) hname hmem)
  obtain ⟨front, hbytes, hfront⟩ :=
    FileSystem.bytes_join (bytes_absolute_join files.workDir directory) hword.whole
  have hbefore : Platform.dollar ∉ front := by
    rcases hfront with ⟨-, rfl⟩ | hbase
    · exact hdirectory
    · rw [hbase, List.mem_append, not_or] at hdirectory
      exact hdirectory.1
  rw [hpath, hbytes]
  refine ⟨by simp, ?_⟩
  rw [List.mem_append, List.mem_cons, not_or, not_or]
  exact ⟨hbefore, by decide, hcopyName⟩

end Create

/-! ### Lodged controllers -/

/-- However many handles there are on the file at a location, and whatever its state is if there are
any, that is as it was. -/
def Platform.Instances.Unmoved (instances : platform.Instances File State) (world left : World B S)
    (location : Location) : Prop :=
  ∀ handles own, instances.Keeps world (instances.located location) handles own →
    instances.Keeps left (instances.located location) handles own

namespace Platform.Instances.Unmoved

variable {instances : platform.Instances File State} {world left last : World B S}
  {location : Location}

/-- With the same books and the same state every file is as it was. -/
theorem of_eq (hbooks : left.books = world.books) (hstate : left.state = world.state)
    (location : Location) : instances.Unmoved world left location := by
  intro handles own hthere
  rwa [Platform.Instances.Keeps, hbooks, hstate]

/-- What leaves a file as it was, one thing after another. -/
theorem trans (hfirst : instances.Unmoved world left location)
    (hsecond : instances.Unmoved left last location) : instances.Unmoved world last location :=
  fun handles own hthere => hsecond handles own (hfirst handles own hthere)

/-- Where nothing was open, nothing is. -/
theorem handles_eq_zero (hunmoved : instances.Unmoved world left location)
    (hclosed : instances.handles world.books (instances.located location) = 0) :
    instances.handles left.books (instances.located location) = 0 := by
  have hthere : instances.Keeps world (instances.located location) 0
      (instances.state world.state (instances.located location)) :=
    ⟨hclosed, fun hheld => absurd rfl hheld⟩
  exact (hunmoved _ _ hthere).1

end Platform.Instances.Unmoved

/-- Closing a library with the only handle on a file leaves nothing open from there, and every other
file as it was. -/
theorem Platform.Contents.shut_only {contents : platform.Contents File State} {library : L}
    {place : Location} {own : State} {world : World B S} (hself : contents.selfContained library)
    (hfile : contents.file library = contents.located place)
    (hkeeps : contents.Keeps world (contents.located place) 1 own) :
    contents.handles (platform.loader.shut library world).books (contents.located place) = 0
      ∧ ∀ location, location ≠ place →
        contents.Unmoved world (platform.loader.shut library world) location := by
  rw [← hfile] at hkeeps ⊢
  have hheld : contents.handles world.books (contents.file library) ≠ 0 := by
    rw [hkeeps.1]
    exact Nat.one_ne_zero
  refine ⟨(hkeeps.shut_last hself).1, fun location hne handles own hthere => ?_⟩
  exact hthere.shut_of_ne hself hheld fun hsame =>
    hne (contents.located_injective (hsame.trans hfile))

/-- What a controller's routine does to the state of its library. -/
def LoadedController.own (controller : LoadedController S L)
    (instances : platform.Instances File State) : Routine State :=
  instances.own (instances.file controller.library) controller.routine

/-- The state that several calls leave in a controller's library. -/
def LoadedController.stateAfter (controller : LoadedController S L)
    (contents : platform.Contents File State) (calls : List CallBuffers) : State :=
  (controller.own contents.toInstances).replay (contents.image controller.library).initial calls

/-- A controller is what the contents of the file come to that its path leads to. -/
structure LoadedController.IsFrom (controller : LoadedController S L)
    (contents : platform.Contents File State) (files : FileSystem) : Prop where
  /-- The path leads to contents that stand alone, and the library came from these. -/
  library : ∃ location content name, files.lookup controller.path = .ok (location, .file content)
    ∧ contents.standsAlone content
    ∧ contents.accept name content = .ok (contents.image controller.library)
  /-- The routine is the one that they export. -/
  routine : contents.find (contents.title controller.library) (contents.image controller.library)
    controller.symbol = .ok (controller.own contents.toInstances)

/-- A controller's library was opened from a private copy that was made for the connection. Nothing
else is open from there, and the state there is what several calls have left. -/
inductive LoadedController.IsLodged (controller : LoadedController S L)
    (contents : platform.Contents File State) (conn : ConnectionId) (calls : List CallBuffers)
    (world : World B S) : Prop
  | intro {copy : PrivateCopy} (hcopy : controller.copy? = some copy) (hfor : copy.IsFor conn)
      (hfile : contents.file controller.library = contents.located copy.location)
      (hself : contents.selfContained controller.library)
      (hruns : controller.routine.RunsOn contents.state (contents.file controller.library)
        (controller.own contents.toInstances))
      (hkeeps : contents.Keeps world (contents.located copy.location) 1
        (controller.stateAfter contents calls))

namespace Slot

variable {contents : platform.Contents File State} {aside : Bytes → Prop}
  {directory? : Option Path} {conn : ConnectionId} {request : LoadRequest}
  {world left : World B S}

/-- A library has been opened from a private copy that nothing else is open from. The copy was made
for the connection, of the file that the request leads to. -/
structure OpensCopy (contents : platform.Contents File State) (aside : Bytes → Prop)
    (conn : ConnectionId) (request : LoadRequest) (world opened : World B S) (library : L)
    (copy : PrivateCopy) : Prop where
  /-- The copy was made for the connection. -/
  isFor : copy.IsFor conn
  /-- Nothing was where the copy is. -/
  free : world.files.node? copy.location = none
  /-- The file's contents stand alone. The copy has the same, and the library came from these. -/
  source : ∃ location content name, world.files.lookup request.path = .ok (location, .file content)
    ∧ contents.standsAlone content
    ∧ contents.accept name content = .ok (contents.image library)
    ∧ opened.files = world.files.place copy.location (.file content)
  /-- The library keeps its state to itself. -/
  selfContained : contents.selfContained library
  /-- The library is open from the copy. -/
  file : contents.file library = contents.located copy.location
  /-- The names that are set aside are unknown. -/
  unknown : ∀ name, aside name → ¬ contents.known opened.books name
  /-- There is one handle on the copy, and the state there is what the library begins with. -/
  keeps : contents.Keeps opened (contents.located copy.location) 1 (contents.image library).initial
  /-- All other files are as they were. -/
  unmoved : ∀ location, location ≠ copy.location → contents.Unmoved world opened location

/-- If a private copy is asked for, then what is opened is a private copy, as long as the request
does not depend on what else is open. -/
theorem Copied.opensCopy {copy? : Option PrivateCopy} {copied opened : World B S} {library : L}
    (hcopy : Copied platform.loader directory? conn request world (.ok copy?) copied)
    (horderly : contents.Orderly aside world) (hisolate : request.isolate = true)
    (hapart : request.IsApart contents aside world.files)
    (hdirectory : Platform.dollar ∉
      ((FileSystem.absolute world.files.workDir).join (directory?.getD world.tempDir)).bytes)
    (hopen : platform.loader.open copied (request.openPath copy?) = (.done library, opened)) :
    ∃ copy, copy? = some copy
      ∧ OpensCopy contents aside conn request world opened library copy := by
  have hbooks := hcopy.books
  have hsame (location : Location) : contents.Unmoved world copied location :=
    .of_eq hbooks hcopy.state location
  cases hcopy with
  | unasked hunasked =>
    rw [hisolate] at hunasked
    cases hunasked
  | noFile hasked hfile =>
    -- nothing was copied, so the path itself was tried, and that does not open
    cases hapart with
    | file hlookup => simp [FileSystem.isFile, hlookup] at hfile
    | refused _ hreason =>
      have hresult := hreason world.files world.books rfl horderly.unknown
      have hattempt := congrArg Prod.fst hopen
      simp only [Loader.open, Platform.loader, LoadRequest.openPath, PrivateCopy.openPath,
        Option.map_none, Option.getD_none, World.tell, hresult] at hattempt
      cases hattempt
  | @made copy files hasked hfile hcreate =>
    obtain ⟨found, content, hsource, hfree, hfiles, hlookup⟩ :=
      PrivateCopy.lookup_of_create hcreate
    cases hapart with
    | refused hnone =>
      rw [hfile] at hnone
      cases hnone
    | @file location content' hlookup' halone haside hdollar =>
      cases hsource.symm.trans hlookup'
      have hplain := PrivateCopy.isPlain_of_create hcreate hdirectory hdollar
      have hclosed := horderly.tidy _ hfree
      simp only [LoadRequest.openPath, PrivateCopy.openPath, Option.map_some,
        Option.getD_some] at hopen
      -- the copy has changed the files, and not what is open
      generalize hcopied : { world with files }.tell (.copied conn request.path copy.path) = copied
        at hopen hbooks hsame
      have hplace : copied.files = files := by rw [← hcopied]; rfl
      rw [← hplace] at hlookup
      rw [← hbooks] at hclosed
      obtain ⟨change, hopened⟩ := Platform.openPath_of_done hopen
      have halone' := Platform.Contents.openPath_alone hplain hlookup halone
        (Platform.Contents.isCurrent_of_closed hclosed)
      rw [hopened] at halone'
      obtain ⟨_, _, ⟨⟩, -⟩ | ⟨_, _, _, ⟨⟩, ⟨haccept, hself, hat, -⟩, hknown⟩ := halone'
      have hbegin := contents.initial_eq halone (FileSystem.lookup_eq_ok.1 hlookup).2.2 haccept
      have hfirst := Platform.Instances.Keeps.opened_first (hat.symm ▸ hclosed) hopen hself
      rw [hat, hbegin] at hfirst
      have hleft : opened.files = world.files.place copy.location (.file content) :=
        (Loader.files_of_open hopen).trans (hplace.trans hfiles)
      refine ⟨copy, rfl, PrivateCopy.isFor_of_create hcreate, hfree,
        ⟨_, content, _, hsource, halone, haccept, hleft⟩, hself, hat,
        fun name hname hsome => ?_, hfirst, fun location hne => (hsame location).trans ?_⟩
      · have hunknown := horderly.unknown name hname
        rw [← hbooks] at hunknown
        exact (hknown name hsome).elim hunknown (haside name hname)
      · intro handles own hthere
        exact hthere.opened_of_ne hopen hself fun hshared =>
          hne (contents.located_injective (hshared.trans hat))

/-- With the library still open the world is orderly: the only new file is the copy. -/
theorem OpensCopy.orderly {opened : World B S} {library : L} {copy : PrivateCopy}
    (hopens : OpensCopy contents aside conn request world opened library copy)
    (horderly : contents.Orderly aside world) : contents.Orderly aside opened := by
  obtain ⟨-, content, -, -, -, -, hfiles⟩ := hopens.source
  refine ⟨fun location hnone => ?_, hopens.unknown⟩
  rw [hfiles, FileSystem.node?_place (FileSystem.ne_nil_of_node? hopens.free)] at hnone
  split at hnone
  · cases hnone
  · rename_i hne
    exact (hopens.unmoved location hne).handles_eq_zero (horderly.tidy location hnone)

/-- Once the library is closed again, every file is as it was. -/
theorem OpensCopy.shut {opened : World B S} {library : L} {copy : PrivateCopy}
    (hopens : OpensCopy contents aside conn request world opened library copy)
    (horderly : contents.Orderly aside world) (location : Location) :
    contents.Unmoved world (platform.loader.shut library opened) location := by
  obtain ⟨hgone, hothers⟩ :=
    Platform.Contents.shut_only hopens.selfContained hopens.file hopens.keeps
  by_cases hlocation : location = copy.location
  · -- from where the copy is, nothing was open before and nothing is open afterwards
    subst hlocation
    intro handles own hthere
    obtain rfl : handles = 0 := hthere.1.symm.trans (horderly.tidy _ hopens.free)
    exact ⟨hgone, fun hheld => absurd rfl hheld⟩
  · exact (hopens.unmoved location hlocation).trans (hothers location hlocation)

/-- What a load that asks for a private copy leaves: a controller that has its copy to itself, if
there is one, and all files that there were as they were. -/
structure Lodges (contents : platform.Contents File State) (aside : Bytes → Prop)
    (conn : ConnectionId) (world left : World B S) (slot : Slot S L) : Prop where
  /-- The world is orderly. -/
  orderly : contents.Orderly aside left
  /-- The controller has its copy to itself, and is what its path leads to. -/
  lodged : ∀ controller, slot = .loaded controller →
    controller.IsLodged contents conn [] left ∧ controller.IsFrom contents world.files
  /-- The files are as they were. -/
  unmoved : ∀ location, world.files.node? location ≠ none → contents.Unmoved world left location

/-- A load without success leaves nothing open that was not open before. -/
theorem Attached.lodges_of_not_loaded {outcome : LoadOutcome} {slot : Slot S L}
    (hexit : Attached platform.loader directory? conn request world outcome slot left)
    (horderly : contents.Orderly aside world) (hslot : slot.isLoaded = false)
    (hunmoved : ∀ location, contents.Unmoved world left location)
    (hunknown : ∀ name, aside name → ¬ contents.known left.books name) :
    Lodges contents aside conn world left slot := by
  refine ⟨⟨fun location hnone => ?_, hunknown⟩, ?_, fun location _ => hunmoved location⟩
  · rw [hexit.files_of_not_loaded hslot] at hnone
    exact (hunmoved location).handles_eq_zero (horderly.tidy location hnone)
  · rintro controller rfl
    cases hslot

/-- A load that asks for a private copy leaves a controller that has its copy to itself, and the
state of all files that there were. -/
theorem Attached.lodges {outcome : LoadOutcome} {slot : Slot S L}
    (hexit : Attached platform.loader directory? conn request world outcome slot left)
    (horderly : contents.Orderly aside world) (hisolate : request.isolate = true)
    (hapart : request.IsApart contents aside world.files)
    (hdirectory : Platform.dollar ∉
      ((FileSystem.absolute world.files.workDir).join (directory?.getD world.tempDir)).bytes) :
    Lodges contents aside conn world left slot := by
  -- only the last exit leaves a controller
  have hfailed := hexit.lodges_of_not_loaded horderly
  cases hexit with
  | openPanicked hcopy hopen => exact absurd hopen Platform.open_ne_panicked
  | resolvePanicked hcopy hopen hresolve => exact absurd hresolve Platform.resolve_ne_panicked
  | notCopied hcopy =>
    exact hfailed rfl (.of_eq hcopy.books hcopy.state) (hcopy.books ▸ horderly.unknown)
  | @notOpened copy? copied opened reason hcopy hopen =>
    refine hfailed rfl (fun location => ?_) fun name hname hknown => ?_
    · have hopened : contents.Unmoved copied opened location :=
        fun handles own hthere => hthere.notOpened hopen
      rw [World.discard_eq]
      exact (Platform.Instances.Unmoved.of_eq hcopy.books hcopy.state location).trans hopened
    · rw [World.discard_eq] at hknown
      have hbefore := Platform.Contents.known_of_failed hopen name hknown
      rw [hcopy.books] at hbefore
      exact horderly.unknown name hname hbefore
  | @notResolved copy? copied opened library reason hcopy hopen hresolve =>
    obtain ⟨copy, rfl, hopens⟩ := hcopy.opensCopy horderly hisolate hapart hdirectory hopen
    refine hfailed rfl (fun location => ?_) fun name hname hknown => ?_
    · rw [World.discard_eq, Loader.close_eq]
      exact hopens.shut horderly location
    · rw [World.discard_eq, Loader.close_eq] at hknown
      exact hopens.unknown name hname (Platform.Contents.known_of_shut name hknown)
  | @bound copy? copied opened library routine hcopy hopen hresolve =>
    obtain ⟨copy, rfl, hopens⟩ := hcopy.opensCopy horderly hisolate hapart hdirectory hopen
    obtain ⟨place, content, name, hlookup, halone, haccept, -⟩ := hopens.source
    obtain ⟨horderly', hunknown⟩ := hopens.orderly horderly
    refine ⟨⟨horderly', hunknown⟩, ?_, fun location hthere => hopens.unmoved location ?_⟩
    · rintro controller ⟨⟩
      -- the routine is the one that the contents export, wherever they lie
      obtain ⟨symbol, hfound⟩ := Platform.resolve_of_done hresolve
      refine ⟨.intro rfl hopens.isFor hopens.file hopens.selfContained
        (contents.running hfound hopens.selfContained) hopens.keeps,
        ⟨place, content, name, hlookup, halone, haccept⟩, ?_⟩
      have hfind := Platform.Contents.resolve_eq hopens.selfContained opened.books request.symbol
      rw [Platform.resolve_eq_ok hresolve] at hfind
      exact hfind.symm
    · rintro rfl
      exact hthere hopens.free

end Slot

namespace LoadedController.IsLodged

variable {contents : platform.Contents File State} {aside : Bytes → Prop}
  {controller : LoadedController S L} {conn : ConnectionId} {calls : List CallBuffers}
  {world left : World B S}

theorem copy?_eq_some (hlodged : controller.IsLodged contents conn calls world) :
    ∃ copy, controller.copy? = some copy ∧ copy.IsFor conn := by
  obtain ⟨hcopy, hfor, -, -, -, -⟩ := hlodged
  exact ⟨_, hcopy, hfor⟩

/-- What leaves the state of its copy alone leaves a controller as it is. -/
theorem frame (hlodged : controller.IsLodged contents conn calls world)
    (hsame : ∀ copy, controller.copy? = some copy → contents.Unmoved world left copy.location) :
    controller.IsLodged contents conn calls left := by
  obtain ⟨hcopy, hfor, hfile, hself, hruns, hkeeps⟩ := hlodged
  exact .intro hcopy hfor hfile hself hruns (hsame _ hcopy _ _ hkeeps)

/-- Releasing a controller discards the state of its copy, and of no other file. -/
theorem release (hlodged : controller.IsLodged contents conn calls world)
    (horderly : contents.Orderly aside world) (addressed : ConnectionId) :
    contents.Orderly aside (controller.release platform.loader addressed world)
      ∧ ∀ location, (∀ copy, controller.copy? = some copy → location ≠ copy.location) →
        contents.Unmoved world (controller.release platform.loader addressed world) location := by
  obtain ⟨hcopy, hfor, hfile, hself, -, hkeeps⟩ := hlodged
  rename_i copy
  obtain ⟨hgone, hunmoved⟩ := Platform.Contents.shut_only hself hfile hkeeps
  rw [LoadedController.release_eq]
  refine ⟨⟨fun location hnone => ?_, fun name hname hknown => ?_⟩, fun location hother => ?_⟩
  · by_cases hlocation : location = copy.location
    · rwa [hlocation]
    · have hnone' : world.files.node? location = none := by
        simpa [hcopy, PrivateCopy.deleteFrom, PrivateCopy.delete,
          FileSystem.node?_remove hfor.location_ne_nil, hlocation] using hnone
      exact (hunmoved location hlocation).handles_eq_zero (horderly.tidy location hnone')
  · exact horderly.unknown name hname (Platform.Contents.known_of_shut name hknown)
  · exact hunmoved location (hother copy hcopy)

/-- A call sees the state that the calls before it have left. -/
theorem run_eq (hlodged : controller.IsLodged contents conn calls world) (buffers : CallBuffers) :
    (controller.routine.run world.state buffers).2 =
      ((controller.own contents.toInstances).run
        (controller.stateAfter contents calls) buffers).2 := by
  obtain ⟨-, -, hfile, -, hruns, hkeeps⟩ := hlodged
  rw [hruns.buffers, hfile, hkeeps.2 Nat.one_ne_zero]

/-- A call counts as one more, and leaves the state of other files. -/
theorem call (hlodged : controller.IsLodged contents conn calls world) (buffers : CallBuffers)
    (hbooks : left.books = world.books)
    (hstate : left.state = (controller.routine.run world.state buffers).1) :
    controller.IsLodged contents conn (calls ++ [buffers]) left
      ∧ ∀ location, (∀ copy, controller.copy? = some copy → location ≠ copy.location) →
        contents.Unmoved world left location := by
  obtain ⟨hcopy, hfor, hfile, hself, hruns, hkeeps⟩ := hlodged
  refine ⟨.intro hcopy hfor hfile hself hruns ?_, fun location hother handles own hthere => ?_⟩
  · rw [stateAfter, Routine.replay_concat]
    exact (hkeeps.called (hfile ▸ hruns) Nat.one_ne_zero buffers hbooks hstate).2
  · refine hthere.called_of_ne hruns (fun hsame => ?_) hbooks hstate
    exact hother _ hcopy (contents.located_injective (hsame.trans hfile))

end LoadedController.IsLodged

end ControllerHost
