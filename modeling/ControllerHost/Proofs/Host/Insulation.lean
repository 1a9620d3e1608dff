import ControllerHost.Proofs.Host.Calling
import ControllerHost.Proofs.Host.Custody
import ControllerHost.Proofs.Host.Locality
import ControllerHost.Proofs.Slot.Likeness

/-!
# Hosts whose connections keep to their copies

When every load asks for a private copy, each loaded connection has a library of its own, and the
state of that library is what the connection's own calls have left since it was loaded. This holds
after every run whose loads name nothing but files whose contents stand alone, and what the platform
refuses to open.

- `LoadRequest.IsPrivate`, `Host.Avoids`: such loads.
- `Host.Insulated`: each loaded connection has a copy to itself.
- `Host.Insulated.vacated`, `Host.Insulated.attached`: making room, and a load.
- `Host.recount`, `Host.Insulated.next`: the calls since the last load, and what every operation
  keeps.
-/

namespace ControllerHost

variable {B S L File State : Type} {platform : Platform B S L}

/-- A request asks for a private copy, and does not depend on what else is open. -/
structure LoadRequest.IsPrivate (request : LoadRequest) (contents : platform.Contents File State)
    (aside : Bytes → Prop) (files : FileSystem) : Prop where
  /-- A private copy is asked for. -/
  isolate : request.isolate = true
  /-- The path leads to contents that stand alone, or is refused. -/
  apart : request.IsApart contents aside files

/-- The calls of a connection since it was loaded, after one more answer. A load that succeeds
begins anew, and a call that succeeds on the given buffers is one more. -/
def Answer.recount (buffers? : Option CallBuffers) (calls : List CallBuffers) :
    Answer → List CallBuffers
  | load result => if result = .loaded then [] else calls
  | invoke result => if result.isOk then calls ++ buffers?.toList else calls
  | invokePayload result => if result.isOk then calls ++ buffers?.toList else calls
  | unload _ | status _ | describe _ | loadedCount _ | shutDown => calls

/-- A call is made on a connection, and if it is answered with buffers it is one more. -/
theorem Operation.recount_called {operation : Operation} {conn : ConnectionId}
    {buffers : CallBuffers} (hcall : operation.call? = some (conn, buffers)) (left : CallBuffers)
    (calls : List CallBuffers) : operation.conn? = some conn
      ∧ (operation.called left).recount (operation.call?.map Prod.snd) calls =
        calls ++ [buffers] := by
  rw [hcall]
  cases operation with
  | invokeUnchecked conn' buffers' =>
    cases hcall
    exact ⟨rfl, rfl⟩
  | invoke | invokePayload =>
    simp only [call?] at hcall
    split at hcall
    · cases hcall
      exact ⟨rfl, rfl⟩
    · cases hcall
  | _ => cases hcall

/-- A refusal is not counted. -/
theorem Answer.recount_of_isRefusal {answer : Answer} (hrefusal : answer.isRefusal = true)
    (buffers? : Option CallBuffers) (calls : List CallBuffers) :
    answer.recount buffers? calls = calls := by
  cases answer with
  | load result =>
    rw [recount, if_neg]
    rintro rfl
    cases hrefusal
  | invoke result | invokePayload result =>
    rw [recount, if_neg]
    simpa [isRefusal] using hrefusal
  | _ => rfl

namespace Host

/-- A path leads neither to a private copy that a slot holds nor through one. -/
def Avoids (host : Host B S L) (path : Path) : Prop :=
  ∀ slot ∈ host.registry.slots, ∀ copy ∈ slot.held?,
    ¬ host.world.files.Passes path copy.location

instance (host : Host B S L) (path : Path) : Decidable (host.Avoids path) :=
  inferInstanceAs (Decidable (∀ slot ∈ host.registry.slots, ∀ copy ∈ slot.held?, _))

/-- A load asks for a private copy, by a path that leads where it led before once what the
connection holds has been released. -/
def LoadsPrivately (host : Host B S L) (contents : platform.Contents File State)
    (aside : Bytes → Prop) (before : FileSystem) (operation : Operation) : Prop :=
  ∀ conn request, host.accepted? operation = some (conn, request) →
    request.IsPrivate contents aside before
      ∧ (host.released conn).files.lookup request.path = before.lookup request.path

/-- The files are those from before and the private copies, and every loaded connection has a
library of its own, in the state that the connection's calls have left. -/
structure Insulated (host : Host B S L) (contents : platform.Contents File State)
    (aside : Bytes → Prop) (before : FileSystem) (directory : Path)
    (calls : ConnectionId → List CallBuffers) : Prop where
  /-- The loader is the platform. -/
  platform : host.registry.loader = platform.loader
  /-- The platform takes the directory as it is written. -/
  dollar : Platform.dollar ∉ ((FileSystem.absolute before.workDir).join directory).bytes
  /-- Nothing has been added to the files but the private copies. -/
  keeping : ∃ last?, host.Keeping before directory last?
  /-- Nothing is open from where there is no file, nor by a name that is set aside. -/
  orderly : contents.Orderly aside host.world
  /-- Each controller has its copy to itself. -/
  lodged : ∀ conn controller, host.registry.slotOf conn = .loaded controller →
    controller.IsLodged contents conn (calls conn) host.world
  /-- Each controller is what its path leads to. -/
  sources : ∀ conn controller, host.registry.slotOf conn = .loaded controller →
    controller.IsFrom contents before

variable {host left : Host B S L} {contents : platform.Contents File State} {aside : Bytes → Prop}
  {before : FileSystem} {directory : Path} {calls : ConnectionId → List CallBuffers}
  {conn : ConnectionId} {request : LoadRequest}

/-! ### Places -/

/-- A connection that has a slot is not negative. -/
theorem nonneg_of_index? {capacity index : Nat} (hindex : conn.index? capacity = some index) :
    0 ≤ conn.toInt := by
  have htoInt := (ConnectionId.index?_eq_some_iff.1 hindex).1
  omega

/-- A connection whose slot has been emptied holds no copy. -/
theorem held?_setSlot_empty {registry : Registry B S L} {index : Nat}
    (hindex : conn.index? registry.capacity = some index) :
    ((registry.setSlot index .empty).slotOf conn).held? = none := by
  rw [slotOf_setSlot_of_index? hindex, if_pos rfl]
  rfl

/-- What is loaded once a connection's slot has been emptied is loaded on another one. -/
theorem loaded_setSlot_empty {registry : Registry B S L} {index : Nat}
    (hindex : conn.index? registry.capacity = some index) {other : ConnectionId}
    {controller : LoadedController S L}
    (hloaded : (registry.setSlot index .empty).slotOf other = .loaded controller) :
    other ≠ conn ∧ registry.slotOf other = .loaded controller := by
  rw [slotOf_setSlot_of_index? hindex] at hloaded
  split at hloaded
  · cases hloaded
  · exact ⟨‹_›, hloaded⟩

/-! ### Copies apart -/

/-- Keeping is of the registry, the files and the temporary directory only. -/
theorem Keeping.same {last? : ConnectionId → Option Origin}
    (hkeeping : host.Keeping before directory last?) (hregistry : left.registry = host.registry)
    (hfiles : left.world.files = host.world.files)
    (htempDir : left.world.tempDir = host.world.tempDir) : left.Keeping before directory last? := by
  obtain ⟨⟨hplatform, hdirectory⟩, hplaced, kept, hcustody⟩ := hkeeping
  refine ⟨⟨by rw [hregistry, hplatform], by rw [hregistry, htempDir, hdirectory]⟩, ?_, kept,
    hcustody.same hfiles fun conn controller => by rw [hregistry]⟩
  intro place hloaded
  rw [hregistry] at hloaded
  exact hplaced place hloaded

/-- Insulation is of the registry, the files, the open libraries and their state only. -/
theorem Insulated.same (hinsulated : host.Insulated contents aside before directory calls)
    (hregistry : left.registry = host.registry) (hfiles : left.world.files = host.world.files)
    (htempDir : left.world.tempDir = host.world.tempDir)
    (hbooks : left.world.books = host.world.books) (hstate : left.world.state = host.world.state) :
    left.Insulated contents aside before directory calls where
  platform := by
    rw [hregistry]
    exact hinsulated.platform
  dollar := hinsulated.dollar
  keeping := hinsulated.keeping.imp fun _ hkeeping => hkeeping.same hregistry hfiles htempDir
  orderly := by
    refine ⟨fun location hnone => ?_, ?_⟩
    · rw [hfiles] at hnone
      rw [hbooks]
      exact hinsulated.orderly.tidy location hnone
    · rw [hbooks]
      exact hinsulated.orderly.unknown
  -- what is open and its state are as before, so every controller still has its copy to itself
  lodged conn controller hslot := by
    rw [hregistry] at hslot
    refine (hinsulated.lodged conn controller hslot).frame fun _ _ handles own hthere => ?_
    rwa [Platform.Instances.Keeps, hbooks, hstate]
  sources conn controller hslot := by
    rw [hregistry] at hslot
    exact hinsulated.sources conn controller hslot

/-- Telling an event leaves a host insulated. -/
theorem Insulated.tell (hinsulated : host.Insulated contents aside before directory calls)
    (event : Event) :
    (Host.mk host.registry (host.world.tell event)).Insulated contents aside before directory
      calls :=
  hinsulated.same rfl rfl rfl rfl rfl

/-- The directory of the copies is the one that the settings and the files give. -/
theorem Insulated.directory_eq
    (hinsulated : host.Insulated contents aside before directory calls) :
    host.registry.settings.copyDir?.getD host.world.tempDir = directory := by
  obtain ⟨last?, hkeeping⟩ := hinsulated.keeping
  exact hkeeping.copies.directory_eq

/-- The working directory is the one of the start. -/
theorem Insulated.workDir (hinsulated : host.Insulated contents aside before directory calls) :
    host.world.files.workDir = before.workDir := by
  obtain ⟨last?, -, -, kept, hcustody⟩ := hinsulated.keeping
  rw [hcustody.files, FileSystem.workDir_adding]

/-- The copies of two connections are two files. -/
theorem Insulated.location_ne (hinsulated : host.Insulated contents aside before directory calls)
    {other : ConnectionId} (hother : other ≠ conn) {copy copy' : PrivateCopy}
    (hcopy : (host.registry.slotOf conn).held? = some copy)
    (hcopy' : (host.registry.slotOf other).held? = some copy') :
    copy'.location ≠ copy.location := by
  obtain ⟨last?, -, -, kept, hcustody⟩ := hinsulated.keeping
  obtain ⟨content, hmem⟩ := (hcustody.held _ _).1 hcopy
  obtain ⟨content', hmem'⟩ := (hcustody.held _ _).1 hcopy'
  intro hlocation
  exact hother ((hcustody.conn_iff_location hmem' hmem).1 hlocation)

/-- There is a file where a connection's copy is. -/
theorem Insulated.node?_copy (hinsulated : host.Insulated contents aside before directory calls)
    {copy : PrivateCopy} (hcopy : (host.registry.slotOf conn).held? = some copy) :
    host.world.files.node? copy.location ≠ none := by
  obtain ⟨last?, -, -, kept, hcustody⟩ := hinsulated.keeping
  obtain ⟨content, hmem⟩ := (hcustody.held _ _).1 hcopy
  have hnode : host.world.files.node? copy.location = some (.file content) := by
    rw [hcustody.files]
    exact FileSystem.node?_adding_of_mem hcustody.areFree hcustody.distinct
      (List.mem_map_of_mem hmem)
  simp [hnode]

/-- A host that starts in an orderly world is insulated. -/
theorem insulated_start (settings : Settings) {world : World B S}
    (horderly : contents.Orderly aside world)
    (hdollar : Platform.dollar ∉ ((FileSystem.absolute world.files.workDir).join
      (settings.copyDir?.getD world.tempDir)).bytes)
    (calls : ConnectionId → List CallBuffers) :
    (start platform.loader settings world).Insulated contents aside world.files
      (settings.copyDir?.getD world.tempDir) calls where
  platform := rfl
  dollar := hdollar
  keeping := ⟨_, keeping_start platform settings world⟩
  orderly := ⟨horderly.tidy, horderly.unknown⟩
  lodged conn controller hslot := by
    rw [slotOf_start] at hslot
    cases hslot
  sources conn controller hslot := by
    rw [slotOf_start] at hslot
    cases hslot

/-! ### Making room -/

/-- Releasing a controller leaves the other connections their copies. -/
theorem Insulated.release (hinsulated : host.Insulated contents aside before directory calls)
    {index : Nat} (hindex : conn.index? host.registry.capacity = some index)
    {controller : LoadedController S L} (hslot : host.registry.slot index = .loaded controller) :
    (Host.mk (host.registry.setSlot index .empty)
      (controller.release host.registry.loader conn host.world)).Insulated contents aside before
        directory calls := by
  have hloaded := (slotOf_of_index? hindex).trans hslot
  have hlodged := hinsulated.lodged conn controller hloaded
  obtain ⟨copy, hcopy, -⟩ := hlodged.copy?_eq_some
  -- what is open from the other files stays as it is
  have hrelease := hlodged.release hinsulated.orderly conn
  rw [← hinsulated.platform] at hrelease
  obtain ⟨last?, hkeeping⟩ := hinsulated.keeping
  have hchange := hkeeping.change
    (.unloaded (ConnectionId.index?_eq_some_iff.1 hindex).2 hslot)
  rw [ConnectionId.ofIndex_of_index? hindex] at hchange
  refine ⟨hinsulated.platform, hinsulated.dollar, ⟨last?, hchange⟩, hrelease.1,
    fun other controller' hthere => ?_, fun other controller' hthere =>
      hinsulated.sources other controller' (loaded_setSlot_empty hindex hthere).2⟩
  obtain ⟨hother, hloaded'⟩ := loaded_setSlot_empty hindex hthere
  refine (hinsulated.lodged other controller' hloaded').frame fun copy' hcopy' => ?_
  refine hrelease.2 _ fun gone hgone => ?_
  cases hcopy.symm.trans hgone
  exact hinsulated.location_ne hother (Slot.held?_eq_some.2 ⟨controller, hloaded, hcopy⟩)
    (Slot.held?_eq_some.2 ⟨controller', hloaded', hcopy'⟩)

/-- Making room for a load leaves the other connections their copies. -/
theorem Insulated.vacated (hinsulated : host.Insulated contents aside before directory calls)
    {index : Nat} (hindex : conn.index? host.registry.capacity = some index) :
    (Host.mk (host.registry.setSlot index .empty) (host.released conn)).Insulated contents aside
      before directory calls := by
  obtain ⟨last?, hkeeping⟩ := hinsulated.keeping
  have hslotOf := slotOf_of_index? hindex
  -- a slot without a controller leaves the world as it is
  have hforgotten (hslot : (host.registry.slot index).isLoaded = false)
      (hworld : host.released conn = host.world) :
      (Host.mk (host.registry.setSlot index .empty) (host.released conn)).Insulated contents aside
        before directory calls := by
    have hchange := hkeeping.change
      (.forgotten (ConnectionId.index?_eq_some_iff.1 hindex).2 hslot)
    rw [hworld]
    exact ⟨hinsulated.platform, hinsulated.dollar, ⟨last?, hchange⟩, hinsulated.orderly,
      fun other controller hloaded =>
        hinsulated.lodged other controller (loaded_setSlot_empty hindex hloaded).2,
      fun other controller hloaded =>
        hinsulated.sources other controller (loaded_setSlot_empty hindex hloaded).2⟩
  cases hslot : host.registry.slot index with
  | empty => exact hforgotten (by rw [hslot]; rfl) (by rw [released, hslotOf, hslot]; rfl)
  | failed path symbol reason =>
    exact hforgotten (by rw [hslot]; rfl) (by rw [released, hslotOf, hslot]; rfl)
  | loaded controller =>
    -- first it is said that the controller is going to be replaced
    have hreleased := (hinsulated.tell (.replacing conn controller.path)).release hindex hslot
    rw [released, hslotOf, hslot]
    exact hreleased

/-! ### Loads -/

/-- A load on a slot that has been emptied leaves the connection, if it succeeds, a library that has
not been called, and the other connections their copies. -/
theorem Insulated.attached {index : Nat} {released world : World B S}
    (hvacated : (Host.mk (host.registry.setSlot index .empty) released).Insulated contents aside
      before directory calls)
    (hindex : conn.index? host.registry.capacity = some index) (hisolate : request.isolate = true)
    (hapart : request.IsApart contents aside before)
    (hlookup : released.files.lookup request.path = before.lookup request.path)
    {outcome : LoadOutcome} {slot : Slot S L}
    (hexit : Slot.Attached platform.loader host.registry.settings.copyDir? conn request released
      outcome slot world)
    (hkept : ∃ last?, (Host.mk (host.registry.setSlot index slot) world).Keeping before directory
      last?) (buffers? : Option CallBuffers) :
    (Host.mk (host.registry.setSlot index slot) world).Insulated contents aside before directory
      (Function.update calls conn
        ((Answer.load (outcome.result request)).recount buffers? (calls conn))) := by
  have hdollar : Platform.dollar ∉ ((FileSystem.absolute released.files.workDir).join
      (host.registry.settings.copyDir?.getD released.tempDir)).bytes := by
    have hdirectory : host.registry.settings.copyDir?.getD released.tempDir = directory :=
      hvacated.directory_eq
    have hworkDir : released.files.workDir = before.workDir := hvacated.workDir
    rw [hdirectory, hworkDir]
    exact hvacated.dollar
  obtain ⟨horderly, hloaded, hothers⟩ :=
    hexit.lodges hvacated.orderly hisolate (hapart.congr hlookup) hdollar
  -- what is loaded now is what the load has left, or was loaded before it
  have hslots {other : ConnectionId} {controller : LoadedController S L}
      (hsame : (host.registry.setSlot index slot).slotOf other = .loaded controller) :
      other = conn ∧ slot = .loaded controller
        ∨ other ≠ conn
          ∧ (host.registry.setSlot index .empty).slotOf other = .loaded controller := by
    rw [slotOf_setSlot_of_index? hindex] at hsame ⊢
    split at hsame
    · exact .inl ⟨‹_›, hsame⟩
    · rename_i hother
      exact .inr ⟨hother, by rw [if_neg hother, hsame]⟩
  refine ⟨hvacated.platform, hvacated.dollar, hkept, horderly, fun other controller hsame => ?_,
    fun other controller hsame => ?_⟩
  · rcases hslots hsame with ⟨rfl, rfl⟩ | ⟨hother, hthere⟩
    · rw [Function.update_self, Answer.recount, if_pos (hexit.result_eq_loaded.2 rfl)]
      exact (hloaded controller rfl).1
    · -- where the copy of another connection is there was a file before the load
      rw [Function.update_of_ne hother]
      refine (hvacated.lodged other controller hthere).frame fun copy hcopy => hothers _ ?_
      exact hvacated.node?_copy (Slot.held?_eq_some.2 ⟨controller, hthere, hcopy⟩)
  · rcases hslots hsame with ⟨rfl, rfl⟩ | ⟨hother, hthere⟩
    · obtain ⟨⟨location, content, name, hsource, halone⟩, hroutine⟩ := (hloaded controller rfl).2
      rw [hexit.loaded.1, hlookup] at hsource
      exact ⟨⟨location, content, name, hexit.loaded.1 ▸ hsource, halone⟩, hroutine⟩
    · exact hvacated.sources other controller hthere

/-- For a connection without a copy, the files that there were not before are the copies of other
connections. -/
theorem Insulated.others (hinsulated : host.Insulated contents aside before directory calls)
    (hheld : (host.registry.slotOf conn).held? = none) :
    ∃ added, host.world.files = before.adding added ∧ before.AreFree added
      ∧ (added.map Prod.fst).Nodup
      ∧ (added = [] ∨ ∃ place, before.lookup
        ((FileSystem.absolute before.workDir).join directory) = .ok (place, .directory))
      ∧ ∀ location ∈ added.map Prod.fst, ∃ other copy, other ≠ conn
        ∧ (host.registry.slotOf other).held? = some copy ∧ copy.location = location := by
  obtain ⟨last?, -, -, kept, hcustody⟩ := hinsulated.keeping
  refine ⟨kept.map KeptCopy.entry, hcustody.files, hcustody.areFree, hcustody.distinct, ?_, ?_⟩
  · cases kept with
    | nil => exact .inl rfl
    | cons copy rest =>
      obtain ⟨-, hdirectory, -, -, -, -⟩ := hcustody.new copy (List.mem_cons_self ..)
      exact .inr ⟨_, hdirectory⟩
  · intro location hlocation
    rw [List.map_map] at hlocation
    obtain ⟨copy, hcopy, rfl⟩ := List.mem_map.1 hlocation
    exact ⟨copy.conn, copy.copy, hcustody.conn_ne hheld copy hcopy,
      (hcustody.held _ _).2 ⟨copy.content, hcopy⟩, rfl⟩

/-- No other connection's copy has a name that this connection's copy could have. -/
theorem Insulated.name_ne (hinsulated : host.Insulated contents aside before directory calls)
    (hconn : 0 ≤ conn.toInt) {other : ConnectionId} (hother : other ≠ conn) {copy : PrivateCopy}
    (hcopy : (host.registry.slotOf other).held? = some copy) {source : Path} {fileName : Bytes}
    (hname : source.fileName? = some fileName) (part : NamePart) :
    copy.location.getLast? ≠ some (PrivateCopy.nameOf source fileName conn part) := by
  obtain ⟨controller, hslot, hheld⟩ := Slot.held?_eq_some.1 hcopy
  obtain ⟨index, hindex, -⟩ := exists_index?_of_loaded hslot
  obtain ⟨copy', hcopy', source', fileName', part', hname', hlast⟩ :=
    (hinsulated.lodged other controller hslot).copy?_eq_some
  cases hheld.symm.trans hcopy'
  rw [hlast, Ne, Option.some.injEq]
  intro hsame
  exact hother (PrivateCopy.parts_of_nameOf hname' hname
    (nonneg_of_index? hindex) hconn hsame).2.1

/-- Once what a connection holds has been released, a path that avoids all private copies leads
where it led before. -/
theorem Insulated.lookup_released
    (hinsulated : host.Insulated contents aside before directory calls) {index : Nat}
    (hindex : conn.index? host.registry.capacity = some index) {path : Path}
    (havoids : host.Avoids path) : (host.released conn).files.lookup path = before.lookup path := by
  obtain ⟨added, hfiles, hfree, hdistinct, -, hothers⟩ :=
    (hinsulated.vacated hindex).others (held?_setSlot_empty hindex)
  simp only at hfiles
  rw [hfiles]
  refine FileSystem.lookup_adding_of_not_passes hfree hdistinct fun location hlocation hpasses => ?_
  obtain ⟨other, copy, hother, hcopy, rfl⟩ := hothers location hlocation
  rw [slotOf_setSlot_of_index? hindex, if_neg hother] at hcopy
  have hmem : host.registry.slotOf other ∈ host.registry.slots := by
    apply slotOf_mem_slots
    intro hempty
    rw [hempty] at hcopy
    cases hcopy
  refine havoids _ hmem copy hcopy ?_
  rw [← hfiles, released, Slot.files_vacate] at hpasses
  cases hheld : (host.registry.slotOf conn).held? with
  | none => rwa [hheld] at hpasses
  | some gone =>
    -- a path that leads on without the connection's copy leads on with it
    rw [hheld] at hpasses
    obtain ⟨controller, hloaded, hgone⟩ := Slot.held?_eq_some.1 hheld
    obtain ⟨gone', hgone', hfor⟩ := (hinsulated.lodged conn controller hloaded).copy?_eq_some
    cases hgone.symm.trans hgone'
    exact hpasses.of_remove hfor.location_ne_nil

/-- A load that is private and avoids all copies leads where it led before. -/
theorem Insulated.loadsPrivately
    (hinsulated : host.Insulated contents aside before directory calls) {operation : Operation}
    (hload : ∀ conn request, host.accepted? operation = some (conn, request) →
      request.IsPrivate contents aside before ∧ host.Avoids request.path) :
    host.LoadsPrivately contents aside before operation := by
  intro conn request haccepted
  obtain ⟨hprivate, havoids⟩ := hload conn request haccepted
  obtain ⟨-, index, hindex⟩ := conn?_of_accepted haccepted
  exact ⟨hprivate, hinsulated.lookup_released hindex havoids⟩

/-! ### Operations -/

/-- The calls of each connection since it was loaded, after one more operation and its answer. -/
def recount (calls : ConnectionId → List CallBuffers) (operation : Operation) (answer : Answer) :
    ConnectionId → List CallBuffers :=
  match operation.conn? with
  | some conn =>
    Function.update calls conn (answer.recount (operation.call?.map Prod.snd) (calls conn))
  | none => calls

/-- A private load, or one that is refused, keeps a host insulated. -/
theorem Insulated.loadWith (hinsulated : host.Insulated contents aside before directory calls)
    (hload : host.admit? conn request = some (conn, request) →
      request.IsPrivate contents aside before
        ∧ (host.released conn).files.lookup request.path = before.lookup request.path)
    (buffers? : Option CallBuffers) :
    (Host.mk (host.registry.loadWith conn request host.world).2.1
        (host.registry.loadWith conn request host.world).2.2).Insulated contents aside before
      directory (Function.update calls conn ((Answer.load
        (host.registry.loadWith conn request host.world).1).recount buffers? (calls conn))) := by
  obtain ⟨last?, hkeeping⟩ := hinsulated.keeping
  have hkept : ∃ last?, _ := ⟨_, hkeeping.change (change_of_loadWith conn request)⟩
  unfold Registry.loadWith Registry.index at hkept ⊢
  cases hindex : conn.index? host.registry.capacity with
  -- a load that is refused at once changes nothing, and begins no new count
  | none => simpa [Answer.recount] using hinsulated
  | some index =>
    cases hfault : Registry.requestFault? request with
    | some fault => simpa [Answer.recount] using hinsulated
    | none =>
      obtain ⟨hprivate, hlookup⟩ := hload (by simp [admit?, hindex, hfault])
      have hslot := slotOf_of_index? hindex
      have hreleased : (host.registry.slot index).vacate host.registry.loader conn host.world =
          host.released conn := by rw [released, hslot]
      simp only [hindex, hfault, Slot.load, hreleased] at hkept ⊢
      obtain ⟨hexit, hresult⟩ := Slot.attached host.registry.loader host.registry.settings.copyDir?
        conn request (host.released conn)
      generalize Slot.attach host.registry.loader host.registry.settings.copyDir? conn request
        (host.released conn) = attempt at hkept hexit hresult ⊢
      obtain ⟨result, slot, world⟩ := attempt
      rw [hinsulated.platform] at hexit hresult
      simp only at hresult hkept ⊢
      rw [hresult]
      exact (hinsulated.vacated hindex).attached hindex hprivate.isolate hprivate.apart hlookup
        hexit hkept buffers?

/-- A call on a loaded connection is answered what its routine makes of the buffers in the state
that the connection's calls have left. -/
theorem Insulated.perform_calling
    (hinsulated : host.Insulated contents aside before directory calls) {operation : Operation}
    {controller : LoadedController S L} {buffers : CallBuffers}
    (hcall : operation.call? = some (conn, buffers))
    (hslot : host.registry.slotOf conn = .loaded controller) :
    (host.perform operation).1 = operation.called ((controller.own contents.toInstances).run
      (controller.stateAfter contents (calls conn)) buffers).2 := by
  obtain ⟨hanswer, events, hnext⟩ :=
    Host.perform_calling (calling?_eq_some.2 ⟨conn, hcall, hslot⟩)
  rw [hanswer, (hinsulated.lodged conn controller hslot).run_eq buffers]

/-- A call leaves the connections their copies, and one more call counts if it is answered. -/
theorem Insulated.call (hinsulated : host.Insulated contents aside before directory calls)
    {operation : Operation} (hcall : operation.isCall = true) :
    (host.next operation).Insulated contents aside before directory
      (recount calls operation (host.perform operation).1) := by
  cases hcalling : host.calling? operation with
  | none =>
    -- a refusal is not counted, and at most a payload has been shown
    obtain ⟨answer, hrefusal, hperform⟩ := perform_of_not_calling hcall hcalling
    obtain ⟨check, hcheck, hreport⟩ := exists_of_firstFault? hrefusal
    have hcount : recount calls operation answer = calls := by
      unfold recount
      cases operation.conn? with
      | none => rfl
      | some conn =>
        simp only [← hreport, Answer.recount_of_isRefusal (isRefusal_of_mem_checks hcheck),
          Function.update_eq_self]
    rw [next, hperform, hcount]
    exact hinsulated.same rfl rfl rfl rfl rfl
  | some called =>
    obtain ⟨controller, buffers⟩ := called
    obtain ⟨conn, hgiven, hslot⟩ := calling?_eq_some.1 hcalling
    obtain ⟨hanswer, events, hnext⟩ := Host.perform_calling hcalling
    obtain ⟨hconn, hcount⟩ := Operation.recount_called hgiven
      (controller.routine.run host.world.state buffers).2 (calls conn)
    have hregistry : (host.next operation).registry = host.registry := by rw [hnext]
    have hfiles : (host.next operation).world.files = host.world.files := by rw [hnext]
    have htempDir : (host.next operation).world.tempDir = host.world.tempDir := by rw [hnext]
    have hbooks : (host.next operation).world.books = host.world.books := by rw [hnext]
    have hstate : (host.next operation).world.state =
        (controller.routine.run host.world.state buffers).1 := by rw [hnext]
    obtain ⟨hlodged, hothers⟩ :=
      (hinsulated.lodged conn controller hslot).call buffers hbooks hstate
    simp only [recount, hconn, hanswer, hcount]
    refine ⟨hregistry ▸ hinsulated.platform, hinsulated.dollar,
      hinsulated.keeping.imp fun _ hkeeping => hkeeping.same hregistry hfiles htempDir,
      ⟨fun location hnone => ?_, hbooks ▸ hinsulated.orderly.unknown⟩,
      fun other controller' hloaded => ?_,
      fun other controller' hloaded => hinsulated.sources other controller' (hregistry ▸ hloaded)⟩
    · rw [hfiles] at hnone
      rw [hbooks]
      exact hinsulated.orderly.tidy location hnone
    · rw [hregistry] at hloaded
      by_cases hother : other = conn
      · subst hother
        cases hslot.symm.trans hloaded
        rwa [Function.update_self]
      · rw [Function.update_of_ne hother]
        refine (hinsulated.lodged other controller' hloaded).frame fun copy' hcopy' => ?_
        refine hothers _ fun copy hcopy => ?_
        exact hinsulated.location_ne hother (Slot.held?_eq_some.2 ⟨controller, hslot, hcopy⟩)
          (Slot.held?_eq_some.2 ⟨controller', hloaded, hcopy'⟩)

/-- An unload keeps a host insulated. -/
theorem Insulated.unload (hinsulated : host.Insulated contents aside before directory calls) :
    (Host.mk (host.registry.unload conn host.world).2.1
      (host.registry.unload conn host.world).2.2).Insulated contents aside before directory
        calls := by
  unfold Registry.unload Registry.index
  cases hindex : conn.index? host.registry.capacity with
  | none => exact hinsulated
  | some index =>
    have hback := Registry.setSlot_slot (ConnectionId.index?_eq_some_iff.1 hindex).2
    cases hslot : host.registry.slot index with
    | loaded controller =>
      have hreleased := hinsulated.release hindex hslot
      simpa only [hslot, Slot.unload] using hreleased
    | empty | failed =>
      rw [hslot] at hback
      simp only [hslot, Slot.unload, hback]
      exact hinsulated

/-- What keeps the connections to their copies is kept by every operation but the shutdown. -/
theorem Insulated.next (hinsulated : host.Insulated contents aside before directory calls)
    {operation : Operation} (hshutDown : operation ≠ .shutDown)
    (hload : host.LoadsPrivately contents aside before operation) :
    (host.next operation).Insulated contents aside before directory
      (recount calls operation (host.perform operation).1) := by
  cases operation with
  | load conn path symbol => exact hinsulated.loadWith (hload conn ⟨path, symbol, _⟩) none
  | loadWith conn request => exact hinsulated.loadWith (hload conn request) none
  | unload conn =>
    simp only [recount, Operation.conn?, Host.perform, Answer.recount, Function.update_eq_self]
    exact hinsulated.unload
  | invoke | invokeUnchecked | invokePayload => exact hinsulated.call rfl
  | status | describe =>
    simp only [recount, Operation.conn?, Host.perform, Answer.recount, Function.update_eq_self]
    exact hinsulated
  | loadedCount => exact hinsulated
  | shutDown => exact absurd rfl hshutDown

end Host

end ControllerHost
