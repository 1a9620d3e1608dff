import ControllerHost.Platform
import ControllerHost.Proofs.Host.Step
import ControllerHost.Proofs.Slot.Files
import Mathlib.Data.List.Nodup

/-!
# The custody of private copies

Every private copy belongs to the connection that is loaded from it. In every run over a platform
the files are those of the start and the private copies of the loaded connections, nothing more and
nothing less, so that in the end the files are those of the start again.

- `Origin`, `Host.remember`, `Host.origins`: the last load of each connection, and the files that it
  found.
- `KeptCopy`, `Host.Custody`: the private copies that there are, and whose they are.
- `Host.Custody.release`, `Host.Custody.attach`: what making room and a load do to them.
- `Host.copies_after_and_drop`: the private copies after every run, and none after the registry is
  given up.
-/

namespace ControllerHost

variable {B S L : Type}

/-! ### Origins -/

/-- A load that was not refused at once, and the files that it found when what the connection held
had been released. -/
structure Origin where
  /-- What was asked for. -/
  request : LoadRequest
  /-- The files. -/
  files : FileSystem

namespace Host

/-- The last load of each connection, after a load that was not refused at once, if there is one. -/
def remember (host : Host B S L) (last? : ConnectionId → Option Origin)
    (load? : Option (ConnectionId × LoadRequest)) : ConnectionId → Option Origin :=
  match load? with
  | some (conn, request) => fun other =>
    if other = conn then some ⟨request, (host.released conn).files⟩ else last? other
  | none => last?

/-- The last load of each connection after a run. -/
def origins (host : Host B S L) (last? : ConnectionId → Option Origin) :
    List Operation → ConnectionId → Option Origin
  | [] => last?
  | operation :: rest =>
    (host.next operation).origins (host.remember last? (host.accepted? operation)) rest

end Host

/-! ### Custody -/

/-- A private copy that a connection is loaded from. -/
structure KeptCopy where
  /-- The connection. -/
  conn : ConnectionId
  /-- The copy. -/
  copy : PrivateCopy
  /-- What the copy holds. -/
  content : Bytes

/-- The file that a private copy is. -/
def KeptCopy.entry (kept : KeptCopy) : Location × Bytes := (kept.copy.location, kept.content)

namespace Host

/-- A host loads from files, and its private copies go to a directory. -/
structure CopiesTo (host : Host B S L) (directory : Path) : Prop where
  /-- The loader's paths lead to files. -/
  fromFiles : host.registry.loader.isFileBacked = true
  /-- The directory is that of the settings, or else the one for temporary files. -/
  directory_eq : host.registry.settings.copyDir?.getD host.world.tempDir = directory

/-- The files are those from before and the private copies that connections are loaded from. -/
structure Custody (host : Host B S L) (before : FileSystem) (directory : Path)
    (last? : ConnectionId → Option Origin) (kept : List KeptCopy) : Prop where
  /-- There are no other files. -/
  files : host.world.files = before.adding (kept.map KeptCopy.entry)
  /-- A connection has at most one copy. -/
  one_each : (kept.map KeptCopy.conn).Nodup
  /-- No two copies are at one place. -/
  apart : (kept.map fun kept => kept.copy.location).Nodup
  /-- The copies are those in the slots. -/
  held : ∀ conn copy,
    (host.registry.slotOf conn).held? = some copy ↔ ∃ content, ⟨conn, copy, content⟩ ∈ kept
  /-- Every copy is at a new name in the directory. -/
  new : ∀ copy ∈ kept, copy.copy.IsNewIn before directory
  /-- Every copy holds what its connection's last load found at the path that it asked for. -/
  source : ∀ copy ∈ kept, ∃ origin found, last? copy.conn = some origin
    ∧ origin.files.lookup origin.request.path = .ok (found, .file copy.content)
  /-- A loaded connection has the path that its last load asked for. It is loaded from a copy
  exactly if one was asked for and the load found a file. -/
  loaded : ∀ conn controller, host.registry.slotOf conn = .loaded controller →
    ∃ origin, last? conn = some origin ∧ controller.path = origin.request.path
      ∧ (controller.copy?.isSome ↔
        origin.request.isolate = true ∧ origin.files.isFile origin.request.path = true)

variable {host left : Host B S L} {before : FileSystem} {directory : Path}
  {last? : ConnectionId → Option Origin} {kept : List KeptCopy}

/-- No kept copy's location was taken before the host. -/
theorem Custody.areFree (hcustody : host.Custody before directory last? kept) :
    before.AreFree (kept.map KeptCopy.entry) := by
  intro entry hentry
  obtain ⟨copy, hcopy, rfl⟩ := List.mem_map.1 hentry
  cases hcustody.new copy hcopy
  assumption

/-- No two kept copies lie at one location. -/
theorem Custody.distinct (hcustody : host.Custody before directory last? kept) :
    ((kept.map KeptCopy.entry).map Prod.fst).Nodup := by
  rw [List.map_map]
  exact hcustody.apart

/-- What changes neither the files nor the loaded controllers keeps custody. -/
theorem Custody.same (hcustody : host.Custody before directory last? kept)
    (hfiles : left.world.files = host.world.files)
    (hslots : ∀ conn controller, left.registry.slotOf conn = .loaded controller ↔
      host.registry.slotOf conn = .loaded controller) :
    left.Custody before directory last? kept where
  files := hfiles.trans hcustody.files
  one_each := hcustody.one_each
  apart := hcustody.apart
  held conn copy := by
    rw [← hcustody.held, Slot.held?_eq_some, Slot.held?_eq_some]
    simp only [hslots]
  new := hcustody.new
  source := hcustody.source
  loaded conn controller hslot := hcustody.loaded conn controller ((hslots conn controller).1 hslot)

/-- Kept copies lie at one location just when they are of one connection. -/
theorem Custody.conn_iff_location (hcustody : host.Custody before directory last? kept)
    {first second : KeptCopy} (hfirst : first ∈ kept) (hsecond : second ∈ kept) :
    first.copy.location = second.copy.location ↔ first.conn = second.conn := by
  constructor
  · intro hlocation
    rw [List.inj_on_of_nodup_map hcustody.apart hfirst hsecond hlocation]
  · intro hconn
    rw [List.inj_on_of_nodup_map hcustody.one_each hfirst hsecond hconn]

/-- A connection whose slot holds no copy has none kept. -/
theorem Custody.conn_ne (hcustody : host.Custody before directory last? kept) {conn : ConnectionId}
    (hheld : (host.registry.slotOf conn).held? = none) : ∀ copy ∈ kept, copy.conn ≠ conn := by
  rintro copy hcopy rfl
  have hsome := (hcustody.held copy.conn copy.copy).2 ⟨copy.content, hcopy⟩
  rw [hheld] at hsome
  cases hsome

/-- Deleting what a connection is loaded from leaves the copies of all other connections. -/
theorem Custody.files_deleteFrom (hcustody : host.Custody before directory last? kept)
    (conn : ConnectionId) :
    PrivateCopy.deleteFrom (host.registry.slotOf conn).held? host.world.files =
      before.adding ((kept.filter fun copy => copy.conn ≠ conn).map KeptCopy.entry) := by
  cases hheld : (host.registry.slotOf conn).held? with
  | none =>
    have hkept : kept.filter (fun copy => decide (copy.conn ≠ conn)) = kept := by
      rw [List.filter_eq_self]
      intro copy hcopy
      exact decide_eq_true (hcustody.conn_ne hheld copy hcopy)
    rw [hkept]
    exact hcustody.files
  | some copy =>
    obtain ⟨content, hmem⟩ := (hcustody.held conn copy).1 hheld
    have hfree : before.node? copy.location = none :=
      hcustody.areFree _ (List.mem_map_of_mem hmem)
    -- the files are told apart by their places, and the copies by their connections
    have hfilter : kept.filter (fun other => decide (other.copy.location ≠ copy.location)) =
        kept.filter fun other => decide (other.conn ≠ conn) := by
      apply List.filter_congr
      intro other hother
      have hiff := hcustody.conn_iff_location hother hmem
      simp only [ne_eq, hiff]
    change host.world.files.remove copy.location = _
    rw [hcustody.files, FileSystem.remove_adding hfree, List.filter_map, ← hfilter]
    rfl

/-- When a connection's slot is emptied and its copy deleted, the copies of all other connections
are kept. -/
theorem Custody.release (hcustody : host.Custody before directory last? kept) {conn : ConnectionId}
    {index : Nat} (hindex : conn.index? host.registry.capacity = some index)
    (hregistry : left.registry = host.registry.setSlot index .empty)
    (hfiles : left.world.files =
      PrivateCopy.deleteFrom (host.registry.slotOf conn).held? host.world.files) :
    left.Custody before directory last? (kept.filter fun copy => copy.conn ≠ conn) := by
  have hslot (other : ConnectionId) : left.registry.slotOf other =
      if other = conn then .empty else host.registry.slotOf other := by
    rw [hregistry, slotOf_setSlot_of_index? hindex]
  have hsub : ∀ copy ∈ kept.filter (fun copy => copy.conn ≠ conn), copy ∈ kept :=
    fun copy hcopy => (List.mem_filter.1 hcopy).1
  -- fewer copies are still apart, so only what the slots hold has to be looked at again
  refine ⟨hfiles.trans (hcustody.files_deleteFrom conn), ?_, ?_, ?_, ?_, ?_, ?_⟩
  · exact hcustody.one_each.sublist (List.filter_sublist.map _)
  · exact hcustody.apart.sublist (List.filter_sublist.map _)
  · intro other copy
    rw [hslot]
    by_cases hother : other = conn
    · simp [hother, Slot.held?]
    · simp [hother, hcustody.held]
  · exact fun copy hcopy => hcustody.new copy (hsub copy hcopy)
  · exact fun copy hcopy => hcustody.source copy (hsub copy hcopy)
  · intro other controller hloaded
    rw [hslot] at hloaded
    split at hloaded
    · cases hloaded
    · exact hcustody.loaded other controller hloaded

/-- With a copy for a connection that had none, that connection has this one copy, and all other
ones have what they had. -/
theorem exists_mem_cons_kept {conn : ConnectionId} (hnone : ∀ copy ∈ kept, copy.conn ≠ conn)
    (copy : PrivateCopy) (content : Bytes) (other : ConnectionId) (copy' : PrivateCopy) :
    (∃ content', ⟨other, copy', content'⟩ ∈ (⟨conn, copy, content⟩ : KeptCopy) :: kept) ↔
      if other = conn then copy = copy' else ∃ content', ⟨other, copy', content'⟩ ∈ kept := by
  split
  · rename_i hother
    subst hother
    constructor
    · rintro ⟨content', hmem⟩
      rcases List.mem_cons.1 hmem with hsame | hmem
      · cases hsame
        rfl
      · exact absurd rfl (hnone _ hmem)
    · rintro rfl
      exact ⟨content, List.mem_cons_self ..⟩
  · rename_i hother
    constructor
    · rintro ⟨content', hmem⟩
      rcases List.mem_cons.1 hmem with hsame | hmem
      · cases hsame
        exact absurd rfl hother
      · exact ⟨content', hmem⟩
    · rintro ⟨content', hmem⟩
      exact ⟨content', List.mem_cons_of_mem _ hmem⟩

/-- After a load into an empty slot each loaded connection has what its last load asked for: the one
that was loaded has what this load asked for, and the other ones have what they had. -/
theorem Custody.loaded_attach (hcustody : host.Custody before directory last? kept)
    (hcopies : host.CopiesTo directory) {conn : ConnectionId} {index : Nat}
    (hindex : conn.index? host.registry.capacity = some index) {request : LoadRequest}
    {outcome : LoadOutcome} {slot : Slot S L} {world : World B S}
    (hexit : Slot.Attached host.registry.loader host.registry.settings.copyDir? conn request
      host.world outcome slot world) (other : ConnectionId) (controller : LoadedController S L)
    (hloaded : (host.registry.setSlot index slot).slotOf other = .loaded controller) :
    ∃ origin, (if other = conn then some ⟨request, host.world.files⟩ else last? other) =
        some origin ∧ controller.path = origin.request.path
      ∧ (controller.copy?.isSome ↔
        origin.request.isolate = true ∧ origin.files.isFile origin.request.path = true) := by
  rw [slotOf_setSlot_of_index? hindex] at hloaded
  by_cases hother : other = conn
  · rw [if_pos hother] at hloaded ⊢
    subst hloaded
    obtain ⟨hpath, hsome⟩ := hexit.loaded
    -- the loader's paths lead to files, so nothing but the request decides
    rw [hcopies.fromFiles, Bool.and_true] at hsome
    exact ⟨⟨request, host.world.files⟩, rfl, hpath, hsome⟩
  · rw [if_neg hother] at hloaded ⊢
    exact hcustody.loaded other controller hloaded

/-- A load into an empty slot adds the copy that it leaves in the slot, if it leaves one. -/
theorem Custody.attach (hcustody : host.Custody before directory last? kept)
    (hcopies : host.CopiesTo directory) {conn : ConnectionId} {index : Nat}
    (hindex : conn.index? host.registry.capacity = some index)
    (hempty : host.registry.slotOf conn = .empty) {request : LoadRequest} {outcome : LoadOutcome}
    {slot : Slot S L} {world : World B S}
    (hexit : Slot.Attached host.registry.loader host.registry.settings.copyDir? conn request
      host.world outcome slot world) :
    ∃ kept', (Host.mk (host.registry.setSlot index slot) world).Custody before directory
      (fun other => if other = conn then some ⟨request, host.world.files⟩ else last? other)
      kept' := by
  have hslot := slotOf_setSlot_of_index? hindex slot
  have hloaded := hcustody.loaded_attach hcopies hindex hexit
  have hnone : ∀ copy ∈ kept, copy.conn ≠ conn := hcustody.conn_ne (by rw [hempty]; rfl)
  have hsource : ∀ copy ∈ kept, ∃ origin found,
      (if copy.conn = conn then some ⟨request, host.world.files⟩ else last? copy.conn) = some origin
        ∧ origin.files.lookup origin.request.path = .ok (found, .file copy.content) := by
    intro copy hcopy
    rw [if_neg (hnone copy hcopy)]
    exact hcustody.source copy hcopy
  rcases hexit.files with ⟨hheld, hfiles⟩ | ⟨copy, hheld, hcreate⟩
  -- no copy is left in the slot, and those that there were are those that there are
  · refine ⟨kept, hfiles.trans hcustody.files, hcustody.one_each, hcustody.apart, ?_, hcustody.new,
      hsource, hloaded⟩
    intro other copy
    rw [hslot]
    split
    · rename_i hother
      rw [hheld]
      constructor
      · rintro ⟨⟩
      · rintro ⟨content, hmem⟩
        exact absurd hother (hnone _ hmem)
    · exact hcustody.held other copy
  -- a copy is left in the slot, at a place where there was nothing, and it joins the others
  · obtain ⟨found, content, hlookup, hnew, hleft⟩ := PrivateCopy.create_ok hcreate
    rw [hcopies.directory_eq, hcustody.files] at hnew
    obtain ⟨hnew, hlocation⟩ := hnew.of_adding hcustody.areFree hcustody.distinct
    refine ⟨⟨conn, copy, content⟩ :: kept, ?_, ?_, ?_, ?_, ?_, ?_, hloaded⟩
    · rw [hleft, hcustody.files]
      rfl
    · rw [List.map_cons, List.nodup_cons]
      refine ⟨?_, hcustody.one_each⟩
      intro hmem
      obtain ⟨other, hother, hconn⟩ := List.mem_map.1 hmem
      exact hnone other hother hconn
    · rw [List.map_cons, List.nodup_cons]
      rw [List.map_map] at hlocation
      exact ⟨hlocation, hcustody.apart⟩
    · intro other copy'
      rw [hslot, exists_mem_cons_kept hnone]
      split
      · rw [hheld, Option.some.injEq]
      · exact hcustody.held other copy'
    · rintro other hother
      rcases List.mem_cons.1 hother with rfl | hother
      · exact hnew
      · exact hcustody.new other hother
    · rintro other hother
      rcases List.mem_cons.1 hother with rfl | hother
      · exact ⟨_, found, if_pos rfl, hlookup⟩
      · exact hsource other hother

/-- A change of the host leaves where it copies to. -/
theorem CopiesTo.change (hcopies : host.CopiesTo directory)
    {load? : Option (ConnectionId × LoadRequest)} (hchange : Change host load? left) :
    left.CopiesTo directory := by
  obtain ⟨hloader, hsettings, -⟩ := hchange.constants
  have htempDir : left.world.tempDir = host.world.tempDir := by
    cases hchange with
    | remarked hremarks => rfl
    | called hindex hslot hbefore hafter => simp [Routine.call_eq, World.tells, World.tell]
    | loaded hindex hexit => exact hexit.tempDir.trans (Slot.tempDir_vacate _)
    | unloaded hplace hslot => simp [LoadedController.release_eq]
    | forgotten hplace hslot => rfl
  refine ⟨hloader ▸ hcopies.fromFiles, ?_⟩
  rw [hsettings, htempDir]
  exact hcopies.directory_eq

/-- Every change keeps custody. -/
theorem Custody.change (hcustody : host.Custody before directory last? kept)
    (hcopies : host.CopiesTo directory) (hplaced : host.Placed)
    {load? : Option (ConnectionId × LoadRequest)} (hchange : Change host load? left) :
    ∃ kept', left.Custody before directory (host.remember last? load?) kept' := by
  cases hchange with
  | remarked hremarks => exact ⟨kept, hcustody.same rfl fun _ _ => Iff.rfl⟩
  | called hindex hslot hbefore hafter =>
    exact ⟨kept,
      hcustody.same (by simp [Routine.call_eq, World.tells, World.tell]) fun _ _ => Iff.rfl⟩
  | @loaded conn request index slot left hindex hexit =>
    -- first the slot is released, and then the load goes into an empty slot
    let middle : Host B S L := ⟨host.registry.setSlot index .empty, host.released conn⟩
    have hmiddle : middle.Custody before directory last? _ :=
      hcustody.release hindex rfl (Slot.files_vacate _)
    have hcopies' : middle.CopiesTo directory := by
      refine ⟨hcopies.fromFiles, ?_⟩
      rw [← hcopies.directory_eq]
      exact congrArg _ (Slot.tempDir_vacate _)
    have hindex' : conn.index? middle.registry.capacity = some index := by
      rwa [Registry.capacity_setSlot]
    have hempty : middle.registry.slotOf conn = .empty := by
      rw [slotOf_setSlot_of_index? hindex, if_pos rfl]
    obtain ⟨kept', hkept'⟩ := hmiddle.attach hcopies' hindex' hempty hexit
    rw [Registry.setSlot_setSlot] at hkept'
    exact ⟨kept', hkept'⟩
  | @unloaded place controller hplace hslot =>
    -- what is unloaded by its place is what the connection of that place holds
    have hbound : place < 0x80000000 := hplaced place (by rw [hslot]; rfl)
    have hindex := ConnectionId.index?_ofIndex hbound hplace
    refine ⟨_, hcustody.release hindex rfl ?_⟩
    rw [slotOf_of_index? hindex, hslot, LoadedController.release_eq]
    rfl
  | @forgotten place hplace hslot =>
    -- the slot that is emptied held no controller, so no controller is gone
    refine ⟨kept, hcustody.same rfl ?_⟩
    intro conn controller
    rw [slotOf_setSlot hplace]
    split
    · rename_i hindex
      rw [slotOf_of_index? hindex]
      constructor
      · rintro ⟨⟩
      · intro hloaded
        rw [hloaded] at hslot
        cases hslot
    · rfl

/-! ### Runs -/

/-- A host that loads from files, and whose private copies are in custody. -/
structure Keeping (host : Host B S L) (before : FileSystem) (directory : Path)
    (last? : ConnectionId → Option Origin) : Prop where
  /-- It loads from files. -/
  copies : host.CopiesTo directory
  /-- Only connections are loaded. -/
  placed : host.Placed
  /-- Its private copies are in custody. -/
  custody : ∃ kept, host.Custody before directory last? kept

/-- A change keeps the copies in order, and remembers what was loaded. -/
theorem Keeping.change (hkeeping : host.Keeping before directory last?)
    {load? : Option (ConnectionId × LoadRequest)} (hchange : Change host load? left) :
    left.Keeping before directory (host.remember last? load?) := by
  obtain ⟨hcopies, hplaced, kept, hcustody⟩ := hkeeping
  exact ⟨hcopies.change hchange, hplaced.change hchange, hcustody.change hcopies hplaced hchange⟩

/-- Changes one after another keep the copies in order. -/
theorem Keeping.changes (hkeeping : host.Keeping before directory last?)
    (hchanges : Changes host left) : left.Keeping before directory last? := by
  induction hchanges with
  | nothing => exact hkeeping
  | more hchange hrest ih => exact ih (hkeeping.change hchange)

/-- Every run keeps the private copies in custody. -/
theorem Keeping.after (hkeeping : host.Keeping before directory last?)
    (operations : List Operation) :
    (host.after operations).Keeping before directory (host.origins last? operations) := by
  -- on the run, for the origins that are known when it begins
  induction operations generalizing host last? with
  | nil => exact hkeeping
  | cons operation rest ih =>
    apply ih
    rcases host.change operation with hchange | ⟨hnone, hchanges⟩
    · exact hkeeping.change hchange
    · rw [hnone]
      exact hkeeping.changes hchanges

/-- A host that has just started keeps no copies. -/
theorem keeping_start (platform : Platform B S L) (settings : Settings) (world : World B S) :
    (start platform.loader settings world).Keeping world.files
      (settings.copyDir?.getD world.tempDir) fun _ => none := by
  refine ⟨⟨rfl, rfl⟩, placed_start platform.loader settings world, [], rfl, List.nodup_nil,
    List.nodup_nil, ?_, by simp, by simp, ?_⟩
  · intro conn copy
    rw [slotOf_start]
    simp [Slot.held?]
  · intro conn controller hloaded
    rw [slotOf_start] at hloaded
    cases hloaded

/-- Once everything has been given up, the files are those from before. -/
theorem Keeping.files_drop (hkeeping : host.Keeping before directory last?) :
    host.drop.files = before := by
  obtain ⟨-, -, kept, hcustody⟩ := hkeeping.changes host.changes_shutDown
  -- no slot holds a copy any more, and so there is none
  have hkept : kept = [] := by
    rw [List.eq_nil_iff_forall_not_mem]
    intro copy hcopy
    exact hcustody.conn_ne (by rw [slotOf_emptied]; rfl) copy hcopy rfl
  rw [hkept] at hcustody
  exact hcustody.files

/-- What a connection shows as the file that it is loaded from is the path of its private copy. -/
theorem loadedFrom?_eq_some {registry : Registry B S L} {conn : ConnectionId} {path : Path} :
    (registry.describe? conn).bind SlotInfo.loadedFrom? = some path ↔
      ∃ copy, (registry.slotOf conn).held? = some copy ∧ copy.path = path := by
  unfold Registry.describe? Registry.index Registry.slotOf
  cases conn.index? registry.capacity with
  | none => simp [Slot.held?]
  | some index => simp [Slot.loadedFrom?_info]

/-- A loaded connection shows what its last load asked for, and a private copy exactly if one was
asked for and the load found a file. -/
theorem Custody.describe_loaded (hcustody : host.Custody before directory last? kept)
    (conn : ConnectionId) (info : SlotInfo) (hinfo : host.registry.describe? conn = some info)
    (hstatus : info.status = .loaded) :
    ∃ origin, last? conn = some origin ∧ info.path? = some origin.request.path
      ∧ (info.loadedFrom?.isSome ↔
        origin.request.isolate = true ∧ origin.files.isFile origin.request.path = true) := by
  obtain ⟨controller, hslot, rfl⟩ := exists_loaded_of_describe? hinfo hstatus
  obtain ⟨origin, horigin, hpath, hsome⟩ := hcustody.loaded conn controller hslot
  refine ⟨origin, horigin, ?_, ?_⟩
  · simp [Slot.info, hpath]
  · simpa [Slot.info] using hsome

/-- A load that does not succeed leaves the files as it found them. -/
theorem files_of_not_loaded {operation : Operation} {conn : ConnectionId} {request : LoadRequest}
    (haccepted : host.accepted? operation = some (conn, request))
    (hstatus : (host.next operation).registry.status conn ≠ .ok .loaded) :
    (host.next operation).world.files = (host.released conn).files := by
  rcases host.change operation with hchange | ⟨hnone, -⟩
  · rw [haccepted] at hchange
    -- only one change is a load, and of its exits only the one that loads keeps a copy
    generalize host.next operation = left at hchange hstatus
    cases hchange with
    | loaded hindex hexit =>
      rcases hexit.files with ⟨-, hfiles⟩ | ⟨copy, hheld, -⟩
      · exact hfiles
      · obtain ⟨controller, hslot, -⟩ := Slot.held?_eq_some.1 hheld
        have hlt := (ConnectionId.index?_eq_some_iff.1 hindex).2
        exfalso
        apply hstatus
        simp [Registry.status, Registry.index, hindex, Registry.slot_setSlot hlt, hslot, Except.map,
          Slot.status]
  · rw [haccepted] at hnone
    cases hnone

/-- **Private copies are kept by whom they were made for.** After every run over a platform the
files are those of the start and one private copy for each connection that shows one. The copy is at
the path that the connection shows, at a new name directly in the directory for private copies, and
holds what the last load found at the path that it asked for. No two connections show one path. A
loaded connection shows a copy exactly if one was asked for and the last load found a file once the
connection was released. A load that does not succeed leaves the files that it found, and giving up
the registry leaves those of the start. -/
theorem copies_after_and_drop (platform : Platform B S L) (settings : Settings)
    (world : World B S) (operations : List Operation) :
    let start := Host.start platform.loader settings world
    let host := start.after operations
    let last? := start.origins (fun _ => none) operations
    (∃ kept : List KeptCopy,
        host.world.files = world.files.adding (kept.map KeptCopy.entry)
          ∧ (kept.map KeptCopy.conn).Nodup
          ∧ (∀ conn path, (host.registry.describe? conn).bind SlotInfo.loadedFrom? = some path ↔
            ∃ copy ∈ kept, copy.conn = conn ∧ copy.copy.path = path)
          ∧ (kept.map fun copy => copy.copy.path).Nodup
          ∧ ∀ copy ∈ kept,
            copy.copy.IsNewIn world.files (settings.copyDir?.getD world.tempDir)
              ∧ world.files.lookup copy.copy.path = .error .notFound
              ∧ host.world.files.lookup copy.copy.path =
                .ok (copy.copy.location, .file copy.content)
              ∧ ∃ origin found, last? copy.conn = some origin
                ∧ origin.files.lookup origin.request.path = .ok (found, .file copy.content))
      ∧ (∀ conn info, host.registry.describe? conn = some info → info.status = .loaded →
        ∃ origin, last? conn = some origin ∧ info.path? = some origin.request.path
          ∧ (info.loadedFrom?.isSome ↔
            origin.request.isolate = true ∧ origin.files.isFile origin.request.path = true))
      ∧ (∀ operation conn request, host.accepted? operation = some (conn, request) →
        (host.next operation).registry.status conn ≠ .ok .loaded →
          (host.next operation).world.files = (host.released conn).files)
      ∧ host.drop.files = world.files := by
  intro start host last?
  have hkeeping := (keeping_start platform settings world).after operations
  obtain ⟨kept, hcustody⟩ := hkeeping.custody
  have hlookup : ∀ copy ∈ kept, host.world.files.lookup copy.copy.path =
      .ok (copy.copy.location, .file copy.content) := by
    intro copy hcopy
    rw [hcustody.files]
    exact (hcustody.new copy hcopy).lookup_adding hcustody.areFree hcustody.distinct
      (List.mem_map_of_mem hcopy)
  refine ⟨⟨kept, hcustody.files, hcustody.one_each, ?_, ?_, ?_⟩, ?_, ?_, hkeeping.files_drop⟩
  -- the paths that the connections show are those of the copies that their slots hold
  · intro conn path
    rw [loadedFrom?_eq_some]
    constructor
    · rintro ⟨copy, hheld, rfl⟩
      obtain ⟨content, hcopy⟩ := (hcustody.held conn copy).1 hheld
      exact ⟨_, hcopy, rfl, rfl⟩
    · rintro ⟨copy, hcopy, rfl, rfl⟩
      exact ⟨copy.copy, (hcustody.held _ _).2 ⟨copy.content, hcopy⟩, rfl⟩
  · refine List.Nodup.map_on ?_ (List.Nodup.of_map _ hcustody.one_each)
    intro first hfirst second hsecond hpath
    -- two copies at one path are one file
    have hfound := hlookup first hfirst
    rw [hpath, hlookup second hsecond] at hfound
    simp only [Except.ok.injEq, Prod.mk.injEq] at hfound
    exact List.inj_on_of_nodup_map hcustody.apart hfirst hsecond hfound.1.symm
  · intro copy hcopy
    exact ⟨hcustody.new copy hcopy, (hcustody.new copy hcopy).lookup_path, hlookup copy hcopy,
      hcustody.source copy hcopy⟩
  · exact hcustody.describe_loaded
  · exact fun operation conn request => files_of_not_loaded

end Host

end ControllerHost
