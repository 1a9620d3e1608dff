import ControllerHost.Proofs.Host.Calling
import ControllerHost.Proofs.Host.Handles
import ControllerHost.Proofs.Host.Locality
import ControllerHost.Proofs.Slot.Sharing

/-!
# Connections that share a file

Without private copies, all connections whose libraries are instances of one file share the static
state of that file. It lasts as long as there is a connection that holds the file: it is what the
calls have made of the initial state that were made into the file, through whichever connection,
since no connection held it. A load releases what its connection holds before it opens anything, so
this can also come about in the middle of a load.

- `LibraryCall.replay`: the state that several calls leave.
- `Registry.holders`, `Host.holds`: which connections hold a file.
- `Host.moments`, `Host.recollect`, `Host.callsSince`: the calls into a file since it was last held
  by no connection.
- `Host.Shares`: the file has a handle for each connection that holds it, and a state.
- `Host.Shares.released`, `Host.Shares.attached`: a slot that is emptied, and one that is filled.
- `Host.Shares.loaded`, `Host.Shares.unload`, `Host.Shares.shutDown`, `Host.Shares.call`: what the
  operations do to the state.
- `Host.Shares.next`, `Host.Shares.after`: it is what the recollected calls have left.
-/

namespace ControllerHost

variable {B S L File State : Type} {platform : Platform B S L}

/-! ### Calls -/

/-- A call into a library that keeps its static state in `State`. -/
structure LibraryCall (State : Type) where
  /-- The entry point. -/
  routine : Routine State
  /-- The buffers that it is called on. -/
  buffers : CallBuffers

/-- What several calls make of a state. -/
def LibraryCall.replay (initial : State) (calls : List (LibraryCall State)) : State :=
  calls.foldl (fun own call => (call.routine.run own call.buffers).1) initial

@[simp]
theorem LibraryCall.replay_concat (initial : State) (calls : List (LibraryCall State))
    (call : LibraryCall State) :
    replay initial (calls ++ [call])
      = (call.routine.run (replay initial calls) call.buffers).1 := by
  simp [replay]

/-- An operation does not ask for a private copy. -/
def Operation.LoadsInPlace (settings : Settings) (operation : Operation) : Prop :=
  ∀ conn request, operation.request? settings = some (conn, request) → request.isolate = false

variable [DecidableEq File]

/-! ### Who holds a file -/

namespace Registry

/-- The number of connections that hold a file. -/
def holders (registry : Registry B S L) (instances : platform.Instances File State) (file : File) :
    Nat :=
  registry.slots.countP (Slot.holds instances file)

/-- The table once what a connection holds has been released. -/
def vacated (registry : Registry B S L) (conn : ConnectionId) : Registry B S L :=
  match conn.index? registry.capacity with
  | some index => registry.setSlot index .empty
  | none => registry

end Registry

namespace Host

variable (instances : platform.Instances File State)

/-- Whether a connection holds a file: its controller's library is an instance of the file. -/
def holds (host : Host B S L) (file : File) (conn : ConnectionId) : Bool :=
  (host.registry.slotOf conn).holds instances file

/-- The tables of connections that an operation goes through. A load releases what its connection
holds before it opens anything. -/
def moments (host : Host B S L) (operation : Operation) : List (Registry B S L) :=
  ((host.accepted? operation).map fun (conn, _) => host.registry.vacated conn).toList
    ++ [(host.next operation).registry]

/-- The call that an operation makes into a file, if any. -/
def callInto? (host : Host B S L) (file : File) (operation : Operation) :
    Option (LibraryCall State) :=
  (host.calling? operation).bind fun (controller, buffers) =>
    if instances.file controller.library = file then
      some ⟨instances.own file controller.routine, buffers⟩
    else none

/-- The calls into a file since it was last held by no connection, after one more operation. -/
def recollect (host : Host B S L) (file : File) (calls : List (LibraryCall State))
    (operation : Operation) : List (LibraryCall State) :=
  if ∃ registry ∈ host.moments operation, registry.holders instances file = 0 then []
  else calls ++ (host.callInto? instances file operation).toList

/-- The calls into a file since it was last held by no connection, after several operations. -/
def callsSince (host : Host B S L) (file : File) (calls : List (LibraryCall State)) :
    List Operation → List (LibraryCall State)
  | [] => calls
  | operation :: rest =>
    (host.next operation).callsSince file (host.recollect instances file calls operation) rest

/-- The static state of a file that is open. -/
def staticState? (host : Host B S L) (file : File) : Option State :=
  if instances.handles host.world.books file = 0 then none
  else some (instances.state host.world.state file)

/-- The platform's libraries are opened without private copies, each connection has a handle on what
it holds, and one file has as many handles as there are connections that hold it, and a state.
Without a handle that state is the initial one. -/
structure Shares (host : Host B S L) (files : FileSystem) (file : File) (own : State) : Prop where
  /-- The libraries are the platform's. -/
  loader : host.registry.loader = platform.loader
  /-- The files stay as they are. -/
  files_eq : host.world.files = files
  /-- No library was opened from a private copy. -/
  inPlace : ∀ slot ∈ host.registry.slots, slot.IsInPlace platform files
  /-- Each connection has a handle. -/
  counts : ∀ other, host.registry.holders instances other ≤ instances.handles host.world.books other
  /-- The file and its state. -/
  keeps : instances.Keeps host.world file (host.registry.holders instances file) own
  /-- Without a handle there is only the initial state. -/
  starts : host.registry.holders instances file = 0 → own = instances.initial files file

variable {instances} {host left : Host B S L} {files : FileSystem} {file : File} {own : State}
  {conn : ConnectionId}

/-- With the same slots, files and books, all that matters is the state of the file. -/
theorem Shares.keeping (hshares : host.Shares instances files file own) {next : State}
    (hregistry : left.registry = host.registry) (hfiles : left.world.files = host.world.files)
    (hbooks : left.world.books = host.world.books)
    (hkeeps : instances.Keeps left.world file (host.registry.holders instances file) next)
    (hstarts : host.registry.holders instances file = 0 → next = instances.initial files file) :
    left.Shares instances files file next where
  loader := by rw [hregistry, hshares.loader]
  files_eq := hfiles.trans hshares.files_eq
  inPlace := by
    rw [hregistry]
    exact hshares.inPlace
  counts := by
    rw [hregistry, hbooks]
    exact hshares.counts
  keeps := by
    rw [hregistry]
    exact hkeeps
  starts := by
    rw [hregistry]
    exact hstarts

/-- Before anything has been loaded a file that is not open is shared by nobody. -/
theorem shares_start (settings : Settings) (world : World B S)
    (hclosed : instances.handles world.books file = 0) :
    (start platform.loader settings world).Shares instances world.files file
      (instances.initial world.files file) := by
  have hholders (other : File) :
      (start platform.loader settings world).registry.holders instances other = 0 := by
    simp [start, Registry.create, Registry.holders, List.countP_replicate, Slot.holds]
  refine ⟨rfl, rfl, ?_, ?_, ?_, fun _ => rfl⟩
  · intro slot hslot controller hloaded
    rw [List.eq_of_mem_replicate hslot] at hloaded
    cases hloaded
  · intro other
    rw [hholders]
    exact Nat.zero_le _
  · rw [hholders]
    exact ⟨hclosed, fun hheld => absurd rfl hheld⟩

/-! ### Tables of connections -/

theorem holders_vacated {registry : Registry B S L} {index : Nat}
    (hindex : conn.index? registry.capacity = some index) :
    registry.holders instances file = (registry.vacated conn).holders instances file
      + ((registry.slot index).holds instances file).toNat := by
  simp only [Registry.vacated, hindex]
  exact (registry.countP_setSlot (ConnectionId.index?_eq_some_iff.1 hindex).2
    (Slot.holds instances file) .empty).symm

theorem holders_setSlot {registry : Registry B S L} {index : Nat}
    (hindex : conn.index? registry.capacity = some index) (slot : Slot S L) :
    (registry.setSlot index slot).holders instances file =
      (registry.vacated conn).holders instances file + (slot.holds instances file).toNat := by
  have hcount := registry.countP_setSlot (ConnectionId.index?_eq_some_iff.1 hindex).2
    (Slot.holds instances file) slot
  have hvacated : registry.holders instances file = _ := holders_vacated hindex
  unfold Registry.holders at hvacated ⊢
  omega

theorem Shares.slot_inPlace (hshares : host.Shares instances files file own) (place : Nat) :
    (host.registry.slot place).IsInPlace platform files := by
  unfold Registry.slot
  cases hslot : host.registry.slots[place]? with
  | none =>
    intro controller hloaded
    cases hloaded
  | some slot => exact hshares.inPlace slot (List.mem_of_getElem? hslot)

/-- What one of the slots of a table holds is counted among what the whole table holds. -/
theorem holders_pos_of_mem {slots : List (Slot S L)} {controller : LoadedController S L}
    (hslot : Slot.loaded controller ∈ slots) :
    0 < slots.countP (Slot.holds instances (instances.file controller.library)) :=
  List.countP_pos_iff.2 ⟨_, hslot, by simp [Slot.holds]⟩

/-- What a slot holds has a handle. -/
theorem Shares.held (hshares : host.Shares instances files file own) {index : Nat}
    {controller : LoadedController S L} (hslot : host.registry.slot index = .loaded controller) :
    instances.handles host.world.books (instances.file controller.library) ≠ 0 := by
  have hcounted : 0 < host.registry.holders instances (instances.file controller.library) := by
    refine holders_pos_of_mem ?_
    unfold Registry.slot at hslot
    cases hthere : host.registry.slots[index]? with
    | none =>
      rw [hthere] at hslot
      cases hslot
    | some slot =>
      rw [hthere] at hslot
      exact hslot ▸ List.mem_of_getElem? hthere
  have hcounts := hshares.counts (instances.file controller.library)
  omega

/-- The handles on a file, without the one that a connection may have. -/
theorem Shares.counts_vacated (hshares : host.Shares instances files file own) {index : Nat}
    (hindex : conn.index? host.registry.capacity = some index) (other : File) :
    ∃ handles, (host.registry.vacated conn).holders instances other ≤ handles
      ∧ instances.handles host.world.books other =
        handles + ((host.registry.slot index).holds instances other).toNat := by
  have hcounts := hshares.counts other
  rw [holders_vacated hindex] at hcounts
  exact ⟨instances.handles host.world.books other
    - ((host.registry.slot index).holds instances other).toNat, by omega, by omega⟩

/-! ### Operations -/

/-- What a connection held has been released and nothing is loaded there: its handle is taken from
its file, and if it was the last one the state goes. -/
theorem Shares.released {index : Nat} {slot : Slot S L} {next : World B S}
    (hshares : host.Shares instances files file own)
    (hindex : conn.index? host.registry.capacity = some index) (hslot : slot.isLoaded = false)
    (hreleased : ∀ other handles kept,
      instances.Keeps host.world other
        (handles + ((host.registry.slot index).holds instances other).toNat) kept →
      next.files = host.world.files ∧ instances.Keeps next other handles kept) :
    (Host.mk (host.registry.setSlot index slot) next).Shares instances files file
      (if (host.registry.vacated conn).holders instances file = 0 then
        instances.initial files file else own) := by
  have hholders (other : File) : (host.registry.setSlot index slot).holders instances other =
      (host.registry.vacated conn).holders instances other := by
    rw [holders_setSlot hindex, Slot.holds_of_not_loaded hslot]
    rfl
  have hkeeps := hshares.keeps
  rw [holders_vacated hindex] at hkeeps
  obtain ⟨hfiles, hleft⟩ := hreleased file _ own hkeeps
  refine ⟨hshares.loader, hfiles.trans hshares.files_eq, ?_, fun other => ?_, ?_, fun hnone => ?_⟩
  · exact Registry.forall_mem_setSlot hshares.inPlace (Slot.isInPlace_of_not_loaded hslot _ _) index
  · -- the same holds of every file, with whatever handles there are besides
    obtain ⟨handles, hle, hcount⟩ := hshares.counts_vacated hindex other
    obtain ⟨-, hkept⟩ := hreleased other handles _ ⟨hcount, fun _ => rfl⟩
    rw [hholders, hkept.1]
    exact hle
  · rw [hholders]
    exact hleft.restarted _
  · rw [hholders] at hnone
    rw [if_pos hnone]

variable (hself : ∀ library, instances.selfContained library)

section Releases

include hself

/-- A load into an empty slot keeps the static state. What it leaves there has a handle. -/
theorem Shares.attached {registry : Registry B S L} {index : Nat} {request : LoadRequest}
    {directory? : Option Path} {before after : World B S} {outcome : LoadOutcome} {slot : Slot S L}
    (hindex : conn.index? registry.capacity = some index)
    (hshares : (Host.mk (registry.setSlot index .empty) before).Shares instances files file own)
    (hisolate : request.isolate = false)
    (hexit : Slot.Attached platform.loader directory? conn request before outcome slot after) :
    (Host.mk (registry.setSlot index slot) after).Shares instances files file own := by
  have hholders (other : File) : (registry.setSlot index slot).holders instances other =
      (registry.setSlot index .empty).holders instances other
        + (slot.holds instances other).toNat := by
    have hvacated : registry.vacated conn = registry.setSlot index .empty := by
      simp only [Registry.vacated, hindex]
    rw [holders_setSlot hindex, hvacated]
  have hstart (hnone : (registry.setSlot index .empty).holders instances file = 0) :
      own = instances.initial before.files file := by
    rw [hshares.starts hnone, ← hshares.files_eq]
  obtain ⟨hfiles, hslot, hkeeps⟩ := hexit.keeps hself hisolate hshares.keeps hstart
  refine ⟨hshares.loader, hfiles.trans hshares.files_eq, ?_, fun other => ?_, ?_, fun hnone => ?_⟩
  · have hslots := Registry.forall_mem_setSlot hshares.inPlace (hshares.files_eq ▸ hslot) index
    rwa [Registry.setSlot_setSlot] at hslots
  · have hother : instances.Keeps before other (instances.handles before.books other)
        (instances.state before.state other) := ⟨rfl, fun _ => rfl⟩
    obtain ⟨-, -, hmore⟩ := hexit.keeps hself hisolate
      (hother.restarted (instances.initial before.files other)) fun hnone => if_pos hnone
    rw [hholders, hmore.1]
    exact Nat.add_le_add_right (hshares.counts other) _
  · rw [hholders]
    exact hkeeps
  · rw [hholders] at hnone
    exact hshares.starts (Nat.eq_zero_of_add_eq_zero_right hnone)

/-- A load that is carried out keeps the static state, unless its connection was the only one that
held the file. -/
theorem Shares.loaded {request : LoadRequest} (hshares : host.Shares instances files file own)
    (hisolate : request.isolate = false) (hchange : Change host (some (conn, request)) left) :
    (host.registry.vacated conn).holders instances file ≤ left.registry.holders instances file
      ∧ left.Shares instances files file
        (if (host.registry.vacated conn).holders instances file = 0 then
          instances.initial files file else own) := by
  cases hchange with
  | @loaded _ _ index slot left hindex hexit =>
    rw [hshares.loader, Host.released, slotOf_of_index? hindex, hshares.loader] at hexit
    -- what is loaded comes on top of what the release has left
    have hempty : (Slot.empty : Slot S L).isLoaded = false := rfl
    have hvacated := hshares.released hindex hempty fun other handles kept hkept =>
      (hshares.slot_inPlace index).vacate hself (fun _ => hshares.held) hkept conn
    refine ⟨?_, hvacated.attached hself hindex hisolate hexit⟩
    rw [holders_setSlot hindex slot]
    exact Nat.le_add_right _ _

/-- An unload keeps the static state, unless its connection was the only one that held the file. -/
theorem Shares.unload (hshares : host.Shares instances files file own) (conn : ConnectionId) :
    (host.next (.unload conn)).Shares instances files file
      (if (host.next (.unload conn)).registry.holders instances file = 0 then
        instances.initial files file else own) := by
  cases hindex : conn.index? host.registry.capacity with
  | none =>
    -- a connection without a slot has nothing to release
    have hnext : host.next (.unload conn) = host := by
      simp only [next, perform, Registry.unload, Registry.index, hindex]
    rw [hnext]
    split
    · rename_i hnone
      rwa [← hshares.starts hnone]
    · exact hshares
  | some index =>
    have hnext : host.next (.unload conn) =
        let unloaded := (host.registry.slot index).unload platform.loader conn host.world
        ⟨host.registry.setSlot index unloaded.1, unloaded.2⟩ := by
      simp only [next, perform, Registry.unload, Registry.index, hindex, hshares.loader]
    have hslot : ((host.registry.slot index).unload platform.loader conn
        host.world).1.isLoaded = false := by
      cases host.registry.slot index <;> rfl
    have hholders : (host.next (.unload conn)).registry.holders instances file =
        (host.registry.vacated conn).holders instances file := by
      rw [hnext, holders_setSlot hindex, Slot.holds_of_not_loaded hslot]
      rfl
    rw [hholders, hnext]
    exact hshares.released hindex hslot fun other handles kept hkept =>
      (hshares.slot_inPlace index).unload hself (fun _ => hshares.held) hkept conn

/-- Releasing what a table of slots holds takes all its handles from a file. -/
theorem keeps_releaseFrom {slots : List (Slot S L)} {world : World B S} {extra : Nat}
    (hplace : ∀ slot ∈ slots, slot.IsInPlace platform files)
    (hcounts : ∀ other, slots.countP (Slot.holds instances other) ≤
      instances.handles world.books other)
    (hkeeps : instances.Keeps world file (extra + slots.countP (Slot.holds instances file)) own)
    (index : Nat) :
    (Registry.releaseFrom platform.loader index slots world).files = world.files
      ∧ instances.Keeps (Registry.releaseFrom platform.loader index slots world) file extra
          own := by
  -- on the slots that are left, which have all the handles that are left
  induction slots generalizing world index with
  | nil => exact ⟨rfl, hkeeps⟩
  | cons slot rest ih =>
    rw [List.forall_mem_cons] at hplace
    have hcount (other : File) : (slot :: rest).countP (Slot.holds instances other) =
        rest.countP (Slot.holds instances other) + (slot.holds instances other).toNat := by
      rw [List.countP_cons]
      cases slot.holds instances other <;> rfl
    have hheld (controller : LoadedController S L) (hslot : slot = .loaded controller) :
        instances.handles world.books (instances.file controller.library) ≠ 0 := by
      have hsome : 0 < (slot :: rest).countP
          (Slot.holds instances (instances.file controller.library)) :=
        holders_pos_of_mem (hslot ▸ List.mem_cons_self)
      have hle := hcounts (instances.file controller.library)
      omega
    rw [hcount, ← Nat.add_assoc] at hkeeps
    obtain ⟨hfiles, hreleased⟩ := hplace.1.unload hself hheld hkeeps (.ofIndex index)
    have hrest (other : File) : rest.countP (Slot.holds instances other) ≤
        instances.handles
          (slot.unload platform.loader (.ofIndex index) world).2.books other := by
      have hle := hcounts other
      rw [hcount] at hle
      have hkept : instances.Keeps world other
          (instances.handles world.books other - (slot.holds instances other).toNat
            + (slot.holds instances other).toNat)
          (instances.state world.state other) := ⟨by omega, fun _ => rfl⟩
      obtain ⟨-, hother⟩ := hplace.1.unload hself hheld hkept (.ofIndex index)
      rw [hother.1]
      omega
    obtain ⟨hleft, hdone⟩ := ih hplace.2 hrest hreleased (index + 1)
    exact ⟨hleft.trans hfiles, hdone⟩

/-- After a shutdown no connection holds the file, and it has no state. -/
theorem Shares.shutDown (hshares : host.Shares instances files file own) :
    (host.next .shutDown).registry.holders instances file = 0
      ∧ (host.next .shutDown).Shares instances files file (instances.initial files file) := by
  have hkeeps := hshares.keeps
  rw [← Nat.zero_add (host.registry.holders instances file)] at hkeeps
  -- all handles that the connections have are given up, one after another
  obtain ⟨hfiles, hreleased⟩ :=
    keeps_releaseFrom hself hshares.inPlace hshares.counts hkeeps 0
  have hempty : ∀ slot ∈ (host.next .shutDown).registry.slots, slot = .empty := by
    intro slot hslot
    obtain ⟨old, -, rfl⟩ := List.mem_map.1 hslot
    rfl
  have hholders (other : File) : (host.next .shutDown).registry.holders instances other = 0 := by
    rw [Registry.holders, List.countP_eq_zero]
    intro slot hslot
    rw [hempty slot hslot]
    exact Bool.false_ne_true
  have hworld : (host.next .shutDown).world.files = host.world.files
      ∧ instances.Keeps (host.next .shutDown).world file 0 own := by
    simp only [next, perform, Registry.shutDown, hshares.loader]
    split <;> exact ⟨hfiles, hreleased⟩
  refine ⟨hholders file, hshares.loader, hworld.1.trans hshares.files_eq, ?_, ?_, ?_,
    fun _ => rfl⟩
  · intro slot hslot controller hloaded
    rw [hempty slot hslot] at hloaded
    cases hloaded
  · intro other
    rw [hholders]
    exact Nat.zero_le _
  · rw [hholders]
    exact hworld.2.restarted (instances.initial files file)

/-! ### Calls into a file -/

/-- The routine of a loaded controller runs on the state of its library's file. -/
theorem Shares.runsOn (hshares : host.Shares instances files file own) {index : Nat}
    {controller : LoadedController S L} (hslot : host.registry.slot index = .loaded controller) :
    controller.routine.RunsOn instances.state (instances.file controller.library)
      (instances.own (instances.file controller.library) controller.routine) := by
  obtain ⟨symbol, books, hfound⟩ := (hshares.slot_inPlace index controller hslot).routine
  exact instances.running hfound (hself _)

/-- A call into a file runs on what the calls before have left, and leaves its own. -/
theorem Shares.call (hshares : host.Shares instances files file own) {operation : Operation}
    {call : LibraryCall State} (hinto : host.callInto? instances file operation = some call) :
    (host.perform operation).1 = operation.called (call.routine.run own call.buffers).2
      ∧ (host.next operation).Shares instances files file
          (call.routine.run own call.buffers).1 := by
  obtain ⟨⟨controller, buffers⟩, hcalling, hinto⟩ := Option.bind_eq_some_iff.1 hinto
  simp only at hinto
  split at hinto
  · rename_i hfile
    cases hinto
    obtain ⟨conn, -, hslot⟩ := calling?_eq_some.1 hcalling
    obtain ⟨index, hindex, hthere⟩ := exists_index?_of_loaded hslot
    have hruns := hshares.runsOn hself hthere
    rw [hfile] at hruns
    -- one of the connections is the one that is called on
    have hholders : host.registry.holders instances file ≠ 0 := by
      rw [holders_vacated hindex, hthere, Slot.holds, decide_eq_true hfile]
      exact Nat.succ_ne_zero _
    obtain ⟨hanswer, events, hnext⟩ := perform_calling hcalling
    have hbooks : (host.next operation).world.books = host.world.books := by rw [hnext]
    have hstate : (host.next operation).world.state =
        (controller.routine.run host.world.state buffers).1 := by rw [hnext]
    obtain ⟨hleft, hkeeps⟩ := hshares.keeps.called hruns hholders buffers hbooks hstate
    refine ⟨by rw [hanswer, hleft], hshares.keeping (by rw [hnext]) (by rw [hnext]) hbooks hkeeps
      fun hnone => absurd hnone hholders⟩
  · cases hinto

/-- A call that is made elsewhere, or that finds no controller, leaves the static state. -/
theorem Shares.uncalled (hshares : host.Shares instances files file own) {operation : Operation}
    (hcall : operation.isCall = true)
    (hinto : host.callInto? instances file operation = none) :
    (host.next operation).Shares instances files file own := by
  cases hcalling : host.calling? operation with
  | none =>
    obtain ⟨answer, -, hperform⟩ := perform_of_not_calling hcall hcalling
    rw [next, hperform]
    exact hshares.keeping rfl rfl rfl hshares.keeps hshares.starts
  | some called =>
    obtain ⟨controller, buffers⟩ := called
    obtain ⟨conn, -, hslot⟩ := calling?_eq_some.1 hcalling
    obtain ⟨index, hindex, hthere⟩ := exists_index?_of_loaded hslot
    -- a call that is not one into the file runs in another library
    have hfile : file ≠ instances.file controller.library := by
      rintro rfl
      simp [callInto?, hcalling] at hinto
    obtain ⟨-, events, hnext⟩ := perform_calling hcalling
    have hbooks : (host.next operation).world.books = host.world.books := by rw [hnext]
    have hstate : (host.next operation).world.state =
        (controller.routine.run host.world.state buffers).1 := by rw [hnext]
    have hkeeps := hshares.keeps.called_of_ne (hshares.runsOn hself hthere) hfile hbooks hstate
    exact hshares.keeping (by rw [hnext]) (by rw [hnext]) hbooks hkeeps hshares.starts

end Releases

/-! ### Runs -/

theorem callInto?_of_not_call {operation : Operation} (hcall : operation.isCall = false) :
    host.callInto? instances file operation = none := by
  rw [callInto?, calling?, Operation.call?_of_not_call hcall]
  rfl

theorem isCall_of_accepted {operation : Operation} {request : LoadRequest}
    (haccepted : host.accepted? operation = some (conn, request)) : operation.isCall = false := by
  cases operation <;> first | rfl | cases haccepted

/-- An operation that is no load leaves the state that is recollected, if it leaves what the calls
have left whenever a connection still holds the file. -/
theorem Shares.recollected {before : List (LibraryCall State)} {operation : Operation}
    (hshares : (host.next operation).Shares instances files file own)
    (haccepted : host.accepted? operation = none)
    (hcalls : (host.next operation).registry.holders instances file ≠ 0 →
      own = LibraryCall.replay (instances.initial files file)
        (before ++ (host.callInto? instances file operation).toList)) :
    (host.next operation).Shares instances files file
      (LibraryCall.replay (instances.initial files file)
        (host.recollect instances file before operation)) := by
  have hmoments : host.moments operation = [(host.next operation).registry] := by
    rw [moments, haccepted]
    rfl
  simp only [recollect, hmoments, List.mem_singleton, exists_eq_left]
  -- without holders there is only the initial state, and nothing is recollected
  by_cases hholders : (host.next operation).registry.holders instances file = 0
  · rw [if_pos hholders]
    rwa [hshares.starts hholders] at hshares
  · rw [if_neg hholders]
    rwa [hcalls hholders] at hshares

/-- A load that is not carried out has been refused. -/
theorem Shares.not_accepted {operation : Operation} {request : LoadRequest}
    (hshares : host.Shares instances files file own)
    (hrequest : operation.request? host.registry.settings = some (conn, request))
    (haccepted : host.accepted? operation = none) :
    (host.next operation).Shares instances files file own := by
  cases hrefusal : host.refusal? operation with
  | some answer =>
    have hperform := host.perform_checked operation
    rw [hrefusal] at hperform
    rw [next, hperform]
    exact hshares.keeping rfl rfl rfl hshares.keeps hshares.starts
  | none =>
    obtain ⟨hindex, hfault⟩ := admitted_of_refusal? hrequest hrefusal
    simp [accepted?, hrequest, admit?, hindex, hfault] at haccepted

/-- A load that is carried out goes on with what was recollected, unless its connection was the only
one that held the file. -/
theorem recollect_of_accepted {before : List (LibraryCall State)} {operation : Operation}
    {request : LoadRequest}
    (haccepted : host.accepted? operation = some (conn, request))
    (hle : (host.registry.vacated conn).holders instances file ≤
      (host.next operation).registry.holders instances file) :
    host.recollect instances file before operation =
      if (host.registry.vacated conn).holders instances file = 0 then [] else before := by
  have hmoments : host.moments operation =
      [host.registry.vacated conn, (host.next operation).registry] := by
    rw [moments, haccepted]
    rfl
  have hcall := isCall_of_accepted haccepted
  simp only [recollect, hmoments, List.mem_cons, List.not_mem_nil, or_false, exists_eq_or_imp,
    exists_eq_left, callInto?_of_not_call hcall, Option.toList_none, List.append_nil]
  by_cases hvacated : (host.registry.vacated conn).holders instances file = 0
  · simp [hvacated]
  · -- who holds the file in the middle of the load holds it in the end
    rw [if_neg hvacated, if_neg (by omega)]

include hself

/-- A call leaves what is recollected, with itself if it was made into the file. -/
theorem Shares.recollected_call {before : List (LibraryCall State)} {operation : Operation}
    (hshares : host.Shares instances files file
      (LibraryCall.replay (instances.initial files file) before))
    (hcall : operation.isCall = true) :
    (host.next operation).Shares instances files file
      (LibraryCall.replay (instances.initial files file)
        (host.recollect instances file before operation)) := by
  have haccepted : host.accepted? operation = none := by
    cases operation <;> first | rfl | cases hcall
  cases hinto : host.callInto? instances file operation with
  | some call =>
    refine (hshares.call hself hinto).2.recollected haccepted fun _ => ?_
    rw [hinto, Option.toList_some, LibraryCall.replay_concat]
  | none =>
    refine (hshares.uncalled hself hcall hinto).recollected haccepted fun _ => ?_
    rw [hinto, Option.toList_none, List.append_nil]

/-- The state of a file is what the calls have left that were made since no connection held it, and
every operation keeps it so. -/
theorem Shares.next {before : List (LibraryCall State)}
    (hshares : host.Shares instances files file
      (LibraryCall.replay (instances.initial files file) before)) {operation : Operation}
    (hplace : operation.LoadsInPlace host.registry.settings) :
    (host.next operation).Shares instances files file
      (LibraryCall.replay (instances.initial files file)
        (host.recollect instances file before operation)) := by
  cases haccepted : host.accepted? operation with
  | some load =>
    obtain ⟨conn, request⟩ := load
    rcases host.change operation with hchange | ⟨hnone, -⟩
    · rw [haccepted] at hchange
      obtain ⟨hle, hleft⟩ :=
        hshares.loaded hself (hplace conn request (request?_of_accepted haccepted).1) hchange
      rw [recollect_of_accepted haccepted hle, apply_ite (LibraryCall.replay _)]
      exact hleft
    · rw [haccepted] at hnone
      cases hnone
  | none =>
    -- apart from calls, unloads and the shutdown nothing concerns the file
    have hkept (hcall : operation.isCall = false)
        (hleft : (host.next operation).Shares instances files file
          (LibraryCall.replay (instances.initial files file) before)) :
        (host.next operation).Shares instances files file
          (LibraryCall.replay (instances.initial files file)
            (host.recollect instances file before operation)) := by
      refine hleft.recollected haccepted fun _ => ?_
      rw [callInto?_of_not_call hcall, Option.toList_none, List.append_nil]
    cases operation with
    | load conn path symbol => exact hkept rfl (hshares.not_accepted rfl haccepted)
    | loadWith conn request => exact hkept rfl (hshares.not_accepted rfl haccepted)
    | unload conn =>
      refine (hshares.unload hself conn).recollected haccepted fun hholders => ?_
      rw [if_neg hholders, callInto?_of_not_call rfl, Option.toList_none, List.append_nil]
    | invoke | invokeUnchecked | invokePayload => exact hshares.recollected_call hself rfl
    | status | describe | loadedCount => exact hkept rfl hshares
    | shutDown =>
      obtain ⟨hnone, hleft⟩ := hshares.shutDown hself
      exact hleft.recollected haccepted fun hholders => absurd hnone hholders

/-- So it is after every run. -/
theorem Shares.after {before : List (LibraryCall State)}
    (hshares : host.Shares instances files file
      (LibraryCall.replay (instances.initial files file) before))
    {operations : List Operation}
    (hplace : ∀ operation ∈ operations, operation.LoadsInPlace host.registry.settings) :
    (host.after operations).Shares instances files file
      (LibraryCall.replay (instances.initial files file)
        (host.callsSince instances file before operations)) := by
  -- no operation changes the settings, so the rest of the run starts like the whole
  induction operations generalizing host before with
  | nil => exact hshares
  | cons operation rest ih =>
    rw [List.forall_mem_cons] at hplace
    have hsettings : (host.next operation).registry.settings = host.registry.settings :=
      (host.after_constants [operation]).2.1
    exact ih (hshares.next hself hplace.1) (hsettings ▸ hplace.2)

end Host

end ControllerHost
