import ControllerHost.Linker.Samples
import ControllerHost.Proofs.Host.Sharing
import ControllerHost.Proofs.Linker.Instances

/-!
# The static state of a shared library file

What a call into a file sees, what restarts the file's static state, and what does not, in terms of
the connections that hold the file.

- `Host.holders_eq_zero_iff`, `Host.holders_vacated_eq_zero_iff`: the connections that hold a file,
  before a load and in the middle of it.
- `Host.Shares.staticState?_eq`: a file has a state exactly if a connection holds it.
- `Host.Shares.file_of_path`: a connection holds the file that its path leads to.
- `Host.Shares.restarts`, `Host.Shares.outlasts`: a load of the only connection that holds a file,
  and loads and unloads while another one does.
- `Host.calls_see_shared_state`: so it is after every run.
-/

namespace ControllerHost

namespace Host

variable {B S L File State : Type} [DecidableEq File] {platform : Platform B S L}
  {instances : platform.Instances File State} {host : Host B S L} {files : FileSystem} {file : File}
  {own : State} {conn : ConnectionId}

/-! ### Connections -/

/-- Where all controllers have connections, a file without holders is held by no connection. -/
theorem holders_eq_zero_iff (hplaced : host.Placed) :
    host.registry.holders instances file = 0 ↔ ∀ conn, host.holds instances file conn = false := by
  rw [Registry.holders, List.countP_eq_zero]
  constructor
  · intro hnone conn
    by_contra hholds
    rw [Bool.not_eq_false] at hholds
    have hslot : host.registry.slotOf conn ≠ .empty := by
      intro hempty
      rw [holds, hempty] at hholds
      cases hholds
    exact hnone _ (slotOf_mem_slots hslot) hholds
  -- a slot that holds something is that of a connection, since its place is small enough
  · intro hnone slot hslot hholds
    obtain ⟨place, hlt, rfl⟩ := List.mem_iff_getElem.1 hslot
    have hthere : host.registry.slot place = host.registry.slots[place] := by
      simp [Registry.slot, hlt]
    rw [← hthere] at hholds
    have hbound : place < 0x80000000 := by
      refine hplaced place ?_
      by_contra hloaded
      rw [Slot.holds_of_not_loaded (Bool.not_eq_true _ ▸ hloaded)] at hholds
      cases hholds
    have hindex := ConnectionId.index?_ofIndex hbound hlt
    have hconn := hnone (.ofIndex place)
    rw [holds, slotOf_of_index? hindex, hholds] at hconn
    cases hconn

/-- Once what a connection holds has been released, a file is held by the other connections. -/
theorem holders_vacated_eq_zero_iff (hplaced : host.Placed) {index : Nat}
    (hindex : conn.index? host.registry.capacity = some index) :
    (host.registry.vacated conn).holders instances file = 0 ↔
      ∀ other, other ≠ conn → host.holds instances file other = false := by
  have hlt := (ConnectionId.index?_eq_some_iff.1 hindex).2
  have hvacated : host.registry.vacated conn = host.registry.setSlot index .empty := by
    simp only [Registry.vacated, hindex]
  have hleft : (Host.mk (host.registry.vacated conn) host.world).Placed := by
    intro place hloaded
    rw [hvacated, Registry.slot_setSlot hlt] at hloaded
    split at hloaded
    · cases hloaded
    · exact hplaced place hloaded
  -- without the connection the others hold what they held
  have hholds (other : ConnectionId) :
      (Host.mk (host.registry.vacated conn) host.world).holds instances file other =
        if other = conn then false else host.holds instances file other := by
    rw [holds, hvacated, slotOf_setSlot_of_index? hindex]
    split <;> rfl
  have hnone : (host.registry.vacated conn).holders instances file = 0 ↔ _ :=
    holders_eq_zero_iff hleft
  rw [hnone]
  simp only [hholds, ite_eq_left_iff, ne_eq]

/-- The static state is what the calls have left that were made since no connection held the
file. -/
theorem Shares.staticState?_eq (hshares : host.Shares instances files file own)
    (hplaced : host.Placed) :
    ((∃ conn, host.holds instances file conn = true) →
        host.staticState? instances file = some own)
      ∧ ((∀ conn, host.holds instances file conn = false) →
        host.staticState? instances file = none) := by
  obtain ⟨hhandles, hstate⟩ := hshares.keeps
  constructor
  · rintro ⟨conn, hholds⟩
    have hsome : host.registry.holders instances file ≠ 0 := by
      intro hnone
      rw [(holders_eq_zero_iff hplaced).1 hnone conn] at hholds
      cases hholds
    rw [staticState?, hhandles, if_neg hsome, hstate hsome]
  · intro hnone
    rw [staticState?, hhandles, if_pos ((holders_eq_zero_iff hplaced).2 hnone)]

/-- A connection holds the file that the path leads to by which its controller was asked for. -/
theorem Shares.file_of_path (hshares : host.Shares instances files file own)
    {controller : LoadedController S L} (hslot : host.registry.slotOf conn = .loaded controller)
    (hplain : Platform.IsPlain controller.path.bytes) {location : Location} {content : Bytes}
    (hlookup : files.lookup controller.path = .ok (location, .file content)) :
    instances.file controller.library = instances.located location := by
  obtain ⟨index, -, hthere⟩ := exists_index?_of_loaded hslot
  obtain ⟨name, books, left, change, hname, hopen⟩ :=
    (hshares.slot_inPlace index controller hthere).library
  -- a path that leads somewhere has no NUL, and so it is passed on as it is
  have hnul := FileSystem.not_mem_of_lookup hlookup
  have hlast : controller.path.bytes.getLast? ≠ some 0 :=
    fun hlast => hnul (List.mem_of_getLast? hlast)
  obtain rfl : controller.path.bytes = name := by
    simpa [Platform.cString, hnul, hlast] using hname
  exact instances.file_of_path hplain hlookup hopen

/-- A connection that holds a file keeps it while an operation is made on another one. -/
theorem holds_next_of_ne {operation : Operation} {other : ConnectionId}
    (hconn : operation.conn? = some conn) (hother : other ≠ conn) :
    (host.next operation).holds instances file other = host.holds instances file other := by
  rw [holds, holds, slotOf_next_of_ne hconn hother]

theorem Placed.next (hplaced : host.Placed) (operation : Operation) :
    (host.next operation).Placed :=
  next_of_change Placed.change hplaced operation

/-- While another connection holds a file, a load or an unload goes through no moment in which
nobody does. -/
theorem recollect_of_held (before : List (LibraryCall State)) {operation : Operation}
    {other : ConnectionId} (hplaced : host.Placed)
    (hreleases : (∃ request, host.accepted? operation = some (conn, request))
      ∨ operation = .unload conn)
    (hother : other ≠ conn) (hholds : host.holds instances file other = true) :
    operation.conn? = some conn ∧ host.recollect instances file before operation = before := by
  have hconn : operation.conn? = some conn := by
    rcases hreleases with ⟨request, haccepted⟩ | rfl
    · exact (conn?_of_accepted haccepted).1
    · rfl
  have hcall : operation.isCall = false := by
    rcases hreleases with ⟨request, haccepted⟩ | rfl
    · exact isCall_of_accepted haccepted
    · rfl
  have hheld {given : ConnectionId} {request : LoadRequest}
      (haccepted : host.accepted? operation = some (given, request)) :
      (host.registry.vacated given).holders instances file ≠ 0 := by
    obtain ⟨hgiven, index, hindex⟩ := conn?_of_accepted haccepted
    obtain rfl : conn = given := Option.some.inj (hconn.symm.trans hgiven)
    intro hnone
    rw [(holders_vacated_eq_zero_iff hplaced hindex).1 hnone other hother] at hholds
    cases hholds
  have hleft : (host.next operation).registry.holders instances file ≠ 0 := by
    intro hnone
    rw [holders_eq_zero_iff (hplaced.next operation)] at hnone
    rw [← holds_next_of_ne hconn hother, hnone other] at hholds
    cases hholds
  refine ⟨hconn, ?_⟩
  -- so there are holders at each moment, and nothing is called
  rw [recollect, if_neg, callInto?_of_not_call hcall, Option.toList_none, List.append_nil]
  rintro ⟨registry, hmoment, hnone⟩
  rw [moments, List.mem_append, Option.mem_toList, Option.map_eq_some_iff,
    List.mem_singleton] at hmoment
  obtain ⟨⟨given, request⟩, haccepted, rfl⟩ | rfl := hmoment
  · exact hheld haccepted hnone
  · exact hleft hnone

variable (hself : ∀ library, instances.selfContained library)

include hself

/-- A load on a connection without which nobody holds a file starts with the initial state. -/
theorem Shares.restarts {before : List (LibraryCall State)} {operation : Operation}
    {request : LoadRequest}
    (hshares : host.Shares instances files file
      (LibraryCall.replay (instances.initial files file) before)) (hplaced : host.Placed)
    (hplace : operation.LoadsInPlace host.registry.settings)
    (haccepted : host.accepted? operation = some (conn, request))
    (halone : ∀ other, other ≠ conn → host.holds instances file other = false) :
    (host.next operation).staticState? instances file =
      if (host.next operation).holds instances file conn then some (instances.initial files file)
      else none := by
  obtain ⟨hconn, index, hindex⟩ := conn?_of_accepted haccepted
  have hnext := hshares.next hself hplace
  have hrecollect : host.recollect instances file before operation = [] := by
    have hmoment : host.registry.vacated conn ∈ host.moments operation := by
      simp [moments, haccepted]
    exact if_pos ⟨_, hmoment, (holders_vacated_eq_zero_iff hplaced hindex).2 halone⟩
  rw [hrecollect] at hnext
  obtain ⟨hheld, hfree⟩ := hnext.staticState?_eq (hplaced.next operation)
  cases hholds : (host.next operation).holds instances file conn with
  | true => exact hheld ⟨conn, hholds⟩
  | false =>
    refine hfree fun other => ?_
    by_cases hother : other = conn
    · rw [hother, hholds]
    · rw [holds_next_of_ne hconn hother, halone other hother]

/-- A call on a connection that holds a file sees the static state of the file. -/
theorem Shares.perform_of_holds (hshares : host.Shares instances files file own)
    {later : Operation} {buffers : CallBuffers} (hcall : later.call? = some (conn, buffers))
    (hholds : host.holds instances file conn = true) :
    ∃ controller, host.registry.slotOf conn = .loaded controller
      ∧ (host.perform later).1 =
        later.called ((instances.own file controller.routine).run own buffers).2 := by
  cases hslot : host.registry.slotOf conn with
  | loaded controller =>
    have hfile : instances.file controller.library = file := by
      simpa [holds, hslot, Slot.holds] using hholds
    have hcalling : host.calling? later = some (controller, buffers) :=
      calling?_eq_some.2 ⟨conn, hcall, hslot⟩
    have hinto : host.callInto? instances file later =
        some ⟨instances.own file controller.routine, buffers⟩ := by
      simp [callInto?, hcalling, hfile]
    exact ⟨controller, rfl, (hshares.call hself hinto).1⟩
  | empty | failed =>
    rw [holds, hslot] at hholds
    cases hholds

/-- A load or an unload on one connection does not concern a file that another connection holds. -/
theorem Shares.outlasts {before : List (LibraryCall State)} {operation : Operation}
    {other : ConnectionId}
    (hshares : host.Shares instances files file
      (LibraryCall.replay (instances.initial files file) before)) (hplaced : host.Placed)
    (hplace : operation.LoadsInPlace host.registry.settings)
    (hreleases : (∃ request, host.accepted? operation = some (conn, request))
      ∨ operation = .unload conn)
    (hother : other ≠ conn) (hholds : host.holds instances file other = true) :
    (host.next operation).staticState? instances file = host.staticState? instances file
      ∧ ∀ later buffers, later.call? = some (other, buffers) →
        ((host.next operation).perform later).1 = (host.perform later).1 := by
  have hnext := hshares.next hself hplace
  obtain ⟨hconn, hrecollect⟩ := recollect_of_held before hplaced hreleases hother hholds
  rw [hrecollect] at hnext
  have hholds' : (host.next operation).holds instances file other = true :=
    (holds_next_of_ne hconn hother).trans hholds
  constructor
  · rw [(hshares.staticState?_eq hplaced).1 ⟨other, hholds⟩,
      (hnext.staticState?_eq (hplaced.next operation)).1 ⟨other, hholds'⟩]
  · -- the other connection has the same entry point before and after, and sees the same state
    intro later buffers hcall
    obtain ⟨controller, hslot, hanswer⟩ := hshares.perform_of_holds hself hcall hholds
    obtain ⟨controller', hslot', hanswer'⟩ := hnext.perform_of_holds hself hcall hholds'
    rw [slotOf_next_of_ne hconn hother, hslot, Slot.loaded.injEq] at hslot'
    rw [hanswer, hanswer', hslot']

omit hself in
/-- **Connections share the static state of a file while one of them holds it.** On a platform that
keeps one instance of each file, where every library keeps its state to itself, let a file be closed
before the run, and let no load ask for a private copy. Then, after every run:

- a connection whose controller was asked for by a path holds the file that the path leads to,
  however the path is spelled;
- the file has a static state exactly if a connection holds it, and that is what the calls have made
  of the initial state that were made into the file, through any connection, since no connection
  held it;
- a call into the file, through any connection, sees that state;
- a load that is carried out, with whatever result, on a connection without which nobody holds the
  file leaves the file with its initial state if the connection holds it then, and with none
  otherwise;
- a load that is carried out or an unload leaves the state of a file that another connection holds,
  and what calls on that connection are answered. -/
theorem calls_see_shared_state (instances : platform.Instances File State)
    (hself : ∀ library, instances.selfContained library) (settings : Settings) (world : World B S)
    (file : File) (hclosed : instances.handles world.books file = 0) (before : List Operation)
    (hplace : ∀ operation ∈ before, operation.LoadsInPlace settings) :
    let initial := instances.initial world.files file
    let host := (start platform.loader settings world).after before
    let left := LibraryCall.replay initial
      ((start platform.loader settings world).callsSince instances file [] before)
    (∀ conn controller location content, host.registry.slotOf conn = .loaded controller →
      Platform.IsPlain controller.path.bytes →
      world.files.lookup controller.path = .ok (location, .file content) →
      host.holds instances (instances.located location) conn = true)
    ∧ (((∃ conn, host.holds instances file conn = true) →
        host.staticState? instances file = some left)
      ∧ ((∀ conn, host.holds instances file conn = false) →
        host.staticState? instances file = none))
    ∧ (∀ operation call, host.callInto? instances file operation = some call →
      (host.perform operation).1 =
        operation.called (call.routine.run left call.buffers).2)
    ∧ ∀ operation conn, operation.LoadsInPlace settings →
      ((∃ request, host.accepted? operation = some (conn, request)) →
        (∀ other, other ≠ conn → host.holds instances file other = false) →
        (host.next operation).staticState? instances file =
          if (host.next operation).holds instances file conn then some initial else none)
      ∧ ((∃ request, host.accepted? operation = some (conn, request)) ∨ operation = .unload conn →
        ∀ other, other ≠ conn → host.holds instances file other = true →
        (host.next operation).staticState? instances file = host.staticState? instances file
        ∧ ∀ later buffers, later.call? = some (other, buffers) →
          ((host.next operation).perform later).1 = (host.perform later).1) := by
  intro initial host left
  have hsettings : host.registry.settings = settings :=
    ((start platform.loader settings world).after_constants before).2.1
  have hplaced : host.Placed :=
    after_of_change Placed.change (placed_start platform.loader settings world) before
  have hstart : (start platform.loader settings world).Shares instances world.files file
      (LibraryCall.replay initial []) := shares_start settings world hclosed
  -- the invariant at the end of the run gives each of the parts
  have hshares : host.Shares instances world.files file left := Shares.after hself hstart hplace
  refine ⟨fun conn controller location content hslot hplain hlookup => ?_,
    hshares.staticState?_eq hplaced,
    fun operation call hinto => (hshares.call hself hinto).1, fun operation conn hinPlace => ?_⟩
  · simp [holds, hslot, Slot.holds, hshares.file_of_path hslot hplain hlookup]
  rw [← hsettings] at hinPlace
  constructor
  · rintro ⟨request, haccepted⟩ halone
    exact hshares.restarts hself hplaced hinPlace haccepted halone
  · intro hreleases other hother hholds
    exact hshares.outlasts hself hplaced hinPlace hreleases hother hholds

omit hself in
/-- Two connections have loaded one file by two ways to write its path, and each of them has made a
call. The first has then looked for an entry point that the file does not have, so the second is
left as the only one that holds it. What its next call sees, it loses when it looks for such an
entry point too, or loads the file again; the first connection can try as it likes. -/
theorem calls_see_shared_state_respelled :
    let instances := Linker.sample.instances
    let location : Location := [Bytes.ofText "lib", Bytes.ofText "ctrl.so"]
    let file : Linker.Place := .file location
    let world : World (Linker.Books Nat) (Linker.State Nat) :=
      { files :=
          { entries :=
              [([Bytes.ofText "lib"], .directory), (location, .file (Bytes.ofText "counting"))] }
        tempDir := .ofText "/tmp"
        books := []
        state := fun _ => 7 }
    let settings : Settings := { maxConnections := 2, isolateInstances := false }
    let path := Path.ofText "/lib/ctrl.so"
    let spelled := Path.ofText "/lib/../lib//ctrl.so"
    let buffers : CallBuffers := { swap := [Single.ofNat 7], msg := [0] }
    let host := (start Linker.sample.platform.loader settings world).after
      [.load 0 path "DISCON", .invokeUnchecked 0 buffers, .load 1 spelled "DISCON",
        .invokeUnchecked 1 buffers, .load 0 path "absent"]
    host.staticState? instances file = some 2
      ∧ (host.perform (.invokeUnchecked 1 buffers)).1 =
        .invoke (.ok { swap := [Single.ofNat 3], msg := [0] })
      ∧ (host.next (.load 1 path "DISCON")).staticState? instances file = some 0
      ∧ (host.next (.load 1 path "absent")).staticState? instances file = none
      ∧ (host.next (.load 0 spelled "absent")).staticState? instances file = some 2
      ∧ (host.next (.unload 0)).staticState? instances file = some 2 := by
  intro instances location file world settings path spelled buffers host
  have hinPlace : ∀ operation ∈ [Operation.load 0 path "DISCON", .invokeUnchecked 0 buffers,
      .load 1 spelled "DISCON", .invokeUnchecked 1 buffers, .load 0 path "absent"],
      operation.LoadsInPlace settings := by
    simp [Operation.LoadsInPlace, Operation.request?, settings]
  have hload (conn : ConnectionId) (path : Path) (symbol : String) :
      (Operation.load conn path symbol).LoadsInPlace settings := by
    simp [Operation.LoadsInPlace, Operation.request?, settings]
  obtain ⟨-, ⟨hheld, -⟩, hcalls, hothers⟩ :=
    calls_see_shared_state instances (fun _ => trivial) settings world file (by decide +kernel) _
      hinPlace
  -- the file has been held since the first load, so both calls count
  have hleft : LibraryCall.replay (instances.initial world.files file)
      ((start Linker.sample.platform.loader settings world).callsSince instances file []
        [.load 0 path "DISCON", .invokeUnchecked 0 buffers, .load 1 spelled "DISCON",
          .invokeUnchecked 1 buffers, .load 0 path "absent"]) = 2 := by decide +kernel
  have hinitial : instances.initial world.files file = 0 := by decide +kernel
  rw [hleft] at hheld hcalls
  have hplaced : host.Placed := after_of_change Placed.change (placed_start _ _ _) _
  have hindex : (1 : ConnectionId).index? host.registry.capacity = some 1 := by decide +kernel
  -- the second connection is the only one left that holds it
  have hvacated : (host.registry.vacated 1).holders instances file = 0 := by decide +kernel
  have halone : ∀ other, other ≠ 1 → host.holds instances file other = false :=
    (holders_vacated_eq_zero_iff hplaced hindex).1 hvacated
  have hstate : host.staticState? instances file = some 2 := hheld ⟨1, by decide +kernel⟩
  have hran : (host.callInto? instances file (.invokeUnchecked 1 buffers)).map
      (fun call => (call.routine.run 2 call.buffers).2) =
        some { swap := [Single.ofNat 3], msg := [0] } := by decide +kernel
  obtain ⟨call, hinto, hbuffers⟩ := Option.map_eq_some_iff.1 hran
  -- what the three loads ask for, and who holds the file after those of the second connection
  have hloaded : host.accepted? (.load 1 path "DISCON") = some (1, ⟨path, "DISCON", false⟩) := by
    decide +kernel
  have habsent : host.accepted? (.load 1 path "absent") = some (1, ⟨path, "absent", false⟩) := by
    decide +kernel
  have hspelled :
      host.accepted? (.load 0 spelled "absent") = some (0, ⟨spelled, "absent", false⟩) := by
    decide +kernel
  have hone : host.holds instances file 1 = true := by decide +kernel
  have hafter : (host.next (.load 1 path "DISCON")).holds instances file 1 = true := by
    decide +kernel
  have hfailed : (host.next (.load 1 path "absent")).holds instances file 1 = false := by
    decide +kernel
  have hcall := hcalls _ _ hinto
  rw [hbuffers] at hcall
  have hreload := (hothers _ 1 (hload 1 path "DISCON")).1 ⟨_, hloaded⟩ halone
  have hfailing := (hothers _ 1 (hload 1 path "absent")).1 ⟨_, habsent⟩ halone
  have htried := ((hothers _ 0 (hload 0 spelled "absent")).2 (.inl ⟨_, hspelled⟩) 1 (by decide)
    hone).1
  have hunload := ((hothers (.unload 0) 0 (by simp [Operation.LoadsInPlace, Operation.request?])).2
    (.inr rfl) 1 (by decide) hone).1
  rw [hafter, hinitial] at hreload
  rw [hfailed] at hfailing
  exact ⟨hstate, hcall, hreload, hfailing, htried.trans hstate, hunload.trans hstate⟩

end Host

end ControllerHost
