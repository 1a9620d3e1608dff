import ControllerHost.Proofs.Host.Insulation

/-!
# One connection on two hosts

A connection that has its copies to itself is told the same on a host that it shares with others and
on a host that it has for itself, up to the random parts of the copies' names.

- `Answer.Matches`: answers that are the same up to the random part of a copy's name.
- `Host.Counterpart`: a connection stands on two hosts where the same operations have led it.
- `Host.Counterpart.answer`, `Host.Counterpart.next`: one more operation on both of them.
- `Host.Counterpart.skip`: one more operation on other connections of the first one.
-/

namespace ControllerHost

variable {B S L File State : Type} {platform : Platform B S L}

/-- Two answers are the same, up to the random part of a copy's name. -/
inductive Answer.Matches (conn : ConnectionId) : Answer → Answer → Prop
  | same (answer : Answer) : Matches conn answer answer
  | load {result result' : LoadResult} (hresult : result.Matches conn result') :
      Matches conn (.load result) (.load result')
  | describe {info info' : SlotInfo} (hinfo : info.Matches conn info') :
      Matches conn (.describe (some info)) (.describe (some info'))

/-- Answers that match count the same. -/
theorem Answer.Matches.recount {conn : ConnectionId} {answer other : Answer}
    (hanswer : answer.Matches conn other) (buffers? : Option CallBuffers)
    (calls : List CallBuffers) :
    answer.recount buffers? calls = other.recount buffers? calls := by
  cases hanswer with
  | same => rfl
  | load hresult =>
    cases hresult with
    | same => rfl
    | failed herror => simp [Answer.recount]
  | describe hinfo => rfl

/-- Vacating a slot draws no random name. -/
@[simp]
theorem Slot.names_vacate (slot : Slot S L) (loader : Loader B S L) (conn : ConnectionId)
    (world : World B S) : (slot.vacate loader conn world).names = world.names := by
  cases slot with
  | empty | failed => rfl
  | loaded controller => simp [vacate, LoadedController.release_eq, World.tell]

/-- What is loaded on a connection is the same for a call, but for where it is. -/
theorem Slot.Matches.loaded_iff {contents : platform.Contents File State} {conn : ConnectionId}
    {slot other : Slot S L} (hslot : slot.Matches contents conn other)
    {controller : LoadedController S L} (hloaded : slot = .loaded controller) :
    ∃ controller', other = .loaded controller'
      ∧ controller.own contents.toInstances = controller'.own contents.toInstances
      ∧ contents.image controller.library = contents.image controller'.library := by
  cases hslot with
  | empty | failed => cases hloaded
  | loaded path symbol himage hown hcopy =>
    cases hloaded
    exact ⟨_, rfl, hown, himage⟩

namespace Host

/-- A call is refused for the same reason on hosts with as many connections where as much is loaded
on its connection. -/
theorem refusal?_of_call {host other : Host B S L} {operation : Operation} {conn : ConnectionId}
    (hcall : operation.isCall = true) (hconn : operation.conn? = some conn)
    (hcapacity : host.registry.capacity = other.registry.capacity)
    (hloaded : (host.registry.slotOf conn).isLoaded = (other.registry.slotOf conn).isLoaded) :
    host.refusal? operation = other.refusal? operation := by
  cases operation with
  | invoke | invokeUnchecked | invokePayload =>
    cases hconn
    simp only [refusal?, checks, Registry.callChecks, Registry.uncheckedCallChecks,
      Registry.connectionCheck, Registry.loadedCheck, hcapacity, hloaded]
  | _ => cases hcall

/-- A connection that keeps to its copies stands where it does on a host that it has for itself. -/
structure Counterpart (contents : platform.Contents File State) (aside : Bytes → Prop)
    (conn : ConnectionId) (before : FileSystem) (directory : Path)
    (calls calls' : ConnectionId → List CallBuffers) (host other : Host B S L) : Prop where
  insulated : host.Insulated contents aside before directory calls
  insulated' : other.Insulated contents aside before directory calls'
  alone : ∀ conn', conn' ≠ conn → other.registry.slotOf conn' = .empty
  alike : host.Alike other
  calls : calls conn = calls' conn
  slot : (host.registry.slotOf conn).Matches contents conn (other.registry.slotOf conn)

variable {contents : platform.Contents File State} {aside : Bytes → Prop} {conn : ConnectionId}
  {before : FileSystem} {directory : Path} {calls calls' : ConnectionId → List CallBuffers}
  {host other : Host B S L} {request : LoadRequest} {operation : Operation}

/-- Two hosts that start in one orderly world are counterparts. -/
theorem counterpart_start (settings : Settings) {world : World B S}
    (horderly : contents.Orderly aside world)
    (hdollar : Platform.dollar ∉ ((FileSystem.absolute world.files.workDir).join
      (settings.copyDir?.getD world.tempDir)).bytes)
    (calls : ConnectionId → List CallBuffers) :
    Counterpart contents aside conn world.files (settings.copyDir?.getD world.tempDir) calls calls
      (Host.start platform.loader settings world) (Host.start platform.loader settings world) where
  insulated := insulated_start settings horderly hdollar calls
  insulated' := insulated_start settings horderly hdollar calls
  alone conn' _ := slotOf_start _ _ _ conn'
  alike := ⟨rfl, rfl, rfl⟩
  calls := rfl
  slot := by
    rw [slotOf_start]
    exact .empty

namespace Counterpart

/-- A connection has the same place on both hosts, and what is there matches. -/
theorem slot_matches
    (hcounter : Counterpart contents aside conn before directory calls calls' host other)
    {index : Nat} (hindex : conn.index? host.registry.capacity = some index) :
    conn.index? other.registry.capacity = some index
      ∧ (host.registry.slot index).Matches contents conn (other.registry.slot index) := by
  have hindex' := hindex
  rw [hcounter.alike.capacity] at hindex'
  have hslot := hcounter.slot
  rw [slotOf_of_index? hindex, slotOf_of_index? hindex'] at hslot
  exact ⟨hindex', hslot⟩

/-- On a host of its own a connection finds the files from before when it has released what it
holds. -/
theorem files_released
    (hcounter : Counterpart contents aside conn before directory calls calls' host other)
    {index : Nat} (hindex : conn.index? other.registry.capacity = some index) :
    (other.released conn).files = before := by
  obtain ⟨added, hfiles, -, -, -, hothers⟩ :=
    (hcounter.insulated'.vacated hindex).others (held?_setSlot_empty hindex)
  cases added with
  | nil => exact hfiles
  | cons entry rest =>
    -- a copy that is left would be another connection's, and there is none
    obtain ⟨conn', copy, hne, hcopy, -⟩ := hothers entry.1 (by simp)
    rw [slotOf_setSlot_of_index? hindex, if_neg hne, hcounter.alone conn' hne] at hcopy
    cases hcopy

/-- Counterparts answer a private load of their connection alike and stay counterparts. -/
theorem loadWith
    (hcounter : Counterpart contents aside conn before directory calls calls' host other)
    (hnames : ∀ taken, (host.world.names.pick taken).isSome = (other.world.names.pick taken).isSome)
    (hload : host.admit? conn request = some (conn, request) →
      request.IsPrivate contents aside before
        ∧ (host.released conn).files.lookup request.path = before.lookup request.path) :
    (host.registry.loadWith conn request host.world).1.Matches conn
        (other.registry.loadWith conn request other.world).1
      ∧ ((host.registry.loadWith conn request host.world).2.1.slotOf conn).Matches contents conn
        ((other.registry.loadWith conn request other.world).2.1.slotOf conn) := by
  obtain ⟨hinsulated, hinsulated', -, halike, -, hslot⟩ := id hcounter
  unfold Registry.loadWith Registry.index
  rw [← halike.capacity]
  cases hindex : conn.index? host.registry.capacity with
  | none => exact ⟨.same _, hslot⟩
  | some index =>
    cases hfault : Registry.requestFault? request with
    | some fault => exact ⟨.same _, hslot⟩
    | none =>
      obtain ⟨hprivate, hlookup⟩ := hload (by simp [admit?, hindex, hfault])
      obtain ⟨hindex', -⟩ := hcounter.slot_matches hindex
      have hreleased : (host.registry.slot index).vacate platform.loader conn host.world =
          host.released conn := by rw [released, slotOf_of_index? hindex, hinsulated.platform]
      have hreleased' : (other.registry.slot index).vacate platform.loader conn other.world =
          other.released conn := by rw [released, slotOf_of_index? hindex', hinsulated'.platform]
      simp only [Slot.load, hreleased, hreleased', slotOf_setSlot_of_index? hindex,
        slotOf_setSlot_of_index? hindex', if_true, ← halike.settings, hinsulated.platform,
        hinsulated'.platform]
      -- once both slots are empty, what else there is are the copies of other connections
      have hvacated := hinsulated.vacated hindex
      have hvacated' := hinsulated'.vacated hindex'
      obtain ⟨added, hfiles, hfree, -, hthere, hothers⟩ :=
        hvacated.others (held?_setSlot_empty hindex)
      have hdirectory : host.registry.settings.copyDir?.getD (host.released conn).tempDir =
          directory := hvacated.directory_eq
      have hdirectory' : host.registry.settings.copyDir?.getD (other.released conn).tempDir =
          directory := by
        rw [halike.settings]
        exact hvacated'.directory_eq
      apply Slot.attach_matches hfiles (hcounter.files_released hindex') hvacated.orderly
        hvacated'.orderly
      · rw [hdirectory, hdirectory']
      · rw [hdirectory]
        exact hinsulated.dollar
      · simpa [released] using hnames
      · exact hfree
      · rwa [hdirectory]
      · intro location hlocation fileName hname part
        obtain ⟨conn', copy, hne, hcopy, rfl⟩ := hothers location hlocation
        exact hvacated.name_ne (nonneg_of_index? hindex) hne hcopy hname part
      · exact hlookup
      · exact hprivate.isolate
      · exact hprivate.apart

/-- What loads privately on one counterpart loads privately on the other. -/
theorem loadsPrivately
    (hcounter : Counterpart contents aside conn before directory calls calls' host other)
    (hconn : operation.conn? = some conn)
    (hload : host.LoadsPrivately contents aside before operation) :
    other.LoadsPrivately contents aside before operation := by
  have hsame : other.accepted? operation = host.accepted? operation := by
    simp only [accepted?, admit?, hcounter.alike.settings, hcounter.alike.capacity]
  intro conn' request haccepted
  obtain ⟨hconn', index, hindex⟩ := conn?_of_accepted haccepted
  cases hconn.symm.trans hconn'
  refine ⟨(hload conn request (hsame ▸ haccepted)).1, ?_⟩
  rw [hcounter.files_released hindex]

/-- Counterparts answer an unload of their connection alike and stay counterparts. -/
theorem unload
    (hcounter : Counterpart contents aside conn before directory calls calls' host other) :
    (host.registry.unload conn host.world).1 = (other.registry.unload conn other.world).1
      ∧ ((host.registry.unload conn host.world).2.1.slotOf conn).Matches contents conn
        ((other.registry.unload conn other.world).2.1.slotOf conn) := by
  unfold Registry.unload Registry.index
  rw [← hcounter.alike.capacity]
  cases hindex : conn.index? host.registry.capacity with
  | none => exact ⟨rfl, hcounter.slot⟩
  | some index =>
    obtain ⟨hindex', hslot⟩ := hcounter.slot_matches hindex
    simp only [slotOf_setSlot_of_index? hindex, slotOf_setSlot_of_index? hindex', if_true, true_and]
    generalize host.registry.slot index = slot at hslot ⊢
    generalize other.registry.slot index = slot' at hslot ⊢
    cases hslot with
    | empty => exact .empty
    | failed path symbol hreason => exact .failed path symbol hreason
    | loaded => exact .empty

/-- A call is answered the same on both hosts. -/
theorem call (hcounter : Counterpart contents aside conn before directory calls calls' host other)
    (hcall : operation.isCall = true) (hconn : operation.conn? = some conn) :
    (host.perform operation).1 = (other.perform operation).1 := by
  -- a call that does not go through on one host does not go through on the other
  cases hcalling : host.calling? operation with
  | some called =>
    obtain ⟨controller, buffers⟩ := called
    obtain ⟨conn', hgiven, hslot⟩ := calling?_eq_some.1 hcalling
    have hsame := (Operation.recount_called hgiven buffers []).1
    obtain rfl : conn = conn' := Option.some.inj (hconn.symm.trans hsame)
    -- both run one routine in the state that the same calls have left
    obtain ⟨controller', hslot', hown, himage⟩ := hcounter.slot.loaded_iff hslot
    rw [hcounter.insulated.perform_calling hgiven hslot,
      hcounter.insulated'.perform_calling hgiven hslot', LoadedController.stateAfter,
      LoadedController.stateAfter, hown, himage, hcounter.calls]
  | none =>
    have hstatus := hcounter.slot.status
    have hcalling' : other.calling? operation = none := by
      cases hother : other.calling? operation with
      | none => rfl
      | some called =>
        obtain ⟨controller, buffers⟩ := called
        obtain ⟨conn', hgiven, hslot⟩ := calling?_eq_some.1 hother
        have hsame := (Operation.recount_called hgiven buffers []).1
        obtain rfl : conn = conn' := Option.some.inj (hconn.symm.trans hsame)
        rw [hslot] at hstatus
        cases hthere : host.registry.slotOf conn with
        | empty | failed =>
          rw [hthere] at hstatus
          cases hstatus
        | loaded controller' =>
          rw [calling?_eq_some.2 ⟨conn, hgiven, hthere⟩] at hcalling
          cases hcalling
    obtain ⟨answer, hrefusal, hperform⟩ := perform_of_not_calling hcall hcalling
    obtain ⟨answer', hrefusal', hperform'⟩ := perform_of_not_calling hcall hcalling'
    rw [refusal?_of_call hcall hconn hcounter.alike.capacity
      (by simp only [Slot.isLoaded, hstatus]), hrefusal'] at hrefusal
    cases hrefusal
    rw [hperform, hperform']

/-- What has been said, and where the random parts of names come from, does not matter. -/
theorem inWorlds
    (hcounter : Counterpart contents aside conn before directory calls calls' host other)
    {world world' : World B S} (hfiles : world.files = host.world.files)
    (htempDir : world.tempDir = host.world.tempDir) (hbooks : world.books = host.world.books)
    (hstate : world.state = host.world.state) (hfiles' : world'.files = other.world.files)
    (htempDir' : world'.tempDir = other.world.tempDir)
    (hbooks' : world'.books = other.world.books) (hstate' : world'.state = other.world.state) :
    Counterpart contents aside conn before directory calls calls' ⟨host.registry, world⟩
      ⟨other.registry, world'⟩ where
  insulated := hcounter.insulated.same rfl hfiles htempDir hbooks hstate
  insulated' := hcounter.insulated'.same rfl hfiles' htempDir' hbooks' hstate'
  alone := hcounter.alone
  alike := ⟨hcounter.alike.loader, hcounter.alike.settings, hcounter.alike.capacity⟩
  calls := hcounter.calls
  slot := hcounter.slot

/-- Counterparts have the same status of their connection. -/
theorem status
    (hcounter : Counterpart contents aside conn before directory calls calls' host other) :
    host.registry.status conn = other.registry.status conn := by
  unfold Registry.status Registry.index
  rw [← hcounter.alike.capacity]
  cases hindex : conn.index? host.registry.capacity with
  | none => rfl
  | some index =>
    exact congrArg Except.ok (hcounter.slot_matches hindex).2.status

/-- Counterparts describe their connection alike. -/
theorem describe
    (hcounter : Counterpart contents aside conn before directory calls calls' host other) :
    Answer.Matches conn (.describe (host.registry.describe? conn))
      (.describe (other.registry.describe? conn)) := by
  unfold Registry.describe? Registry.index
  rw [← hcounter.alike.capacity]
  cases hindex : conn.index? host.registry.capacity with
  | none => exact .same _
  | some index =>
    exact .describe (hcounter.slot_matches hindex).2.info

/-- An operation on the connection is answered the same on both hosts, and leaves the same there. -/
theorem answer
    (hcounter : Counterpart contents aside conn before directory calls calls' host other)
    (hnames : ∀ taken, (host.world.names.pick taken).isSome = (other.world.names.pick taken).isSome)
    (hconn : operation.conn? = some conn)
    (hload : host.LoadsPrivately contents aside before operation) :
    (host.perform operation).1.Matches conn (other.perform operation).1
      ∧ ((host.next operation).registry.slotOf conn).Matches contents conn
        ((other.next operation).registry.slotOf conn) := by
  cases operation with
  | load conn path symbol =>
    cases hconn
    -- the same settings say whether a private copy is asked for
    have hsame : other.perform (.load conn path symbol) = other.perform
        (.loadWith conn ⟨path, symbol, host.registry.settings.isolateInstances⟩) := by
      rw [hcounter.alike.settings]
      rfl
    obtain ⟨hresult, hleft⟩ := hcounter.loadWith hnames (hload conn ⟨path, symbol, _⟩)
    rw [next, next, hsame]
    exact ⟨.load hresult, hleft⟩
  | loadWith conn request =>
    cases hconn
    obtain ⟨hresult, hleft⟩ := hcounter.loadWith hnames (hload conn request)
    exact ⟨.load hresult, hleft⟩
  | unload conn =>
    cases hconn
    obtain ⟨hresult, hleft⟩ := hcounter.unload
    refine ⟨?_, hleft⟩
    simp only [Host.perform, hresult]
    exact .same _
  | invoke | invokeUnchecked | invokePayload =>
    rw [hcounter.call rfl hconn]
    exact ⟨.same _, hcounter.slot⟩
  | status conn =>
    cases hconn
    refine ⟨?_, hcounter.slot⟩
    simp only [Host.perform, hcounter.status]
    exact .same _
  | describe conn =>
    cases hconn
    exact ⟨hcounter.describe, hcounter.slot⟩
  | loadedCount | shutDown => cases hconn

end Counterpart

/-! ### Runs -/

/-- An operation on another connection leaves the calls of this one as they were. -/
theorem recount_of_ne (calls : ConnectionId → List CallBuffers)
    (hother : operation.conn? ≠ some conn) (answer : Answer) :
    recount calls operation answer conn = calls conn := by
  unfold recount
  cases hconn : operation.conn? with
  | none => rfl
  | some conn' =>
    apply Function.update_of_ne
    rintro rfl
    exact hother hconn

namespace Counterpart

/-- One more operation on the connection leaves it where it stands on the other host. -/
theorem next (hcounter : Counterpart contents aside conn before directory calls calls' host other)
    (hnames : ∀ taken, (host.world.names.pick taken).isSome = (other.world.names.pick taken).isSome)
    (hconn : operation.conn? = some conn)
    (hload : host.LoadsPrivately contents aside before operation) :
    Counterpart contents aside conn before directory
      (recount calls operation (host.perform operation).1)
      (recount calls' operation (other.perform operation).1) (host.next operation)
      (other.next operation) := by
  obtain ⟨hanswer, hslot⟩ := hcounter.answer hnames hconn hload
  have hshutDown : operation ≠ .shutDown := by
    rintro rfl
    cases hconn
  refine ⟨hcounter.insulated.next hshutDown hload,
    hcounter.insulated'.next hshutDown (hcounter.loadsPrivately hconn hload), ?_, ?_, ?_, hslot⟩
  · intro conn' hne
    rw [slotOf_next_of_ne hconn hne]
    exact hcounter.alone conn' hne
  · exact ((host.alike_after [operation]).trans hcounter.alike).trans
      (other.alike_after [operation]).symm
  · simp only [recount, hconn, Function.update_self, hcounter.calls, hanswer.recount]

/-- One more operation on other connections leaves the connection where it stands. -/
theorem skip (hcounter : Counterpart contents aside conn before directory calls calls' host other)
    (hconn : operation.conn? ≠ some conn) (hshutDown : operation ≠ .shutDown)
    (hload : host.LoadsPrivately contents aside before operation) :
    Counterpart contents aside conn before directory
      (recount calls operation (host.perform operation).1) calls' (host.next operation) other := by
  refine ⟨hcounter.insulated.next hshutDown hload, hcounter.insulated', hcounter.alone,
    (host.alike_after [operation]).trans hcounter.alike, ?_, ?_⟩
  · rw [recount_of_ne calls hconn]
    exact hcounter.calls
  · cases hother : operation.conn? with
    | none =>
      -- what is addressed to no connection but the shutdown is a question
      cases operation with
      | loadedCount => exact hcounter.slot
      | shutDown => exact absurd rfl hshutDown
      | load | loadWith | unload | invoke | invokeUnchecked | invokePayload | status | describe =>
        cases hother
    | some conn' =>
      have hne : conn ≠ conn' := by
        rintro rfl
        exact hconn hother
      rw [slotOf_next_of_ne hother hne]
      exact hcounter.slot

end Counterpart

end Host

end ControllerHost
