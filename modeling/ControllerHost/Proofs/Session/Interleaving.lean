import ControllerHost.Controller.Samples
import ControllerHost.Proofs.Host.Locality
import ControllerHost.Proofs.Session.Run

/-!
# Threads

Several threads use one session, and each of their steps is made at once. If no two threads use a
connection or a payload in common, and the routines of the catalog depend on their buffers only,
then it does not matter when the scheduler lets which thread go on.

- `Session.run`, `Session.answersTo`: a run of steps, each made by a thread, and what one thread is
  answered.
- `Session.IsSchedule`, `Session.inTurn`: schedules of the threads' steps, and the one that runs one
  thread after another.
- `Session.Agree`, `Session.Agree.perform`: sessions that are the same as far as some steps go, and
  what such steps do in them.
- `Session.thread_alone`: in a run with others, a thread fares as it does alone.
- `Session.schedules_agree`: all schedules come to the same.
-/

namespace ControllerHost

variable {B S L : Type}

namespace Session

variable {ι β : Type}

/-! ### Runs of several threads -/

/-- What is watched of a step, and the session that the step leaves. -/
def watch (watched : Session B S L → Step → β) (session : Session B S L) (step : Step) :
    β × Session B S L :=
  (watched session step, (session.perform step).2)

/-- What is watched of a thread's steps in a run, in order. -/
def watchedOf [DecidableEq ι] (watched : Session B S L → Step → β) (session : Session B S L)
    (thread : ι) (schedule : List (ι × Step)) : List β :=
  ((Run.trace (fun session entry => watch watched session entry.2) session schedule).filter
    fun entry => entry.1.1 = thread).map Prod.snd

/-- What a thread is answered in a run, in order. -/
def answersTo [DecidableEq ι] (session : Session B S L) (thread : ι) (schedule : List (ι × Step)) :
    List Answer :=
  watchedOf (fun session step => (session.perform step).1) session thread schedule

/-- The session that a run leaves. -/
def run (session : Session B S L) (schedule : List (ι × Step)) : Session B S L :=
  schedule.foldl (fun session entry => (session.perform entry.2).2) session

/-- Every thread makes its steps, in their order. -/
def IsSchedule [DecidableEq ι] (threads : ι → List Step) (schedule : List (ι × Step)) : Prop :=
  ∀ thread, (schedule.filter fun entry => entry.1 = thread).map Prod.snd = threads thread

/-- The threads one after another, each with all its steps. -/
def inTurn (threads : ι → List Step) (order : List ι) : List (ι × Step) :=
  order.flatMap fun thread => (threads thread).map fun step => (thread, step)

/-- No two threads use anything in common. -/
def AreApart (threads : ι → List Step) : Prop :=
  ∀ thread other, thread ≠ other → ∀ step ∈ threads thread, ∀ step' ∈ threads other,
    ∀ resource ∈ step.resources, resource ∉ step'.resources

theorem filter_inTurn [DecidableEq ι] (threads : ι → List Step) {order : List ι}
    (hnodup : order.Nodup) (thread : ι) :
    ((inTurn threads order).filter fun entry => entry.1 = thread).map Prod.snd =
      if thread ∈ order then threads thread else [] := by
  induction order with
  | nil => rfl
  | cons first rest ih =>
    rw [List.nodup_cons] at hnodup
    have hfirst : ((threads first).map fun step => (first, step)).filter
        (fun entry => decide (entry.1 = thread)) =
          if first = thread then (threads first).map fun step => (first, step) else [] := by
      split <;> rename_i hthread <;> simp [List.filter_map, Function.comp_def, hthread]
    rw [inTurn, List.flatMap_cons, List.filter_append, List.map_append, hfirst]
    change _ ++ ((inTurn threads rest).filter _).map _ = _
    rw [ih hnodup.2]
    -- the thread is this one or one of the rest, and not both
    by_cases hthread : first = thread
    · subst hthread
      simp [hnodup.1, Function.comp_def]
    · simp [hthread, Ne.symm hthread]

theorem isSchedule_inTurn [DecidableEq ι] {threads : ι → List Step} {order : List ι}
    (hnodup : order.Nodup) (horder : ∀ thread, threads thread ≠ [] → thread ∈ order) :
    IsSchedule threads (inTurn threads order) := by
  intro thread
  rw [filter_inTurn threads hnodup]
  split
  · rfl
  · rename_i hmem
    by_contra hsteps
    exact hmem (horder thread (Ne.symm hsteps))

theorem IsSchedule.mem [DecidableEq ι] {threads : ι → List Step} {schedule : List (ι × Step)}
    (hschedule : IsSchedule threads schedule) {entry : ι × Step} :
    entry ∈ schedule ↔ entry.2 ∈ threads entry.1 := by
  rw [← hschedule entry.1, List.mem_map]
  constructor
  · intro hentry
    exact ⟨entry, List.mem_filter.2 ⟨hentry, by simp⟩, rfl⟩
  · rintro ⟨found, hfound, hstep⟩
    obtain ⟨hmem, hthread⟩ := List.mem_filter.1 hfound
    have hsame : found = entry := Prod.ext (of_decide_eq_true hthread) hstep
    exact hsame ▸ hmem

/-! ### What steps leave alone -/

section Frames

variable {session : Session B S L} {step : Step} {schedule : List (ι × Step)}

/-- No step changes the loader, the settings or the size of the table. -/
theorem alike_perform (session : Session B S L) (step : Step) :
    (session.perform step).2.host.Alike session.host := by
  rw [host_perform]
  cases step.operation? session with
  | none => exact ⟨rfl, rfl, rfl⟩
  | some operation => exact session.host.alike_after [operation]

/-- A step leaves the connections that it does not use. -/
theorem slotOf_perform_of_not_mem (session : Session B S L) (hlocal : step.isLocal)
    {conn : ConnectionId} (hconn : .connection conn ∉ step.resources) :
    (session.perform step).2.host.registry.slotOf conn = session.host.registry.slotOf conn := by
  rw [host_perform]
  cases hoperation : step.operation? session with
  | none => rfl
  | some operation =>
    obtain ⟨conn', hconn', hmem⟩ := conn?_of_operation? hlocal hoperation
    exact Host.slotOf_next_of_ne hconn' fun hsame => hconn (hsame ▸ hmem)

/-- Where a table has no connection, everything stays as it is. -/
theorem slot_run_of_le (hlocal : ∀ entry ∈ schedule, entry.2.isLocal) {place : Nat}
    (hplace : 0x80000000 ≤ place) :
    (session.run schedule).host.registry.slot place = session.host.registry.slot place := by
  induction schedule generalizing session with
  | nil => rfl
  | cons entry rest ih =>
    rw [List.forall_mem_cons] at hlocal
    change ((session.perform entry.2).2.run rest).host.registry.slot place = _
    rw [ih hlocal.2, host_perform]
    cases hoperation : entry.2.operation? session with
    | none => rfl
    | some operation =>
      obtain ⟨conn, hconn, -⟩ := conn?_of_operation? hlocal.1 hoperation
      apply Host.slot_next_of_conn? hconn
      intro hindex
      exact absurd (ConnectionId.lt_of_index? hindex) (Nat.not_lt_of_le hplace)

/-- What every change of a host keeps is kept by every run. -/
theorem run_of_change {motive : Host B S L → Prop}
    (hkept : ∀ {host left load?}, motive host → Host.Change host load? left → motive left)
    (hsession : motive session.host) (schedule : List (ι × Step)) :
    motive (session.run schedule).host := by
  induction schedule generalizing session with
  | nil => exact hsession
  | cons entry rest ih => exact ih (perform_of_change hkept hsession entry.2)

end Frames

/-! ### What a step depends on -/

variable {session other : Session Tally S (Exports S)} {step : Step}

/-- Whether a step opens a library. -/
def opens (session : Session Tally S (Exports S)) (step : Step) : Bool :=
  (step.operation? session).any session.host.opens

/-- Two sessions load from one catalog of pure routines, and have the same in their slots and
payloads for what some steps use. -/
structure Agree (uses : Resource → Prop) (session other : Session Tally S (Exports S)) : Prop where
  isPure : session.host.IsPure
  alike : session.host.Alike other.host
  slots : ∀ conn, uses (.connection conn) →
    session.host.registry.slotOf conn = other.host.registry.slotOf conn
  payloads : ∀ name, uses (.payload name) → session.payloads name = other.payloads name

variable {uses : Resource → Prop}

theorem Agree.mono (hagree : Agree uses session other) {uses' : Resource → Prop}
    (huses : ∀ resource, uses' resource → uses resource) : Agree uses' session other :=
  ⟨hagree.isPure, hagree.alike, fun conn hconn => hagree.slots conn (huses _ hconn),
    fun name hname => hagree.payloads name (huses _ hname)⟩

theorem agree_self (hpure : session.host.IsPure) (uses : Resource → Prop) :
    Agree uses session session :=
  ⟨hpure, ⟨rfl, rfl, rfl⟩, fun _ _ => rfl, fun _ _ => rfl⟩

/-- What uses nothing of theirs does not matter to some steps. -/
theorem Agree.skip (hagree : Agree uses session other) (hlocal : step.isLocal)
    (hunused : ∀ resource ∈ step.resources, ¬ uses resource) :
    Agree uses (session.perform step).2 other where
  isPure := perform_of_change Host.IsPure.change hagree.isPure step
  alike := (session.alike_perform step).trans hagree.alike
  slots conn hconn := by
    rw [session.slotOf_perform_of_not_mem hlocal fun hmem => hunused _ hmem hconn]
    exact hagree.slots conn hconn
  payloads name hname := by
    rw [session.payloads_perform_of_not_mem fun hmem => hunused _ hmem hname]
    exact hagree.payloads name hname

/-- What a call hands over and gets back depends on the slot and the payload. -/
theorem Agree.handOver (hagree : Agree uses session other) {conn : ConnectionId} {name : String}
    (hconn : uses (.connection conn)) (hname : uses (.payload name)) (shown : Bool) :
    (session.handOver conn name shown).1 = (other.handOver conn name shown).1 := by
  have hslot := hagree.slots conn hconn
  unfold Session.handOver
  rw [← hagree.payloads name hname]
  cases shown with
  | true =>
    exact Host.invokePayload_congr hagree.alike hslot hagree.isPure (session.payloads name)
  | false =>
    have hinvoke := Host.invoke_congr hagree.alike hslot hagree.isPure
      (session.payloads name).call session.host.world other.host.world
    simp only [Bool.false_eq_true, if_false, hinvoke]

theorem Agree.opens (hagree : Agree uses session other)
    (huses : ∀ resource ∈ step.resources, uses resource) :
    session.opens step = other.opens step := by
  have hopens (operation : Operation) :
      session.host.opens operation = other.host.opens operation :=
    Host.opens_congr hagree.alike hagree.isPure operation
  unfold Session.opens
  cases step with
  | registry operation => exact hopens operation
  | call conn name shown =>
    have hname : session.payloads name = other.payloads name :=
      hagree.payloads name (huses _ (by simp [Step.resources]))
    cases shown <;> simp [Step.operation?, hname, hopens]
  | payload step => rfl

/-- A step gives the same in sessions that agree on what it uses, and they go on to agree. -/
theorem Agree.perform (hagree : Agree uses session other) (hlocal : step.isLocal)
    (huses : ∀ resource ∈ step.resources, uses resource) :
    (session.perform step).1 = (other.perform step).1
      ∧ Agree uses (session.perform step).2 (other.perform step).2 := by
  have halike : (session.perform step).2.host.Alike (other.perform step).2.host :=
    (session.alike_perform step).trans (hagree.alike.trans (other.alike_perform step).symm)
  have hpure := perform_of_change Host.IsPure.change hagree.isPure step
  -- what the step does not use stays the same in both sessions
  have hslots (hsame : ∀ conn, .connection conn ∈ step.resources →
      (session.perform step).2.host.registry.slotOf conn =
        (other.perform step).2.host.registry.slotOf conn) (conn : ConnectionId)
      (hconn : uses (.connection conn)) :
      (session.perform step).2.host.registry.slotOf conn =
        (other.perform step).2.host.registry.slotOf conn := by
    by_cases hmem : .connection conn ∈ step.resources
    · exact hsame conn hmem
    · rw [session.slotOf_perform_of_not_mem hlocal hmem,
        other.slotOf_perform_of_not_mem hlocal hmem]
      exact hagree.slots conn hconn
  cases step with
  | registry operation =>
    obtain ⟨conn, hconn⟩ := Option.isSome_iff_exists.1 hlocal
    have hslot := hagree.slots conn (huses _ (by simp [Step.resources, hconn]))
    obtain ⟨hanswer, hleft⟩ := Host.perform_congr hagree.alike hslot hagree.isPure hconn
    refine ⟨congrArg Answer.registry hanswer, hpure, halike, hslots ?_, hagree.payloads⟩
    intro conn' hmem
    obtain rfl : conn = conn' := by simpa [Step.resources, hconn, eq_comm] using hmem
    exact hleft
  | call conn name shown =>
    have hconn : uses (.connection conn) := huses _ (by simp [Step.resources])
    have hname : uses (.payload name) := huses _ (by simp [Step.resources])
    have hresult := hagree.handOver hconn hname shown
    have hreturned : session.returned conn name shown = other.returned conn name shown := by
      rw [returned, returned, hresult, hagree.payloads name hname]
    refine ⟨?_, hpure, halike, hagree.slots, ?_⟩
    · rw [perform_call, perform_call, hresult, hreturned]
    · intro target htarget
      simp only [perform_call, hreturned, Function.update_apply, hagree.payloads target htarget]
  | payload step =>
    have hnames : ∀ name ∈ step.names, uses (.payload name) :=
      fun name hmem => huses _ (List.mem_map_of_mem hmem)
    obtain ⟨hanswer, hleft⟩ := PayloadStep.perform_congr hnames hagree.payloads
    exact ⟨congrArg Answer.payload hanswer, hpure, halike, hagree.slots, hleft⟩

/-! ### Runs -/

variable {schedule : List (ι × Step)}

/-- What is not used by any step of a run stays as it is. -/
theorem agree_run (hlocal : ∀ entry ∈ schedule, entry.2.isLocal)
    (hunused : ∀ entry ∈ schedule, ∀ resource ∈ entry.2.resources, ¬ uses resource)
    (hagree : Agree uses session other) : Agree uses (session.run schedule) other := by
  induction schedule generalizing session with
  | nil => exact hagree
  | cons entry rest ih =>
    rw [List.forall_mem_cons] at hlocal hunused
    exact ih hlocal.2 hunused.2 (hagree.skip hlocal.1 hunused.1)

/-- A run counts as many opens as there are steps that open a library. -/
theorem opens_run (hpure : session.host.IsPure) (schedule : List (ι × Step)) :
    (session.run schedule).host.world.books.opens = session.host.world.books.opens +
      (Run.trace (fun session entry => watch opens session entry.2) session schedule).countP
        Prod.snd := by
  induction schedule generalizing session with
  | nil => rfl
  | cons entry rest ih =>
    have hnext : (session.perform entry.2).2.host.world.books.opens =
        session.host.world.books.opens + if session.opens entry.2 then 1 else 0 := by
      rw [host_perform, opens]
      cases entry.2.operation? session with
      | none => rfl
      | some operation => exact Host.opens_next hpure.loader.tallies operation
    change ((session.perform entry.2).2.run rest).host.world.books.opens = _
    rw [ih (perform_of_change Host.IsPure.change hpure entry.2), hnext, Run.trace,
      List.countP_cons, Nat.add_assoc]
    exact congrArg _ (Nat.add_comm _ _)

/-! ### Every schedule -/

/-- What the steps of a thread use. -/
def usedBy (threads : ι → List Step) (thread : ι) (resource : Resource) : Prop :=
  ∃ step ∈ threads thread, resource ∈ step.resources

section Schedules

variable [DecidableEq ι] {threads : ι → List Step}

/-- In a run with others a thread fares as it does alone, whatever is watched of its steps that
depends on what they use. -/
theorem thread_alone (hlocal : ∀ thread, ∀ step ∈ threads thread, step.isLocal)
    (hapart : AreApart threads) (hschedule : IsSchedule threads schedule) (thread : ι)
    (hpure : session.host.IsPure) (watched : Session Tally S (Exports S) → Step → β)
    (hwatched : ∀ {session other step}, Agree (usedBy threads thread) session other →
      step ∈ threads thread → watched session step = watched other step) :
    watchedOf watched session thread schedule =
        (Run.trace (watch watched) session (threads thread)).map Prod.snd
      ∧ Agree (usedBy threads thread) (session.run schedule)
        (Run.after (watch watched) session (threads thread)) := by
  have hsteps : List.Forall₂ (fun entry step => entry.2 = step)
      (schedule.filter fun entry => entry.1 = thread) (threads thread) := by
    rw [← hschedule thread, List.forall₂_map_right_iff, List.forall₂_same]
    exact fun _ _ => rfl
  have hmay : Run.Allows (fun session entry => watch watched session entry.2)
      (fun _ entry => entry.2 ∈ threads entry.1) session schedule :=
    Run.allows_of_forall (fun entry hentry _ => hschedule.mem.1 hentry) session
  -- the thread's own steps keep the two runs in agreement
  have hmine {session other : Session Tally S (Exports S)} {entry : ι × Step} {step : Step}
      (hagree : Agree (usedBy threads thread) session other) (hentry : entry.2 ∈ threads entry.1)
      (hthread : decide (entry.1 = thread)) (hstep : entry.2 = step) :
      (watch watched session entry.2).1 = (watch watched other step).1
        ∧ Agree (usedBy threads thread) (watch watched session entry.2).2
          (watch watched other step).2 := by
    subst hstep
    rw [of_decide_eq_true hthread] at hentry
    exact ⟨hwatched hagree hentry,
      (hagree.perform (hlocal thread _ hentry) fun resource hmem => ⟨_, hentry, hmem⟩).2⟩
  -- and so do those of the other threads, which use nothing of what it uses
  have hother {session other : Session Tally S (Exports S)} {entry : ι × Step}
      (hagree : Agree (usedBy threads thread) session other) (hentry : entry.2 ∈ threads entry.1)
      (hthread : decide (entry.1 = thread) = false) :
      Agree (usedBy threads thread) (watch watched session entry.2).2 other := by
    apply hagree.skip (hlocal _ _ hentry)
    rintro resource hresource ⟨step, hstep, hmem⟩
    exact hapart _ _ (of_decide_eq_false hthread) _ hentry step hstep resource hresource hmem
  obtain ⟨hanswers, hagree⟩ :=
    Run.trace_filter hmine hother (agree_self hpure (usedBy threads thread)) hmay hsteps
  exact ⟨List.forall₂_eq_eq_eq ▸ hanswers, hagree⟩

/-- What two schedules of the same threads leave is the same, whether a thread uses it or none. -/
theorem agree_schedules (hlocal : ∀ thread, ∀ step ∈ threads thread, step.isLocal)
    (hapart : AreApart threads) {first second : List (ι × Step)} (hfirst : IsSchedule threads first)
    (hsecond : IsSchedule threads second) (hpure : session.host.IsPure) :
    Agree (fun _ => True) (session.run first) (session.run second) := by
  have hcommon (resource : Resource) : ∃ common, ∀ schedule, IsSchedule threads schedule →
      Agree (· = resource) (session.run schedule) common := by
    by_cases hused : ∃ thread, usedBy threads thread resource
    · obtain ⟨thread, hthread⟩ := hused
      -- alone the thread leaves the same, and nothing has to be watched for that
      refine ⟨Run.after (watch fun _ _ => ()) session (threads thread),
        fun schedule hschedule => ?_⟩
      have halone := thread_alone hlocal hapart hschedule thread hpure (fun _ _ => ())
        fun _ _ => rfl
      exact halone.2.mono fun _ hresource => hresource ▸ hthread
    · refine ⟨session, fun schedule hschedule => ?_⟩
      refine agree_run (fun entry hentry => hlocal _ _ (hschedule.mem.1 hentry)) ?_
        (agree_self hpure _)
      rintro entry hentry _ hmem rfl
      exact hused ⟨entry.1, entry.2, hschedule.mem.1 hentry, hmem⟩
  have hslots (conn : ConnectionId) : (session.run first).host.registry.slotOf conn =
      (session.run second).host.registry.slotOf conn := by
    obtain ⟨common, hagree⟩ := hcommon (.connection conn)
    rw [(hagree first hfirst).slots conn rfl, (hagree second hsecond).slots conn rfl]
  have hpayloads (name : String) : (session.run first).payloads name =
      (session.run second).payloads name := by
    obtain ⟨common, hagree⟩ := hcommon (.payload name)
    rw [(hagree first hfirst).payloads name rfl, (hagree second hsecond).payloads name rfl]
  obtain ⟨common, hagree⟩ := hcommon (.connection 0)
  exact ⟨(hagree first hfirst).isPure,
    (hagree first hfirst).alike.trans (hagree second hsecond).alike.symm,
    fun conn _ => hslots conn, fun name _ => hpayloads name⟩

/-- What is watched of a thread's steps, and depends on what they use, is the same in two schedules
of the same threads. -/
theorem watchedOf_schedules (hlocal : ∀ thread, ∀ step ∈ threads thread, step.isLocal)
    (hapart : AreApart threads) {first second : List (ι × Step)} (hfirst : IsSchedule threads first)
    (hsecond : IsSchedule threads second) (hpure : session.host.IsPure) (thread : ι)
    (watched : Session Tally S (Exports S) → Step → β)
    (hwatched : ∀ {session other step}, Agree (usedBy threads thread) session other →
      step ∈ threads thread → watched session step = watched other step) :
    watchedOf watched session thread first = watchedOf watched session thread second :=
  (thread_alone hlocal hapart hfirst thread hpure watched hwatched).1.trans
    (thread_alone hlocal hapart hsecond thread hpure watched hwatched).1.symm

/-- Two schedules of the same threads open as many libraries. -/
theorem opens_schedules (hlocal : ∀ thread, ∀ step ∈ threads thread, step.isLocal)
    (hapart : AreApart threads) {first second : List (ι × Step)} (hfirst : IsSchedule threads first)
    (hsecond : IsSchedule threads second) (hpure : session.host.IsPure) :
    (session.run first).host.world.books.opens = (session.run second).host.world.books.opens := by
  let flags (schedule : List (ι × Step)) : List (ι × Bool) :=
    (Run.trace (fun session entry => watch opens session entry.2) session schedule).map
      fun entry => (entry.1.1, entry.2)
  have hflags (schedule : List (ι × Step)) (thread : ι) :
      ((flags schedule).filter fun entry => entry.1 = thread).map Prod.snd =
        watchedOf opens session thread schedule := by
    simp [flags, watchedOf, List.filter_map, Function.comp_def]
  -- each thread opens as many libraries, and so all of them do together
  have hperm : (flags first).Perm (flags second) := by
    apply Run.perm_of_authors
    intro thread
    rw [hflags, hflags]
    exact watchedOf_schedules hlocal hapart hfirst hsecond hpure thread opens
      fun hagree hstep => hagree.opens fun resource hmem => ⟨_, hstep, hmem⟩
  have hcount := hperm.countP_eq Prod.snd
  simp only [flags, List.countP_map, Function.comp_def] at hcount
  rw [opens_run hpure, opens_run hpure]
  exact congrArg _ hcount

/-- All schedules of the same threads come to the same. -/
theorem schedules_agree (hlocal : ∀ thread, ∀ step ∈ threads thread, step.isLocal)
    (hapart : AreApart threads) {first second : List (ι × Step)} (hfirst : IsSchedule threads first)
    (hsecond : IsSchedule threads second) (hpure : session.host.IsPure)
    (haccounted : session.host.Accounted) :
    (∀ thread, session.answersTo thread first = session.answersTo thread second)
      ∧ (session.run first).host.registry.slots = (session.run second).host.registry.slots
      ∧ (session.run first).host.world.books.openHandles =
        (session.run second).host.world.books.openHandles
      ∧ (session.run first).host.world.books.opens =
        (session.run second).host.world.books.opens
      ∧ (session.run first).payloads = (session.run second).payloads := by
  have hagree := agree_schedules hlocal hapart hfirst hsecond hpure
  have hslots : (session.run first).host.registry.slots =
      (session.run second).host.registry.slots := by
    apply Registry.slots_ext hagree.alike.capacity
    intro place hplace
    -- beyond the connections there are places that no step reaches
    rcases Nat.lt_or_ge place 0x80000000 with hlow | hhigh
    · have hindex := ConnectionId.index?_ofIndex hlow hplace
      exact Host.slot_congr (hagree.slots _ trivial) hagree.alike.capacity hindex
    · rw [slot_run_of_le (fun entry hentry => hlocal _ _ (hfirst.mem.1 hentry)) hhigh,
        slot_run_of_le (fun entry hentry => hlocal _ _ (hsecond.mem.1 hentry)) hhigh]
  refine ⟨fun thread => ?_, hslots, ?_,
    opens_schedules hlocal hapart hfirst hsecond hpure,
    funext fun name => hagree.payloads name trivial⟩
  · exact watchedOf_schedules hlocal hapart hfirst hsecond hpure thread _
      fun hagree hstep =>
        (hagree.perform (hlocal thread _ hstep) fun resource hmem => ⟨_, hstep, hmem⟩).1
  · have hcount (schedule : List (ι × Step)) :
        (session.run schedule).host.world.books.openHandles =
          ((session.run schedule).host.registry.slots.countP Slot.isLoaded : Nat) :=
      (run_of_change Host.IsPure.change_accounted ⟨hpure, haccounted⟩ schedule).2.counted
    rw [hcount, hcount, hslots]

/-- **Threads that share nothing do not notice each other.** Take any registry over a catalog, well
behaved or not, whose routines depend on their buffers only, and threads that use no connection and
no payload in common. In every order in which the scheduler lets them make their steps, loads that
fail or give up among them, each thread is answered what it is answered when the threads run one
after another, whichever is first. The table of slots, the payloads and both counts of the catalog
are the same in the end. -/
theorem interleaved_eq_inTurn {catalog : Catalog S} (hcatalog : catalog.IsPure) (faults : Faults)
    (settings : Settings) (world : World Tally S) (history : List Operation)
    (payloads : String → Payload) (hlocal : ∀ thread, ∀ step ∈ threads thread, step.isLocal)
    (hapart : AreApart threads) {schedule : List (ι × Step)}
    (hschedule : IsSchedule threads schedule) {order : List ι} (hnodup : order.Nodup)
    (horder : ∀ thread, threads thread ≠ [] → thread ∈ order) :
    let session : Session Tally S (Exports S) :=
      ⟨(Host.start (catalog.loader faults) settings { world with books := {} }).after history,
        payloads⟩
    let interleaved := session.run schedule
    let serial := session.run (inTurn threads order)
    (∀ thread, session.answersTo thread schedule =
        session.answersTo thread (inTurn threads order))
      ∧ interleaved.host.registry.slots = serial.host.registry.slots
      ∧ interleaved.host.world.books.openHandles = serial.host.world.books.openHandles
      ∧ interleaved.host.world.books.opens = serial.host.world.books.opens
      ∧ interleaved.payloads = serial.payloads := by
  intro session interleaved serial
  have hloader : (catalog.loader faults).OffersPure := ⟨catalog, faults, rfl, hcatalog⟩
  have hsession : session.host.IsPure ∧ session.host.Accounted :=
    Host.after_of_change Host.IsPure.change_accounted
      ⟨Host.isPure_start hloader settings _, Host.accounted_start _ settings world⟩ history
  exact schedules_agree hlocal hapart hschedule (isSchedule_inTurn hnodup horder) hsession.1
    hsession.2

end Schedules

/-- A thread whose second load makes the catalog give up, and one whose first load finds no entry
point, in turns and one after another. -/
theorem interleaved_eq_inTurn_two :
    let catalog : Catalog Nat := Catalog.register {} (.ofText "ctrl") "DISCON" (.mark 7)
    let faults : Faults :=
      { openPanic? := fun path => if path.shown = "gone" then some "gone" else none
        complaint? := some "complaint" }
    let threads : Bool → List Step := fun thread =>
      if thread then
        [.registry (.load 1 (.ofText "ctrl") "absent"),
          .registry (.load 1 (.ofText "ctrl") "DISCON"), .call 1 "theirs" false]
      else
        [.registry (.load 0 (.ofText "ctrl") "DISCON"), .call 0 "mine" true,
          .registry (.load 0 (.ofText "gone") "DISCON"), .payload (.encode "mine")]
    let schedule : List (Bool × Step) :=
      [(true, .registry (.load 1 (.ofText "ctrl") "absent")),
        (false, .registry (.load 0 (.ofText "ctrl") "DISCON")),
        (true, .registry (.load 1 (.ofText "ctrl") "DISCON")), (false, .call 0 "mine" true),
        (false, .registry (.load 0 (.ofText "gone") "DISCON")),
        (true, .call 1 "theirs" false), (false, .payload (.encode "mine"))]
    let session : Session Tally Nat (Exports Nat) :=
      ⟨(Host.start (catalog.loader faults) { maxConnections := 2 }
        { tempDir := .ofText "/tmp", books := {}, state := 0 }).after [], fun _ => .zeroed 2 4⟩
    catalog.IsPure
      ∧ IsSchedule threads schedule
      ∧ (∀ thread, session.answersTo thread schedule =
        session.answersTo thread (inTurn threads [false, true]))
      ∧ (session.run schedule).host.world.books.openHandles = 1
      ∧ (session.run schedule).host.world.books.opens = 3 := by
  intro catalog faults threads schedule session
  have hpure : catalog.IsPure :=
    Catalog.isPure_empty.register (.ofText "ctrl") "DISCON" (Routine.isPure_mark 7)
  have hlocal : ∀ thread, ∀ step ∈ threads thread, step.isLocal := by decide
  have hapart : AreApart threads := by
    unfold AreApart
    decide
  have horder : ∀ thread, threads thread ≠ [] → thread ∈ [false, true] := by
    intro thread _
    cases thread <;> decide
  have hschedule : IsSchedule threads schedule := by
    intro thread
    cases thread <;> rfl
  have hrun := interleaved_eq_inTurn hpure faults { maxConnections := 2 }
    { tempDir := .ofText "/tmp", books := {}, state := 0 } [] (fun _ => .zeroed 2 4) hlocal hapart
    hschedule (by decide) horder
  refine ⟨hpure, hschedule, hrun.1, ?_, ?_⟩
  · decide +kernel
  · decide +kernel

end Session

end ControllerHost
