import ControllerHost.Controller.Samples
import ControllerHost.Proofs.Catalog.Loading
import ControllerHost.Proofs.Session.Run

/-!
# Libraries from a growing catalog

A catalog can be added to while libraries are open from it. What is open goes on to export what was
listed when it was opened; what is opened later exports what has been listed by then. Under which
path something was listed counts only by the components of the path, and of what was listed twice
the last counts.

- `Path.components_append_cons`, `Path.ComponentRules`: which ways to write a path are the same.
- `Desk`, `Desk.Step`, `Desk.perform`: a catalog with what is open from it, and what can be done.
- `Registration`, `Registration.last?`: what has been listed, and what was listed last.
- `Catalog.find?_register`, `Catalog.Lists`: what a catalog lists is what has been registered.
- `Desk.held?_after`: what a handle stands for until it is given up.
- `Desk.lends_what_was_listed`: opening, resolving and counting in every run.
-/

namespace ControllerHost

/-! ### Paths that are the same -/

namespace Path

/-- The components that the pieces of a byte string stand for. -/
def named (bytes : Bytes) : List Component :=
  (Bytes.split separator bytes).filterMap Component.ofPiece?

/-- The component in front of those that the pieces stand for, in a path that begins with some bytes
and goes on with a separator. -/
def lead (front : Bytes) : List Component :=
  if front = [] ∨ front.head? = some separator then [.root]
  else if (Bytes.split separator front).head? = some [dot] then [.here] else []

/-- A separator divides the components. -/
theorem components_append_cons (front back : Bytes) :
    (Path.mk (front ++ separator :: back)).components
      = lead front ++ named front ++ named back := by
  have habsolute : (Path.mk (front ++ separator :: back)).isAbsolute
      = decide (front = [] ∨ front.head? = some separator) := by
    cases front with
    | nil => rfl
    | cons byte rest => simp [isAbsolute, beq_eq_decide]
  have hhead : (Bytes.split separator (front ++ separator :: back)).head? =
      (Bytes.split separator front).head? := by
    rw [Bytes.split_append_cons, List.head?_append,
      List.head?_eq_some_head (Bytes.split_ne_nil separator front), Option.some_or]
  simp only [components, habsolute, hhead, decide_eq_true_eq, named, List.append_assoc]
  rw [Bytes.split_append_cons, List.filterMap_append]
  rfl

/-- The components of a path that has a front are what it begins with and what it names. -/
theorem components_of_ne_nil {front : Bytes} (hfront : front ≠ []) :
    (Path.mk front).components = lead front ++ named front := by
  simp [components, lead, named, isAbsolute, hfront]

/-- A separator in front of a path's rest names nothing. -/
theorem named_separator (back : Bytes) : named (separator :: back) = named back := rfl

/-- A single dot inside a path names nothing. -/
theorem named_dot (back : Bytes) : named (dot :: separator :: back) = named back := by
  rw [named, ← List.singleton_append, Bytes.split_append_cons, List.filterMap_append]
  rfl

/-- Two dots inside a path lead up. -/
theorem named_dots (back : Bytes) :
    named (dot :: dot :: separator :: back) = .up :: named back := by
  change named ([dot, dot] ++ separator :: back) = _
  rw [named, Bytes.split_append_cons, List.filterMap_append]
  rfl

/-- Which separators and dots count for the components of a path. -/
structure ComponentRules : Prop where
  /-- A separator counts once, however often it is repeated. -/
  repeated : ∀ front back,
    Same ⟨front ++ separator :: separator :: back⟩ ⟨front ++ separator :: back⟩
  /-- A dot between separators does not count. -/
  inner : ∀ front back,
    Same ⟨front ++ separator :: dot :: separator :: back⟩ ⟨front ++ separator :: back⟩
  /-- A separator at the end does not count, unless it is the whole path. -/
  trailing : ∀ front, front ≠ [] → Same ⟨front ++ [separator]⟩ ⟨front⟩
  /-- A dot in front counts, unless there is another one behind it. -/
  leading : ∀ back, (Bytes.split separator back).head? ≠ some [dot] →
    ¬ Same ⟨dot :: separator :: back⟩ ⟨back⟩
  /-- Two dots count wherever they are. -/
  up : ∀ front back, ¬ Same ⟨front ++ separator :: dot :: dot :: separator :: back⟩
    ⟨front ++ separator :: back⟩

/-- Paths are compared by these rules. -/
theorem componentRules : ComponentRules where
  repeated front back := by
    simp only [Same, components_append_cons, named_separator]
  inner front back := by
    simp only [Same, components_append_cons, named_dot]
  trailing front hfront := by
    rw [Same, components_append_cons, components_of_ne_nil hfront]
    exact List.append_nil _
  leading back hback hsame := by
    have hfront : (Path.mk (dot :: separator :: back)).components = .here :: named back :=
      components_append_cons [dot] back
    rw [Same, hfront] at hsame
    -- whatever stands in front of the components of `back`, it is no dot
    have hlead : (Path.mk back).components =
        (if (Path.mk back).isAbsolute then [.root] else []) ++ named back := by
      rw [components, named, if_neg hback]
    rw [hlead] at hsame
    split at hsame
    · cases hsame
    · exact List.cons_ne_self _ _ hsame
  up front back hsame := by
    rw [Same, components_append_cons, components_append_cons, named_dots] at hsame
    exact List.cons_ne_self _ _ (List.append_cancel_left hsame)

end Path

/-! ### Desks -/

/-- A catalog, what the world keeps of it, and the libraries that are open from it. Each library
that was opened has its number; what has been given up has left its number behind. -/
structure Desk (S : Type) where
  /-- The catalog. -/
  catalog : Catalog S
  /-- The world. -/
  world : World Tally S
  /-- The libraries, in the order in which they were opened. -/
  handles : List (Option (Exports S))

variable {S : Type}

namespace Desk

/-- What can be done with a catalog and with what is open from it. -/
inductive Step (S : Type) where
  /-- List a routine. -/
  | register (path : Path) (symbol : String) (routine : Routine S)
  /-- Open the library under a path. -/
  | «open» (path : Path)
  /-- Find an entry point in an open library. -/
  | resolve (handle : Nat) (symbol : String)
  /-- Close a library, and hear what its loader says about that. -/
  | close (handle : Nat)
  /-- Give up a library. -/
  | drop (handle : Nat)

/-- Whether a step closes the library with a number, or gives it up. -/
def Step.releases (handle : Nat) : Step S → Bool
  | close other | drop other => other = handle
  | register .. | «open» _ | resolve .. => false

/-- What comes of a step. -/
inductive Answer (S : Type) where
  /-- The routine is listed. -/
  | registered
  /-- What opening came to, with the number of the library. -/
  | opened (result : Attempt Nat)
  /-- What looking for an entry point came to. -/
  | resolved (result : Attempt (Routine S))
  /-- The library is closed, and this is what its loader says about that. -/
  | closed (complaint? : Option String)
  /-- No library with the number is open. -/
  | unknown

/-- A catalog in which nothing is listed, and from which nothing has been opened. -/
def start (world : World Tally S) : Desk S := ⟨{}, { world with books := {} }, []⟩

/-- The loader that opens what the catalog lists. -/
def loader (desk : Desk S) : Loader Tally S (Exports S) := desk.catalog.loader

/-- The open library with a number. -/
def held? (desk : Desk S) (handle : Nat) : Option (Exports S) := desk.handles[handle]?.join

/-- The desk in the world that releasing a library has left. -/
def release (desk : Desk S) (handle : Nat) (world : World Tally S) : Desk S :=
  { desk with world, handles := desk.handles.set handle none }

/-- What a step gives and leaves. -/
def perform (desk : Desk S) : Step S → Answer S × Desk S
  | .register path symbol routine =>
    (.registered, { desk with catalog := desk.catalog.register path symbol routine })
  | .open path =>
    match desk.loader.open desk.world path with
    | (.done library, world) =>
      (.opened (.done desk.handles.length),
        { desk with world, handles := desk.handles ++ [some library] })
    | (.failed reason, world) => (.opened (.failed reason), { desk with world })
    | (.panicked message, world) => (.opened (.panicked message), { desk with world })
  | .resolve handle symbol =>
    match desk.held? handle with
    | some library => (.resolved (desk.loader.resolve library symbol desk.world), desk)
    | none => (.unknown, desk)
  | .close handle =>
    match desk.held? handle with
    | some library =>
      (.closed (desk.loader.complaint? library desk.world),
        desk.release handle (desk.loader.shut library desk.world))
    | none => (.unknown, desk)
  | .drop handle =>
    match desk.held? handle with
    | some library =>
      (.closed none, desk.release handle (desk.loader.abandon library desk.world))
    | none => (.unknown, desk)

/-- The desk after several steps. -/
abbrev after (desk : Desk S) (steps : List (Step S)) : Desk S := Run.after perform desk steps

/-- The answers to several steps. -/
def answers (desk : Desk S) (steps : List (Step S)) : List (Answer S) :=
  (Run.trace perform desk steps).map Prod.snd

/-- Whether a library was opened. -/
def Answer.isOpened : Answer S → Bool
  | opened (.done _) => true
  | _ => false

/-- Whether a library was closed. -/
def Answer.isClosed : Answer S → Bool
  | closed _ => true
  | _ => false

end Desk

/-! ### What has been registered -/

/-- A routine that has been listed. -/
structure Registration (S : Type) where
  /-- The path. -/
  path : Path
  /-- The entry point's name. -/
  symbol : String
  /-- The routine. -/
  routine : Routine S

namespace Registration

/-- The routine that was registered last under a path with the same components, and under a
symbol. -/
def last? (registrations : List (Registration S)) (path : Path) (symbol : String) :
    Option (Routine S) :=
  (registrations.reverse.find? fun registration =>
    registration.path.Same path ∧ registration.symbol = symbol).map Registration.routine

/-- The latest registration comes first. -/
theorem last?_concat (registrations : List (Registration S)) (registration : Registration S)
    (path : Path) (symbol : String) :
    last? (registrations ++ [registration]) path symbol =
      if registration.path.Same path ∧ registration.symbol = symbol then some registration.routine
      else last? registrations path symbol := by
  rw [last?, List.reverse_concat, List.find?_cons]
  by_cases hregistration : registration.path.Same path ∧ registration.symbol = symbol
  · simp [hregistration]
  · simp [hregistration, last?]

/-- What has never been registered under a path is not found under it. -/
theorem last?_eq_none {registrations : List (Registration S)} {path : Path}
    (hnone : ∀ registration ∈ registrations, ¬ registration.path.Same path) (symbol : String) :
    last? registrations path symbol = none := by
  rw [last?, Option.map_eq_none_iff, List.find?_eq_none]
  intro registration hmem
  have hpath := hnone registration (List.mem_reverse.1 hmem)
  simp [hpath]

end Registration

/-- The routine that a step lists. -/
def Desk.Step.registration? : Desk.Step S → Option (Registration S)
  | register path symbol routine => some ⟨path, symbol, routine⟩
  | _ => none

/-- What several steps list, in their order. -/
def Desk.registrations (steps : List (Desk.Step S)) : List (Registration S) :=
  steps.filterMap Desk.Step.registration?

namespace Catalog

/-- Paths with the same components are the same as the same paths. -/
theorem same_congr {path other third : Path} (hsame : path.Same other) :
    path.Same third ↔ other.Same third :=
  ⟨fun hthird => Path.same_equivalence.trans (Path.same_equivalence.symm hsame) hthird,
    fun hthird => Path.same_equivalence.trans hsame hthird⟩

/-- A routine that is listed is found first under its path, and nothing else is found otherwise than
before. -/
theorem find?_register (catalog : Catalog S) (path : Path) (symbol : String) (routine : Routine S)
    (other : Path) : (catalog.register path symbol routine).find? other =
      if path.Same other then some ((symbol, routine) :: (catalog.find? other).getD [])
      else catalog.find? other := by
  obtain ⟨entries⟩ := catalog
  simp only [find?, register]
  induction entries with
  | nil => by_cases hother : path.Same other <;> simp [registerIn, hother]
  | cons entry rest ih =>
    obtain ⟨listed, exports⟩ := entry
    by_cases hlisted : listed.Same path
    · -- the routine goes to what is listed already
      have hiff : listed.Same other ↔ path.Same other := same_congr hlisted
      by_cases hother : path.Same other
      · simp [registerIn, hlisted, hother, hiff.2 hother]
      · simp [registerIn, hlisted, hother, hiff]
    · simp only [registerIn, hlisted, if_false]
      by_cases hother : listed.Same other
      · -- what is listed first is listed under the other path, and so not under this one
        have hpath : ¬ path.Same other := fun hpath =>
          hlisted ((same_congr hother).2 (Path.same_equivalence.symm hpath))
        simp [hother, hpath]
      · simpa [hother] using ih

/-- A catalog lists what has been registered: the paths, and under each of them the symbols, with
what was registered last. -/
structure Lists (catalog : Catalog S) (registrations : List (Registration S)) : Prop where
  /-- A path is listed if a path with the same components has been registered. -/
  isSome_find? : ∀ path, (catalog.find? path).isSome ↔
    ∃ registration ∈ registrations, registration.path.Same path
  /-- What is listed under a path exports what was registered last. -/
  lookup_find? : ∀ path exports, catalog.find? path = some exports →
    ∀ symbol, exports.lookup symbol = Registration.last? registrations path symbol

/-- A new catalog lists nothing. -/
theorem lists_empty : Lists ({} : Catalog S) [] where
  isSome_find? path := by simp [find?]
  lookup_find? path exports hfind := by simp [find?] at hfind

/-- A registration is listed after those before it. -/
theorem Lists.register {catalog : Catalog S} {registrations : List (Registration S)}
    (hlists : catalog.Lists registrations) (path : Path) (symbol : String) (routine : Routine S) :
    (catalog.register path symbol routine).Lists (registrations ++ [⟨path, symbol, routine⟩]) where
  isSome_find? other := by
    rw [find?_register]
    by_cases hother : path.Same other
    · simp [hother]
    · simp [hother, hlists.isSome_find? other]
  lookup_find? other exports hfind name := by
    rw [find?_register] at hfind
    rw [Registration.last?_concat]
    by_cases hother : path.Same other
    · rw [if_pos hother, Option.some.injEq] at hfind
      -- whether the path has been listed before or not, the routine comes in front
      have hrest : ((catalog.find? other).getD []).lookup name =
          Registration.last? registrations other name := by
        cases hbefore : catalog.find? other with
        | some listed => exact hlists.lookup_find? other listed hbefore name
        | none =>
          refine (Registration.last?_eq_none (fun registration hmem hsame => ?_) name).symm
          have hlisted := (hlists.isSome_find? other).2 ⟨registration, hmem, hsame⟩
          simp [hbefore] at hlisted
      rw [← hfind, List.lookup_cons, hrest]
      by_cases hname : symbol = name
      · simp [hother, hname]
      · simp [hname, beq_false_of_ne (Ne.symm hname)]
    · rw [if_neg hother] at hfind
      rw [if_neg fun hboth => hother hboth.1]
      exact hlists.lookup_find? other exports hfind name

end Catalog

namespace Desk

/-! ### What a step and a run do to a desk -/

/-- The registrations of several steps are those of the first and of the others. -/
theorem registrations_cons (step : Step S) (rest : List (Step S)) :
    registrations (step :: rest) = step.registration?.toList ++ registrations rest := by
  cases hstep : step.registration? <;> simp [registrations, hstep]

/-- Opening a listed library gives it the next number, and it exports what is listed then. -/
theorem perform_open_of_some {desk : Desk S} {path : Path} {exports : Exports S}
    (hfind : desk.catalog.find? path = some exports) :
    desk.perform (.open path) = (.opened (.done desk.handles.length),
      { desk with
        world := { desk.world with books := desk.world.books.openOne }
        handles := desk.handles ++ [some exports] }) := by
  simp only [perform, loader, Catalog.open_of_some {} rfl hfind]

/-- A path that is not listed cannot be opened, and nothing changes. -/
theorem perform_open_of_none {desk : Desk S} {path : Path}
    (hfind : desk.catalog.find? path = none) :
    desk.perform (.open path) =
      (.opened (.failed (path.shown ++ ": no such library registered")), desk) := by
  simp only [perform, loader, Catalog.open_of_none {} rfl hfind]

/-- Handles that are held have been given out. -/
theorem lt_of_held? {desk : Desk S} {handle : Nat} {library : Exports S}
    (hheld : desk.held? handle = some library) : handle < desk.handles.length := by
  by_contra hge
  rw [held?, List.getElem?_eq_none (by omega)] at hheld
  cases hheld

/-- Releasing a handle takes away that handle and no other. -/
theorem held?_release (desk : Desk S) {handle : Nat} {library : Exports S}
    (hheld : desk.held? handle = some library) (world : World Tally S) (other : Nat) :
    (desk.release handle world).held? other =
      if other = handle then none else desk.held? other := by
  have hlt := lt_of_held? hheld
  simp only [held?, release, List.getElem?_set]
  by_cases hother : other = handle
  · simp [hother, hlt]
  · simp [hother, Ne.symm hother]

/-- A new handle is held besides those there were. -/
theorem held?_of_append {handles : List (Option (Exports S))} {desk : Desk S}
    {library : Option (Exports S)} (hhandles : desk.handles = handles ++ [library])
    (handle : Nat) :
    desk.held? handle = if handle = handles.length then library else handles[handle]?.join := by
  rw [held?, hhandles, List.getElem?_append]
  grind

/-- What a desk stands at, as its answers and what has been registered tell it. -/
structure Tells (listed : List (Registration S)) (answers : List (Answer S)) (desk : Desk S) :
    Prop where
  /-- The catalog lists what has been registered. -/
  lists : desk.catalog.Lists listed
  /-- The libraries are numbered as they were opened. -/
  length_handles : desk.handles.length = answers.countP Answer.isOpened
  /-- Each library that was opened counts. -/
  opens : desk.world.books.opens = answers.countP Answer.isOpened
  /-- Each library that was opened counts as open until it is closed. -/
  openHandles : desk.world.books.openHandles =
    answers.countP Answer.isOpened - answers.countP Answer.isClosed

variable {desk : Desk S} {listed : List (Registration S)} {answers : List (Answer S)}

/-- Before the first step there is nothing to tell. -/
theorem tells_start (world : World Tally S) : Tells [] [] (start world) where
  lists := Catalog.lists_empty
  length_handles := rfl
  opens := rfl
  openHandles := rfl

/-- Opening keeps the account of what was listed and lent. -/
theorem Tells.open (htells : Tells listed answers desk) (path : Path) :
    Tells listed (answers ++ [(desk.perform (.open path)).1]) (desk.perform (.open path)).2 := by
  cases hfind : desk.catalog.find? path with
  | none =>
    rw [perform_open_of_none hfind]
    exact ⟨htells.lists, by simpa [Answer.isOpened] using htells.length_handles,
      by simpa [Answer.isOpened] using htells.opens,
      by simpa [Answer.isOpened, Answer.isClosed] using htells.openHandles⟩
  | some exports =>
    rw [perform_open_of_some hfind]
    refine ⟨htells.lists, by simp [Answer.isOpened, htells.length_handles],
      by simp [Answer.isOpened, Tally.openOne, htells.opens], ?_⟩
    have hcounted := htells.openHandles
    simp only [Tally.openOne, List.countP_append, List.countP_singleton, Answer.isOpened,
      Answer.isClosed, if_true, Bool.false_eq_true, if_false]
    omega

/-- A library that is released is no longer counted as open. -/
theorem Tells.release (htells : Tells listed answers desk) (handle : Nat)
    (complaint? : Option String) : Tells listed (answers ++ [.closed complaint?])
      (desk.release handle { desk.world with books := desk.world.books.closeOne }) := by
  refine ⟨htells.lists, by simpa [Desk.release, Answer.isOpened] using htells.length_handles,
    by simp [Desk.release, Tally.closeOne, htells.opens, Answer.isOpened], ?_⟩
  have hcounted := htells.openHandles
  simp only [Desk.release, Tally.closeOne, List.countP_append, List.countP_singleton,
    Answer.isOpened, Answer.isClosed, if_true, Bool.false_eq_true, if_false]
  omega

/-- What neither opens nor closes anything keeps the account. -/
theorem Tells.same (htells : Tells listed answers desk) {answer : Answer S}
    (hopened : answer.isOpened = false) (hclosed : answer.isClosed = false) :
    Tells listed (answers ++ [answer]) desk :=
  ⟨htells.lists, by simpa [hopened] using htells.length_handles,
    by simpa [hopened] using htells.opens, by simpa [hopened, hclosed] using htells.openHandles⟩

/-- Every step keeps the account. -/
theorem Tells.perform (htells : Tells listed answers desk) (step : Step S) :
    Tells (listed ++ step.registration?.toList) (answers ++ [(desk.perform step).1])
      (desk.perform step).2 := by
  -- each answer is told with what it does to the handles
  cases step with
  | register path symbol routine =>
    have hnext : Tells listed (answers ++ [.registered]) desk := htells.same rfl rfl
    exact ⟨htells.lists.register path symbol routine, hnext.length_handles,
      hnext.opens, hnext.openHandles⟩
  | «open» path =>
    rw [show Step.registration? (.open path) = none from rfl, Option.toList_none, List.append_nil]
    exact htells.open path
  | resolve handle symbol =>
    simp only [Step.registration?, Option.toList_none, List.append_nil, Desk.perform]
    split <;> exact htells.same rfl rfl
  | close handle | drop handle =>
    simp only [Step.registration?, Option.toList_none, List.append_nil, Desk.perform]
    split
    · exact htells.release _ _
    · exact htells.same rfl rfl

/-- Every run keeps the account. -/
theorem Tells.after (htells : Tells listed answers desk) (steps : List (Step S)) :
    Tells (listed ++ registrations steps) (answers ++ desk.answers steps) (desk.after steps) := by
  induction steps generalizing desk listed answers with
  | nil => simpa [registrations, Desk.answers, Run.trace, Run.after] using htells
  | cons step rest ih =>
    have hnext := ih (htells.perform step)
    rwa [List.append_assoc, ← registrations_cons, List.append_assoc] at hnext

/-! ### What a handle stands for -/

/-- A library that has been opened is held until it is closed or given up. -/
theorem held?_perform {handle : Nat} (hlt : handle < desk.handles.length) (step : Step S) :
    handle < (desk.perform step).2.handles.length ∧ (desk.perform step).2.held? handle =
      if step.releases handle then none else desk.held? handle := by
  -- only opening and releasing change what is held
  cases step with
  | register path symbol routine => exact ⟨hlt, rfl⟩
  | resolve other symbol =>
    simp only [perform]
    split <;> exact ⟨hlt, rfl⟩
  | «open» path =>
    cases hfind : desk.catalog.find? path with
    | none =>
      rw [perform_open_of_none hfind]
      exact ⟨hlt, rfl⟩
    | some exports =>
      rw [perform_open_of_some hfind]
      refine ⟨by simp; omega, ?_⟩
      rw [held?_of_append rfl, if_neg (Nat.ne_of_lt hlt)]
      rfl
  | close other | drop other =>
    simp only [perform]
    split
    next library hheld =>
      refine ⟨by simpa [release] using hlt, ?_⟩
      rw [held?_release desk hheld]
      simp [Step.releases, eq_comm]
    next hheld =>
      refine ⟨hlt, ?_⟩
      -- what is not held cannot be released
      by_cases hother : other = handle
      · simp [← hother, hheld]
      · simp [Step.releases, hother]

/-- A handle is held until a step releases it, as what it was given out for. -/
theorem held?_after {handle : Nat} (hlt : handle < desk.handles.length) (steps : List (Step S)) :
    (desk.after steps).held? handle =
      if steps.any (Step.releases handle) then none else desk.held? handle := by
  induction steps generalizing desk with
  | nil => simp [Run.after]
  | cons step rest ih =>
    obtain ⟨hlength, hheld⟩ := held?_perform hlt step
    change ((desk.perform step).2.after rest).held? handle = _
    rw [ih hlength, hheld, List.any_cons]
    cases step.releases handle <;> simp

/-- What can be had from a library, once it has been opened, goes by what it exported then. -/
theorem perform_held {exports : Exports S} {handle : Nat}
    (hheld : desk.held? handle = some exports) (later : List (Step S)) (symbol : String) :
    ((desk.after later).perform (.resolve handle symbol)).1 =
      if later.any (Step.releases handle) then .unknown
      else match exports.lookup symbol with
        | some routine => .resolved (.done routine)
        | none => .resolved (.failed ("undefined symbol: " ++ symbol)) := by
  have hafter := held?_after (lt_of_held? hheld) later
  by_cases hgone : later.any (Step.releases handle)
  · rw [if_pos hgone] at hafter
    simp only [perform, hafter, if_pos hgone]
  · -- a loader asks the library that it opened, not what its catalog lists by now
    rw [if_neg hgone, hheld] at hafter
    simp only [perform, hafter, if_neg hgone, loader, Catalog.resolve_loader,
      Catalog.resolveListed]
    cases exports.lookup symbol <;> rfl

/-- A library can be closed once, or given up once. -/
theorem perform_close {handle : Nat} {library : Exports S}
    (hheld : desk.held? handle = some library) (later : List (Step S)) {step : Step S}
    (hstep : step = .close handle ∨ step = .drop handle) :
    ((desk.after later).perform step).1 =
      if later.any (Step.releases handle) then .unknown else .closed none := by
  have hafter := held?_after (lt_of_held? hheld) later
  by_cases hgone : later.any (Step.releases handle)
  · rw [if_pos hgone] at hafter ⊢
    obtain rfl | rfl := hstep <;> simp only [perform, hafter]
  · rw [if_neg hgone] at hafter ⊢
    obtain rfl | rfl := hstep
    · -- the catalog's loader has no complaint
      simp only [perform, hafter, hheld]
      rfl
    · simp only [perform, hafter, hheld]

/-! ### Lending -/

/-- In every run a library is opened if something has been listed under a path with the same
components, and it gets the next number. In everything that is done later, until it is closed or
given up, it exports what had been listed last when it was opened, and nothing else. The libraries
that were opened are counted, and so are those of them that have not been closed or given up. The
components of a path leave out separators that are repeated or at the end and dots between
separators, and nothing else. -/
theorem lends_what_was_listed (world : World Tally S) (before : List (Step S)) :
    let desk := (start world).after before
    let opened := ((start world).answers before).countP Answer.isOpened
    let closed := ((start world).answers before).countP Answer.isClosed
    (desk.world.books.opens = opened ∧ desk.world.books.openHandles = opened - closed) ∧
    (∀ path, if ∃ registration ∈ registrations before, registration.path.Same path then
        (desk.perform (.open path)).1 = .opened (.done opened) ∧
        ∀ later symbol,
          let left := (desk.perform (.open path)).2.after later
          let gone := later.any (Step.releases opened)
          (left.perform (.resolve opened symbol)).1 =
            (if gone then .unknown
            else match Registration.last? (registrations before) path symbol with
              | some routine => .resolved (.done routine)
              | none => .resolved (.failed ("undefined symbol: " ++ symbol))) ∧
          (left.perform (.close opened)).1 = (if gone then .unknown else .closed none) ∧
          (left.perform (.drop opened)).1 = (if gone then .unknown else .closed none)
      else (desk.perform (.open path)).1 =
        .opened (.failed (path.shown ++ ": no such library registered"))) ∧
    Path.ComponentRules := by
  intro desk opened closed
  have htells : Tells (registrations before) ((start world).answers before) desk :=
    (tells_start world).after before
  refine ⟨⟨htells.opens, htells.openHandles⟩, fun path => ?_, Path.componentRules⟩
  split
  next hlisted =>
    obtain ⟨exports, hfind⟩ :=
      Option.isSome_iff_exists.1 ((htells.lists.isSome_find? path).2 hlisted)
    -- the library that is opened is held under the next number
    have hheld : (desk.perform (.open path)).2.held? opened = some exports := by
      rw [perform_open_of_some hfind, held?_of_append rfl, if_pos htells.length_handles.symm]
    refine ⟨by rw [perform_open_of_some hfind, htells.length_handles], fun later symbol => ?_⟩
    rw [← htells.lists.lookup_find? path exports hfind symbol]
    exact ⟨perform_held hheld later symbol, perform_close hheld later (.inl rfl),
      perform_close hheld later (.inr rfl)⟩
  next hnone =>
    rw [← htells.lists.isSome_find?, Option.not_isSome_iff_eq_none] at hnone
    rw [perform_open_of_none hnone]

/-- A symbol is listed three times, under two ways to write one path. A library that is opened
between the second and the third time exports what was listed second, also once it was listed again
and the library opened before has been given up; with a dot in front the path is another one. -/
theorem lends_what_was_listed_relisted :
    let path := Path.ofText "a/ctrl"
    let spelled := Path.ofText "a//./ctrl/"
    let world : World Tally Unit := { tempDir := .ofText "/tmp", books := {}, state := () }
    let desk := (start world).after
      [.register path "DISCON" (.mark 1), .open spelled, .register spelled "DISCON" (.mark 2)]
    let opened := (desk.perform (.open path)).2
    (desk.perform (.open path)).1 = .opened (.done 1)
      ∧ ((opened.after [.register path "DISCON" (.mark 3), .drop 0]).perform
        (.resolve 1 "DISCON")).1 = .resolved (.done (.mark 2))
      ∧ ((opened.after [.register path "other" (.mark 3)]).perform (.resolve 1 "other")).1 =
        .resolved (.failed "undefined symbol: other")
      ∧ ((opened.after [.close 1]).perform (.drop 1)).1 = .unknown
      ∧ (desk.perform (.open (.ofText "./a/ctrl"))).1 =
        .opened (.failed "./a/ctrl: no such library registered")
      ∧ (opened.after [.close 0]).world.books.openHandles = 1 := by
  intro path spelled world desk opened
  have hlends := lends_what_was_listed world
    [.register path "DISCON" (.mark 1), .open spelled, .register spelled "DISCON" (.mark 2)]
  have hpath := hlends.2.1 path
  have hdotted := hlends.2.1 (.ofText "./a/ctrl")
  rw [if_pos (by decide +kernel)] at hpath
  rw [if_neg (by decide +kernel)] at hdotted
  exact ⟨hpath.1, (hpath.2 _ _).1, (hpath.2 _ _).1, (hpath.2 [.close 1] "").2.2, hdotted,
    by decide +kernel⟩

end Desk

end ControllerHost
