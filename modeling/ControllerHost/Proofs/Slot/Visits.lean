import ControllerHost.Proofs.Slot.Events

/-!
# The order of effects

What a connection does to files, libraries and entry points comes in visits. A visit is one load and
all that follows from it: the private copy is made, the library opened, the entry point found and
called, the library closed, and the copy deleted. This file shows that the effects of a load are a
visit, and that visits keep the rules about what may be done while what is held.

- `Event.isEffect`, `Event.effects`: the effects among events, of one connection.
- `Visit`, `Visit.word`, `Visit.begun`: what a visit consists of, whole or up to its calls.
- `Slot.Underway`: the visit that a slot is in the middle of.
- `LoadedController.begun_parting`: releasing a controller ends its visit.
- `Slot.Story.begun`, `Slot.Story.underway`: a load makes a visit, or begins one.
- `Holdings`, `Holdings.Allows`: what a connection holds, and the rules.
- `Holdings.proper_words`: visits keep the rules.
-/

namespace ControllerHost

variable {B S L : Type}

/-! ### Effects -/

namespace Event

/-- Whether an event is something done to a file, a library or an entry point. -/
def isEffect : Event → Bool
  | copied _ _ _ | opened _ _ _ | openFailed _ _ _ | openPanicked _ | loaded _ _ _
  | resolveFailed _ _ _ _ | resolvePanicked _ | calling _ _ | closed _ _ _ | copyDeleted _ _ => true
  | _ => false

/-- The effects of a connection among several events. -/
def effects (conn : ConnectionId) (events : List Event) : List Event :=
  events.filter fun event => event.isEffect && event.connection? = some conn

/-- The effects of two stretches of events are those of the first and then those of the second. -/
@[simp]
theorem effects_append (conn : ConnectionId) (first second : List Event) :
    effects conn (first ++ second) = effects conn first ++ effects conn second :=
  List.filter_append first second

/-- All of the events are about one connection. -/
def AreAbout (conn : ConnectionId) (events : List Event) : Prop :=
  ∀ event ∈ events, event.connection? = some conn

@[simp]
theorem areAbout_nil (conn : ConnectionId) : AreAbout conn [] := by
  simp [AreAbout]

/-- Events are about a connection when the first is and the rest are. -/
@[simp]
theorem areAbout_cons {conn : ConnectionId} {event : Event} {rest : List Event} :
    AreAbout conn (event :: rest) ↔ event.connection? = some conn ∧ AreAbout conn rest := by
  simp [AreAbout]

/-- Two stretches of events are about a connection when each is. -/
@[simp]
theorem areAbout_append {conn : ConnectionId} {first second : List Event} :
    AreAbout conn (first ++ second) ↔ AreAbout conn first ∧ AreAbout conn second := by
  simp [AreAbout, or_imp, forall_and]

end Event

/-! ### Visits -/

/-- What one load of a connection is about. -/
structure Visit where
  /-- The path that was asked for. -/
  path : Path
  /-- The entry point's name. -/
  symbol : String
  /-- The private copy that was made, if one was. -/
  copy? : Option Path
  /-- Whether the loader logs what it does. -/
  isLogged : Bool
deriving DecidableEq

namespace Visit

/-- What came of the library. -/
inductive Course where
  /-- It could not be opened. -/
  | notOpened (reason : String)
  /-- The loader gave up while opening it. -/
  | openPanicked
  /-- It does not export the entry point. The loader may have complained when it was closed. -/
  | notResolved (reason : String) (complained : Bool)
  /-- The loader gave up while looking for the entry point. -/
  | resolvePanicked
  /-- The entry point was found, and called a number of times. The loader may have complained when
  the library was closed. -/
  | called (calls : Nat) (complained : Bool)
deriving DecidableEq

variable (conn : ConnectionId) (visit : Visit)

/-- The path that is opened: the private copy's, if there is one. -/
def library : Path := visit.copy?.getD visit.path

/-- The private copy is made. -/
def copying : List Event := visit.copy?.toList.map fun copy => .copied conn visit.path copy

/-- That private copy is deleted. -/
def deletion : List Event := visit.copy?.toList.map fun copy => .copyDeleted conn copy

/-- The library is opened. -/
def opening : Event := .opened conn visit.library visit.isLogged

/-- The library is closed, which a loader that complains about it does not log. -/
def closing (complained : Bool) : Event :=
  .closed conn visit.library (visit.isLogged && !complained)

/-- What is done with the library. Once it is open it is closed, and it is called only between the
finding of its entry point and that. -/
def use : Course → List Event
  | .notOpened reason => [.openFailed conn visit.path reason]
  | .openPanicked => [.openPanicked conn]
  | .notResolved reason complained =>
    [visit.opening conn, .resolveFailed conn visit.path visit.symbol reason,
      visit.closing conn complained]
  | .resolvePanicked =>
    [visit.opening conn, .resolvePanicked conn, visit.closing conn true]
  | .called calls complained =>
    [visit.opening conn, .loaded conn visit.path visit.symbol]
      ++ List.replicate calls (.calling conn visit.symbol) ++ [visit.closing conn complained]

/-- The effects of a whole visit. -/
def word (course : Course) : List Event :=
  visit.copying conn ++ visit.use conn course ++ visit.deletion conn

/-- The effects of a visit that has not ended yet, after a number of calls. -/
def begun (calls : Nat) : List Event :=
  visit.copying conn ++ [visit.opening conn, .loaded conn visit.path visit.symbol]
    ++ List.replicate calls (.calling conn visit.symbol)

/-- The effects of several visits, one after another. -/
def words (visits : List (Visit × Course)) : List Event :=
  visits.flatMap fun (visit, course) => visit.word conn course

/-- The effects of a visit that has not ended yet, if there is one. -/
def current (current? : Option (Visit × Nat)) : List Event :=
  current?.elim [] fun (visit, calls) => visit.begun conn calls

@[simp]
theorem current_none : current conn none = [] := rfl

@[simp]
theorem current_some (calls : Nat) :
    current conn (some (visit, calls)) = visit.begun conn calls := rfl

/-- The words of visits in a row stand in a row. -/
@[simp]
theorem words_append (first second : List (Visit × Course)) :
    words conn (first ++ second) = words conn first ++ words conn second :=
  List.flatMap_append

@[simp]
theorem words_singleton (course : Course) :
    words conn [(visit, course)] = visit.word conn course := by
  simp [words]

/-- A visit that comes to its calls begins, and then its library is closed and its copy deleted. -/
theorem word_called (calls : Nat) (complained : Bool) :
    visit.word conn (.called calls complained) =
      visit.begun conn calls ++ (visit.closing conn complained :: visit.deletion conn) := by
  simp [word, begun, use]

/-- One more call adds one letter to a visit that is not over. -/
theorem begun_succ (calls : Nat) :
    visit.begun conn (calls + 1) = visit.begun conn calls ++ [.calling conn visit.symbol] := by
  simp [begun, List.replicate_succ']

end Visit

/-- The visit that a loaded controller comes from. -/
def LoadedController.visit (controller : LoadedController S L) (loader : Loader B S L) : Visit where
  path := controller.path
  symbol := controller.symbol
  copy? := controller.copy?.map PrivateCopy.path
  isLogged := loader.isLogged

/-- The visit that a slot is in the middle of, and how often the controller has been called: there
is one if a controller is loaded. -/
inductive Slot.Underway (loader : Loader B S L) : Slot S L → Option (Visit × Nat) → Prop
  | empty : Underway loader .empty none
  | failed {path : Path} {symbol reason : String} :
      Underway loader (.failed path symbol reason) none
  | loaded {controller : LoadedController S L} (calls : Nat) :
      Underway loader (.loaded controller) (some (controller.visit loader, calls))

variable {loader : Loader B S L} {conn : ConnectionId} {request : LoadRequest}

/-- Only the closing itself is an effect, whatever the loader says about it. -/
theorem Loader.effects_closing (visit : Visit) (hlogged : visit.isLogged = loader.isLogged)
    (complaint? : Option String) :
    Event.effects conn (loader.closing conn visit.library complaint?) =
      [visit.closing conn complaint?.isSome] := by
  cases complaint? with
  | none => simp [closing, Visit.closing, hlogged, Event.effects, Event.isEffect, Event.connection?]
  | some reason => simp [closing, Visit.closing, Event.effects, Event.isEffect, Event.connection?]

/-- Deleting a private copy is an effect. -/
theorem PrivateCopy.effects_deletion (copy? : Option PrivateCopy) :
    Event.effects conn (deletion conn copy?) = deletion conn copy? := by
  cases copy? with
  | none => rfl
  | some copy => simp [deletion, Event.effects, Event.isEffect, Event.connection?]

/-- Releasing a controller ends its visit. -/
theorem LoadedController.begun_parting (controller : LoadedController S L) (calls : Nat)
    (complaint? : Option String) :
    (controller.visit loader).begun conn calls
        ++ Event.effects conn (controller.parting loader conn complaint?) =
      Visit.words conn [(controller.visit loader, .called calls complaint?.isSome)] := by
  -- the visit knows the copy by its path only
  have hdeletion : PrivateCopy.deletion conn controller.copy? =
      (controller.visit loader).deletion conn := by
    cases hcopy : controller.copy? <;> simp [PrivateCopy.deletion, Visit.deletion, visit, hcopy]
  have hclosing : Event.effects conn
      (loader.closing conn (controller.visit loader).library complaint?) =
        [(controller.visit loader).closing conn complaint?.isSome] :=
    Loader.effects_closing _ rfl complaint?
  have hlibrary : controller.openPath = (controller.visit loader).library := rfl
  rw [Visit.words_singleton, Visit.word_called, parting, Event.effects_append,
    Event.effects_append, hlibrary, hclosing, PrivateCopy.effects_deletion, hdeletion]
  simp [Event.effects, Event.isEffect]

/-- The visit that a request leads to, given the private copy that is made for it. -/
def LoadRequest.visit (request : LoadRequest) (loader : Loader B S L)
    (copy? : Option PrivateCopy) : Visit where
  path := request.path
  symbol := request.symbol
  copy? := copy?.map PrivateCopy.path
  isLogged := loader.isLogged

/-- The effects of dealing with a private copy are those that a visit begins with. -/
theorem Slot.Prepared.effects {copy? : Option PrivateCopy} {first : List Event}
    (hfirst : Slot.Prepared conn request copy? first) (loader : Loader B S L) :
    Event.effects conn first = (request.visit loader copy?).copying conn := by
  cases hfirst with
  | unasked => rfl
  | noFile => rfl
  | made =>
    simp [Event.effects, Event.isEffect, Event.connection?, Visit.copying, LoadRequest.visit]

/-- What a request leads to is a whole visit once the private copy is deleted. -/
theorem Slot.Prepared.effects_word {copy? : Option PrivateCopy} {first done : List Event}
    {course : Visit.Course} (hfirst : Slot.Prepared conn request copy? first)
    (hdone : Event.effects conn done = (request.visit loader copy?).use conn course) :
    Event.effects conn (first ++ done ++ PrivateCopy.deletion conn copy?) =
      Visit.words conn [(request.visit loader copy?, course)] := by
  have hdeletion :
      PrivateCopy.deletion conn copy? = (request.visit loader copy?).deletion conn := by
    cases copy? <;> rfl
  rw [Visit.words_singleton, Visit.word, Event.effects_append, Event.effects_append,
    hfirst.effects loader, hdone, PrivateCopy.effects_deletion, hdeletion]

/-- A load that succeeds begins a visit, in which nothing has been called yet. -/
theorem Slot.Story.begun {outcome : LoadOutcome} {controller : LoadedController S L}
    {added : List Event}
    (hstory : Slot.Story loader conn request outcome (.loaded controller) added) :
    controller.visit loader = request.visit loader controller.copy?
      ∧ Event.effects conn added = (controller.visit loader).begun conn 0 := by
  cases hstory with
  | @bound copy? first library routine hfirst =>
    refine ⟨rfl, ?_⟩
    rw [Event.effects_append, hfirst.effects loader]
    simp [Event.effects, Event.isEffect, Event.connection?, Visit.begun, Visit.opening,
      LoadRequest.visit, LoadedController.visit, Visit.library, PrivateCopy.openPath, Visit.copying]

/-- The effects of a load into an empty slot are a whole visit if the load fails, and begin one if
it succeeds. -/
theorem Slot.Story.underway {outcome : LoadOutcome} {slot : Slot S L} {added : List Event}
    (hstory : Slot.Story loader conn request outcome slot added) :
    ∃ visits current?,
      Event.effects conn added = Visit.words conn visits ++ Visit.current conn current?
        ∧ slot.Underway loader current? := by
  have hlibrary {copy? : Option PrivateCopy} :
      request.openPath copy? = (request.visit loader copy?).library := rfl
  -- a load that fails is a visit of its own, and the next load finds no visit under way
  cases hstory with
  | notCopied => exact ⟨[], none, rfl, .empty⟩
  | @notOpened copy? first reason hfirst =>
    refine ⟨[(request.visit loader copy?, .notOpened reason)], none, ?_, .empty⟩
    rw [Visit.current_none, List.append_nil]
    refine hfirst.effects_word ?_
    simp [Event.effects, Event.isEffect, Event.connection?, Visit.use, LoadRequest.visit]
  | @openPanicked copy? first message hfirst =>
    refine ⟨[(request.visit loader copy?, .openPanicked)], none, ?_, .empty⟩
    rw [Visit.current_none, List.append_nil]
    refine hfirst.effects_word ?_
    simp [Event.effects, Event.isEffect, Event.connection?, Visit.use]
  | @notResolved copy? first complaint? reason hfirst =>
    refine
      ⟨[(request.visit loader copy?, .notResolved reason complaint?.isSome)], none, ?_, .failed⟩
    rw [Visit.current_none, List.append_nil, List.append_assoc first]
    refine hfirst.effects_word ?_
    rw [Event.effects_append, hlibrary, Loader.effects_closing _ rfl]
    simp [Event.effects, Event.isEffect, Event.connection?, Visit.use, Visit.opening,
      LoadRequest.visit]
  | @resolvePanicked copy? first message hfirst =>
    refine ⟨[(request.visit loader copy?, .resolvePanicked)], none, ?_, .empty⟩
    rw [Visit.current_none, List.append_nil]
    refine hfirst.effects_word ?_
    rw [hlibrary]
    simp [Event.effects, Event.isEffect, Event.connection?, Visit.use, Visit.opening, Visit.closing,
      LoadRequest.visit]
  | @bound copy? first library routine hfirst =>
    have hbound := @Slot.Story.bound B S L loader conn request copy? first library routine hfirst
    exact ⟨[], some (_, 0), hbound.begun.2, .loaded 0⟩

/-! ### Other connections -/

/-- Closing a library is about the connection that it was opened for. -/
theorem Loader.about_closing (loader : Loader B S L) (conn : ConnectionId) (path : Path)
    (complaint? : Option String) : Event.AreAbout conn (loader.closing conn path complaint?) := by
  cases complaint? <;> simp [closing, Event.connection?]

/-- Deleting a private copy is about the connection that it was made for. -/
theorem PrivateCopy.about_deletion (conn : ConnectionId) (copy? : Option PrivateCopy) :
    Event.AreAbout conn (deletion conn copy?) := by
  cases copy? <;> simp [deletion, Event.connection?]

/-- Parting with a controller tells of its own connection only. -/
theorem LoadedController.about_parting (controller : LoadedController S L)
    (complaint? : Option String) :
    Event.AreAbout conn (controller.parting loader conn complaint?) := by
  simp [parting, Loader.about_closing, PrivateCopy.about_deletion, Event.connection?]

/-- Leaving a slot tells of its own connection only. -/
theorem Slot.about_leaving (slot : Slot S L) (world : World B S) :
    Event.AreAbout conn (slot.leaving loader conn world) := by
  cases slot with
  | empty => simp [leaving]
  | failed path symbol reason => simp [leaving]
  | loaded controller => simp [leaving, controller.about_parting, Event.connection?]

/-- A load is about its own connection only. -/
theorem Slot.Story.about {outcome : LoadOutcome} {slot : Slot S L} {added : List Event}
    (hstory : Slot.Story loader conn request outcome slot added) : Event.AreAbout conn added := by
  have hprepared {copy? : Option PrivateCopy} {first : List Event}
      (hfirst : Slot.Prepared conn request copy? first) : Event.AreAbout conn first := by
    cases hfirst <;> simp [Event.connection?]
  cases hstory with
  | notCopied => simp [Event.connection?]
  | notOpened hfirst | openPanicked hfirst | resolvePanicked hfirst =>
    simp [hprepared hfirst, PrivateCopy.about_deletion, Event.connection?]
  | notResolved hfirst =>
    simp [hprepared hfirst, PrivateCopy.about_deletion, Loader.about_closing, Event.connection?]
  | bound hfirst => simp [hprepared hfirst, Event.connection?]

/-! ### Rules -/

/-- What a connection holds, as its effects tell it. -/
structure Holdings where
  /-- The private copies that were made and not deleted. -/
  copies : List Path := []
  /-- The libraries that were opened and not closed. -/
  libraries : List Path := []
  /-- The entry point that was found in the library opened last, unless a library was closed
  since. -/
  symbol? : Option String := none
deriving DecidableEq

namespace Holdings

/-- What is held after an event. -/
def after (held : Holdings) : Event → Holdings
  | .copied _ _ copy => { held with copies := copy :: held.copies }
  | .copyDeleted _ copy => { held with copies := held.copies.erase copy }
  | .opened _ library _ => { held with libraries := library :: held.libraries, symbol? := none }
  | .loaded _ _ symbol => { held with symbol? := some symbol }
  | .closed _ library _ => { held with libraries := held.libraries.erase library, symbol? := none }
  | _ => held

/-- What is held after several events, when nothing was held before. -/
def of (events : List Event) : Holdings := events.foldl after {}

/-- What may be done while something is held. A private copy is made when nothing at all is held.
A library is opened when no other one is open, from the private copy if there is one. An entry point
is looked for in an open library, and called only if it was found there. The library that is closed
is the one that is open. A private copy is deleted when no library is open. -/
def Allows (held : Holdings) : Event → Prop
  | .copied _ _ _ => held.copies = [] ∧ held.libraries = []
  | .openFailed _ _ _ | .openPanicked _ => held.libraries = []
  | .opened _ library _ => held.libraries = [] ∧ ∀ copy ∈ held.copies, copy = library
  | .loaded _ _ _ | .resolveFailed _ _ _ _ | .resolvePanicked _ =>
    held.libraries.length = 1 ∧ held.symbol? = none
  | .calling _ symbol => held.libraries.length = 1 ∧ held.symbol? = some symbol
  | .closed _ library _ => held.libraries = [library]
  | .copyDeleted _ copy => held.libraries = [] ∧ held.copies = [copy]
  | _ => True

/-- Every one of several events may happen when its turn comes. -/
def Proper : Holdings → List Event → Prop
  | _, [] => True
  | held, event :: rest => held.Allows event ∧ Proper (held.after event) rest

/-- A stretch of effects is proper when each part is, the second from what the first leaves held. -/
theorem proper_append {held : Holdings} {first second : List Event} :
    held.Proper (first ++ second) ↔
      held.Proper first ∧ (first.foldl after held).Proper second := by
  induction first generalizing held with
  | nil => simp [Proper]
  | cons event rest ih => simp [Proper, ih, and_assoc]

/-- In proper events each one is allowed by what is held when its turn comes. -/
theorem Proper.allows {before rest : List Event} {event : Event}
    (hproper : Proper {} (before ++ event :: rest)) : (of before).Allows event :=
  (proper_append.1 hproper).2.1

/-- An entry point that was found in an open library may be called any number of times. -/
theorem proper_calls {held : Holdings} (conn : ConnectionId) {symbol : String}
    (hlibrary : held.libraries.length = 1) (hsymbol : held.symbol? = some symbol) (calls : Nat) :
    held.Proper (List.replicate calls (.calling conn symbol))
      ∧ (List.replicate calls (Event.calling conn symbol)).foldl after held = held := by
  induction calls with
  | zero => exact ⟨trivial, rfl⟩
  | succ calls ih => exact ⟨⟨⟨hlibrary, hsymbol⟩, ih.1⟩, ih.2⟩

/-- What is done with a library is proper when nothing but its private copy is held, and leaves only
that. -/
theorem proper_use (conn : ConnectionId) (visit : Visit) (course : Visit.Course) :
    Proper { copies := visit.copy?.toList } (visit.use conn course)
      ∧ (visit.use conn course).foldl after { copies := visit.copy?.toList } =
        { copies := visit.copy?.toList } := by
  -- if there is a private copy, it is what is opened
  have hcopy : ∀ copy ∈ visit.copy?.toList, copy = visit.library := by
    intro copy hmem
    rw [Option.mem_toList] at hmem
    simp [Visit.library, hmem]
  cases course with
  | notOpened reason => exact ⟨⟨rfl, trivial⟩, rfl⟩
  | openPanicked => exact ⟨⟨rfl, trivial⟩, rfl⟩
  | notResolved reason complained =>
    exact ⟨⟨⟨rfl, hcopy⟩, ⟨rfl, rfl⟩, rfl, trivial⟩,
      by simp [Visit.use, Visit.opening, Visit.closing, after]⟩
  | resolvePanicked =>
    exact ⟨⟨⟨rfl, hcopy⟩, ⟨rfl, rfl⟩, rfl, trivial⟩,
      by simp [Visit.use, Visit.opening, Visit.closing, after]⟩
  | called calls complained =>
    -- what is held while the entry point is called: no call changes it
    let bound : Holdings :=
      { copies := visit.copy?.toList, libraries := [visit.library], symbol? := some visit.symbol }
    let opening : List Event := [visit.opening conn, .loaded conn visit.path visit.symbol]
    have hopening : Proper { copies := visit.copy?.toList } opening :=
      ⟨⟨rfl, hcopy⟩, ⟨rfl, rfl⟩, trivial⟩
    have hbound : opening.foldl after { copies := visit.copy?.toList } = bound := rfl
    obtain ⟨hcalls, hafter⟩ := @proper_calls bound conn visit.symbol rfl rfl calls
    rw [Visit.use, proper_append, proper_append, List.foldl_append, List.foldl_append,
      List.foldl_append, hbound, hafter]
    exact ⟨⟨⟨hopening, hcalls⟩, rfl, trivial⟩, by simp [bound, Visit.closing, after]⟩

/-- A visit is proper when nothing is held, and leaves nothing held. -/
theorem proper_word (conn : ConnectionId) (visit : Visit) (course : Visit.Course) :
    Proper {} (visit.word conn course) ∧ of (visit.word conn course) = {} := by
  -- the copy is held all through the use of the library, and not before or after
  obtain ⟨huse, hafter⟩ := proper_use conn visit course
  have hcopying : Proper {} (visit.copying conn)
      ∧ (visit.copying conn).foldl after {} = { copies := visit.copy?.toList } := by
    unfold Visit.copying
    cases visit.copy? with
    | none => exact ⟨trivial, rfl⟩
    | some copy => exact ⟨⟨⟨rfl, rfl⟩, trivial⟩, rfl⟩
  have hdeletion : Proper { copies := visit.copy?.toList } (visit.deletion conn)
      ∧ (visit.deletion conn).foldl after { copies := visit.copy?.toList } = {} := by
    unfold Visit.deletion
    cases visit.copy? with
    | none => exact ⟨trivial, rfl⟩
    | some copy => exact ⟨⟨⟨rfl, rfl⟩, trivial⟩, by simp [after]⟩
  rw [of, Visit.word, proper_append, proper_append, List.foldl_append, List.foldl_append,
    List.foldl_append, hcopying.2, hafter]
  exact ⟨⟨⟨hcopying.1, huse⟩, hdeletion.1⟩, hdeletion.2⟩

/-- Whole visits are proper from nothing held, and leave nothing held. -/
theorem proper_words (conn : ConnectionId) (visits : List (Visit × Visit.Course)) :
    Proper {} (Visit.words conn visits) ∧ of (Visit.words conn visits) = {} := by
  -- nothing is held between two visits
  induction visits with
  | nil => exact ⟨trivial, rfl⟩
  | cons head rest ih =>
    obtain ⟨visit, course⟩ := head
    obtain ⟨hword, hnothing⟩ := proper_word conn visit course
    have hcons : Visit.words conn ((visit, course) :: rest) =
        visit.word conn course ++ Visit.words conn rest := rfl
    unfold of at *
    rw [hcons, proper_append, List.foldl_append, hnothing]
    exact ⟨⟨hword, ih.1⟩, ih.2⟩

end Holdings

end ControllerHost
