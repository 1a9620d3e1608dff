import ControllerHost.Catalog
import ControllerHost.Controller.Samples
import ControllerHost.Proofs.Host.Chronicle
import ControllerHost.Proofs.Log.Capture

/-!
# The log as an audit trail

Above the lowest debug level the log says of each connection which controllers it has had, one after
another: each one comes and goes before the next one comes, and the last one has not gone exactly if
the connection is loaded. A shutdown says how many controllers have gone with it.

- `Stay`, `Stay.told`, `Stay.records`: the time in which one controller is loaded, and what is told
  of several and recorded.
- `Slot.fitting_stays`: coming and going fits what is done to a slot.
- `Registry.events_shutDown`: what a shutdown tells.
- `World.GoesOn`, `Host.goesOn_of_isCall`, `Host.goesOn_next`: what calls tell, and that nothing but
  a shutdown tells of shutdowns.
- `Host.log_audits`: the audit trail of every run, and of giving up the registry after it.
-/

namespace ControllerHost

variable {B S L : Type}

/-! ### Stays -/

/-- The time in which one controller is loaded on a connection. -/
structure Stay where
  /-- The path that was asked for. -/
  path : Path
  /-- The entry point's name. -/
  symbol : String
deriving DecidableEq

namespace Stay

variable (conn : ConnectionId) (stay : Stay)

/-- The controller comes. -/
def beginning : Event := .loaded conn stay.path stay.symbol

/-- The controller goes. -/
def ending : Event := .unloaded conn stay.path

/-- What is told of several stays, one after another, and of one that has not ended yet. -/
def told (past : List Stay) (now? : Option Stay) : List Event :=
  (past.flatMap fun stay => [stay.beginning conn, stay.ending conn])
    ++ now?.toList.map fun stay => stay.beginning conn

/-- The record that the controller comes. -/
def arrival : Log.Record :=
  ⟨.info, .registry, "controller loaded",
    [("conn", conn.text), ("path", stay.path.shown), ("symbol", stay.symbol)]⟩

/-- The record that the controller goes. -/
def departure : Log.Record :=
  ⟨.info, .registry, "controller unloaded", [("conn", conn.text), ("path", stay.path.shown)]⟩

/-- What is recorded of several stays, one after another, and of one that has not ended yet. -/
def records (past : List Stay) (now? : Option Stay) : List Log.Record :=
  (past.flatMap fun stay => [stay.arrival conn, stay.departure conn])
    ++ now?.toList.map fun stay => stay.arrival conn

/-- A stay that ends joins those that have ended. -/
theorem told_ended (past : List Stay) :
    told conn past (some stay) ++ [stay.ending conn] = told conn (past ++ [stay]) none := by
  simp [told]

/-- The records of what is told of the stays are the records of the stays. -/
theorem filterMap_told (past : List Stay) (now? : Option Stay) :
    (told conn past now?).filterMap Event.record? = records conn past now? := by
  rw [told, records, List.filterMap_append, List.filterMap_flatMap, List.filterMap_map]
  cases now? <;> rfl

end Stay

/-- The stay that a slot is in the middle of. -/
def Slot.stay? : Slot S L → Option Stay
  | loaded controller => some ⟨controller.path, controller.symbol⟩
  | empty | failed _ _ _ => none

section Turns

variable {loader : Loader B S L} {conn : ConnectionId}

/-- Closing a library tells of no turn. -/
theorem Loader.turns_closing (path : Path) (complaint? : Option String) :
    Event.kept Event.isTurn conn (loader.closing conn path complaint?) = [] := by
  cases complaint? <;> simp [closing, Event.kept, Event.isTurn]

/-- Deleting a copy tells of no turn. -/
theorem PrivateCopy.turns_deletion (copy? : Option PrivateCopy) :
    Event.kept Event.isTurn conn (deletion conn copy?) = [] := by
  simp [deletion, Event.kept, Event.isTurn]

/-- When a controller is released it goes. -/
theorem LoadedController.turns_parting (controller : LoadedController S L)
    (complaint? : Option String) :
    Event.kept Event.isTurn conn (controller.parting loader conn complaint?) =
      [.unloaded conn controller.path] := by
  rw [parting, Event.kept_append, Event.kept_append, Loader.turns_closing,
    PrivateCopy.turns_deletion]
  simp [Event.kept, Event.isTurn, Event.connection?]

/-- Preparing a path tells of no turn. -/
theorem Slot.Prepared.turns {request : LoadRequest} {copy? : Option PrivateCopy}
    {first : List Event} (hfirst : Slot.Prepared conn request copy? first) :
    Event.kept Event.isTurn conn first = [] := by
  cases hfirst <;> rfl

/-- A load into an empty slot tells that a controller has come, exactly if it leaves one. -/
theorem Slot.Story.turns {request : LoadRequest} {outcome : LoadOutcome} {slot : Slot S L}
    {added : List Event} (hstory : Slot.Story loader conn request outcome slot added) :
    Event.kept Event.isTurn conn added = Stay.told conn [] slot.stay? := by
  cases hstory with
  | notCopied => rfl
  | notOpened hfirst | openPanicked hfirst | resolvePanicked hfirst =>
    rw [Event.kept_append, Event.kept_append, hfirst.turns, PrivateCopy.turns_deletion]
    rfl
  | notResolved hfirst =>
    rw [Event.kept_append, Event.kept_append, Event.kept_append, hfirst.turns,
      Loader.turns_closing, PrivateCopy.turns_deletion]
    rfl
  | bound hfirst =>
    rw [Event.kept_append, hfirst.turns]
    simp [Event.kept, Event.isTurn, Event.connection?, Stay.told, Slot.stay?, Stay.beginning]

/-- Controllers come and go in turn, as long as the last one has not gone while it is loaded. -/
theorem Slot.fitting_stays (loader : Loader B S L) (conn : ConnectionId) :
    Slot.Fitting loader conn Event.isTurn fun slot events =>
      ∃ past, events = Stay.told conn past slot.stay? where
  remark event hremark := by
    cases event <;> first | rfl | cases hremark
  replacing _ := rfl
  called := by
    rintro controller events ⟨past, rfl⟩
    exact ⟨past, by simp [Event.kept, Event.isTurn]⟩
  released := by
    rintro controller events complaint? ⟨past, rfl⟩
    -- the stay that was not over yet is the last one of those that are
    refine ⟨past ++ [⟨controller.path, controller.symbol⟩], ?_⟩
    rw [LoadedController.turns_parting]
    exact Stay.told_ended conn ⟨controller.path, controller.symbol⟩ past
  forgotten := by
    rintro slot events hslot ⟨past, rfl⟩
    cases slot with
    | loaded controller => cases hslot
    | empty => exact ⟨past, rfl⟩
    | failed path symbol reason => exact ⟨past, rfl⟩
  attached := by
    rintro request outcome slot added events ⟨past, rfl⟩ hstory
    -- whether a stay begins is for the load to say, and the slot says the same
    refine ⟨past, ?_⟩
    rw [hstory.turns]
    simp [Stay.told, Slot.stay?]

end Turns

/-- A connection is in the middle of a stay exactly if it is loaded, and shows what the stay is
about. -/
theorem Registry.status_of_stay (registry : Registry B S L) (conn : ConnectionId) :
    ((registry.slotOf conn).stay?.isSome ↔ registry.status conn = .ok .loaded)
      ∧ ∀ stay, (registry.slotOf conn).stay? = some stay →
        ∃ info, registry.describe? conn = some info ∧ info.path? = some stay.path
          ∧ info.symbol? = some stay.symbol := by
  rw [Host.status_eq_loaded_iff]
  cases hslot : registry.slotOf conn with
  | empty => simp [Slot.stay?, Slot.isLoaded, Slot.status]
  | failed path symbol reason => simp [Slot.stay?, Slot.isLoaded, Slot.status]
  | loaded controller =>
    refine ⟨by simp [Slot.stay?, Slot.isLoaded, Slot.status], ?_⟩
    rintro stay ⟨⟩
    exact ⟨_, Host.describe?_of_loaded hslot, rfl, rfl⟩

/-! ### Shutdowns -/

/-- Releasing a controller tells once that one has gone. -/
theorem LoadedController.unloads_parting {loader : Loader B S L} {conn : ConnectionId}
    (controller : LoadedController S L) (complaint? : Option String) :
    (controller.parting loader conn complaint?).countP Event.isUnload = 1 := by
  have hclosing :
      (loader.closing conn controller.openPath complaint?).countP Event.isUnload = 0 := by
    cases complaint? <;> simp [Loader.closing, Event.isUnload]
  have hdeletion : (PrivateCopy.deletion conn controller.copy?).countP Event.isUnload = 0 := by
    simp [PrivateCopy.deletion, Event.isUnload]
  rw [parting, List.countP_append, List.countP_append, hclosing, hdeletion]
  rfl

/-- Whether an event is about a connection. -/
def Event.hasConnection (event : Event) : Bool := event.connection?.isSome

/-- Nothing that is about a connection is about a shutdown. -/
theorem Event.filter_isShutDown_of_about {events : List Event}
    (habout : ∀ event ∈ events, event.hasConnection) :
    events.filter isShutDown = [] := by
  apply List.filter_eq_nil_iff.2
  intro event hevent hshutDown
  have hconn := habout event hevent
  cases event with
  | shutDown released => cases hconn
  | _ => cases hshutDown

/-- Whether an event only says that a controller is called, or what a payload holds. -/
def Event.isCallNote : Event → Bool
  | calling _ _ | payloadBefore _ _ | payloadAfter _ _ => true
  | _ => false

/-- One world goes on from another with events of a kind. -/
def World.GoesOn (kind : Event → Bool) (world left : World B S) : Prop :=
  ∃ added, left.events = world.events ++ added ∧ ∀ event ∈ added, kind event

section GoesOn

variable {kind : Event → Bool} {world middle left : World B S} {conn : ConnectionId}

theorem World.GoesOn.refl (world : World B S) : world.GoesOn kind world := ⟨[], by simp⟩

/-- What goes on from one world to a second and from there to a third goes on from the first to the
third. -/
theorem World.GoesOn.trans (hfirst : world.GoesOn kind middle) (hsecond : middle.GoesOn kind left) :
    world.GoesOn kind left := by
  obtain ⟨first, hmiddle, hkind⟩ := hfirst
  obtain ⟨second, hleft, hkind'⟩ := hsecond
  refine ⟨first ++ second, by rw [hleft, hmiddle, List.append_assoc], ?_⟩
  intro event hevent
  rcases List.mem_append.1 hevent with h | h
  · exact hkind event h
  · exact hkind' event h

/-- Events of one kind are events of any wider kind. -/
theorem World.GoesOn.mono (hgoes : world.GoesOn kind left) {kind' : Event → Bool}
    (hkind : ∀ event, kind event → kind' event) : world.GoesOn kind' left := by
  obtain ⟨added, hleft, hadded⟩ := hgoes
  exact ⟨added, hleft, fun event hevent => hkind event (hadded event hevent)⟩

/-- Events about one connection name a connection. -/
theorem World.GoesOn.of_areAbout {added : List Event}
    (hevents : left.events = world.events ++ added) (habout : Event.AreAbout conn added) :
    world.GoesOn Event.hasConnection left :=
  ⟨added, hevents, fun event hevent => by simp [Event.hasConnection, habout event hevent]⟩

/-- Telling one event goes on by that event. -/
theorem World.goesOn_tell {event : Event} (hkind : kind event) :
    world.GoesOn kind (world.tell event) :=
  ⟨[event], rfl, by simp [hkind]⟩

/-- The note of a call names the connection called. -/
theorem Event.hasConnection_of_isCallNote (event : Event) (hnote : event.isCallNote) :
    event.hasConnection := by
  cases event <;> first | rfl | cases hnote

/-- What calls tell is recorded with the lowest severity. -/
theorem Event.severity_of_isCallNote {event : Event} {record : Log.Record}
    (hnote : event.isCallNote) (hrecord : event.record? = some record) :
    record.severity = .trace := by
  cases event <;> cases hnote <;> cases hrecord <;> rfl

end GoesOn

namespace Registry

variable (registry : Registry B S L) (conn : ConnectionId) (buffers : CallBuffers)
  (world : World B S)

/-- A call past the checks leaves notes of calls only. -/
theorem goesOn_invokeUnchecked :
    world.GoesOn Event.isCallNote (registry.invokeUnchecked conn buffers world).2 := by
  unfold invokeUnchecked
  cases registry.index conn with
  | error unknown => exact .refl world
  | ok index =>
    simp only
    split
    · rename_i controller hslot
      exact ⟨[.calling conn controller.symbol], by simp [Routine.call_eq, World.tell],
        by simp [Event.isCallNote]⟩
    · exact .refl world

/-- A checked call leaves notes of calls only. -/
theorem goesOn_invoke : world.GoesOn Event.isCallNote (registry.invoke conn buffers world).2 := by
  unfold invoke
  cases registry.index conn with
  | error unknown => exact .refl world
  | ok index =>
    simp only
    split
    · exact .refl world
    · exact registry.goesOn_invokeUnchecked conn buffers world

/-- A call with a payload leaves notes of calls only. -/
theorem goesOn_invokePayload (payload : Payload) :
    world.GoesOn Event.isCallNote (registry.invokePayload conn payload world).2 := by
  have hbefore : world.GoesOn Event.isCallNote
      (world.tell (.payloadBefore conn payload.report)) := World.goesOn_tell rfl
  have hinvoke := registry.goesOn_invoke conn payload.call
    (world.tell (.payloadBefore conn payload.report))
  unfold invokePayload
  split
  · rename_i error left hleft
    rw [hleft] at hinvoke
    exact hbefore.trans hinvoke
  · rename_i call left hleft
    rw [hleft] at hinvoke
    exact (hbefore.trans hinvoke).trans (World.goesOn_tell rfl)

/-- Releasing the slots of a table from a place on tells of each controller that it has gone. -/
theorem events_releaseFrom (loader : Loader B S L) (place : Nat) (slots : List (Slot S L))
    (world : World B S) :
    ∃ added, (releaseFrom loader place slots world).events = world.events ++ added
      ∧ added.countP Event.isUnload = slots.countP Slot.isLoaded
      ∧ ∀ event ∈ added, event.hasConnection := by
  induction slots generalizing place world with
  | nil => exact ⟨[], by simp [releaseFrom]⟩
  | cons slot rest ih =>
    obtain ⟨added, hevents, hcount, habout⟩ :=
      ih (place + 1) (slot.unload loader (.ofIndex place) world).2
    -- only a slot with a controller adds anything to what the rest of the table adds
    cases slot with
    | loaded controller =>
      refine ⟨controller.parting loader (.ofIndex place)
        (loader.complaint? controller.library world) ++ added, ?_, ?_, ?_⟩
      · rw [releaseFrom, hevents]
        simp [Slot.unload, LoadedController.release_eq]
      · rw [List.countP_append, controller.unloads_parting, hcount]
        simp [Slot.isLoaded, Slot.status, Nat.add_comm]
      · intro event hevent
        rcases List.mem_append.1 hevent with h | h
        · simp [Event.hasConnection, controller.about_parting _ event h]
        · exact habout event h
    | empty => exact ⟨added, hevents, by simpa [Slot.isLoaded, Slot.status] using hcount, habout⟩
    | failed path symbol reason =>
      exact ⟨added, hevents, by simpa [Slot.isLoaded, Slot.status] using hcount, habout⟩

/-- What a shutdown tells in the end: how many controllers have gone, if any. -/
def tally : List Event :=
  if registry.loadedCount = 0 then [] else [.shutDown registry.loadedCount]

/-- A shutdown tells of each controller that it has gone, and then how many have. -/
theorem events_shutDown :
    ∃ added, (registry.shutDown world).2.events = world.events ++ (added ++ registry.tally)
      ∧ added.countP Event.isUnload = registry.loadedCount
      ∧ ∀ event ∈ added, event.hasConnection := by
  obtain ⟨added, hevents, hcount, habout⟩ :=
    events_releaseFrom registry.loader 0 registry.slots world
  refine ⟨added, ?_, hcount, habout⟩
  simp only [shutDown, tally]
  split
  · rw [hevents, List.append_nil]
  · rw [World.tell, hevents, List.append_assoc]

end Registry

namespace Host

/-- Every event of a load names a connection, on all its exits. -/
theorem goesOn_loadWith (host : Host B S L) (conn : ConnectionId) (request : LoadRequest) :
    host.world.GoesOn Event.hasConnection (host.registry.loadWith conn request host.world).2.2 := by
  cases hindex : conn.index? host.registry.capacity with
  | none => simpa [Registry.loadWith, Registry.index, hindex] using World.GoesOn.refl host.world
  | some index =>
    cases hfault : Registry.requestFault? request with
    | some fault =>
      simpa [Registry.loadWith, Registry.index, hindex, hfault] using World.GoesOn.refl host.world
    | none =>
      obtain ⟨added, hevents, hstory⟩ := (Slot.attached host.registry.loader
        host.registry.settings.copyDir? conn request (host.released conn)).1.story
      rw [released, Slot.events_vacate, List.append_assoc] at hevents
      have habout : Event.AreAbout conn
          ((host.registry.slotOf conn).leaving host.registry.loader conn host.world ++ added) :=
        Event.areAbout_append.2 ⟨Slot.about_leaving _ _, hstory.about⟩
      rw [loadWith_eq hindex hfault]
      exact .of_areAbout hevents habout

/-- Every event of an unload names a connection. -/
theorem goesOn_unload (host : Host B S L) (conn : ConnectionId) :
    host.world.GoesOn Event.hasConnection (host.registry.unload conn host.world).2.2 := by
  unfold Registry.unload
  cases host.registry.index conn with
  | error unknown => exact .refl host.world
  | ok index =>
    simp only
    cases host.registry.slot index with
    | loaded controller =>
      have hevents : (controller.release host.registry.loader conn host.world).events =
          host.world.events ++ controller.parting host.registry.loader conn
            (host.registry.loader.complaint? controller.library host.world) := by
        rw [LoadedController.release_eq]
      exact .of_areAbout hevents (controller.about_parting _)
    | empty => exact .refl host.world
    | failed path symbol reason => exact .refl host.world

/-- A call tells of nothing but the call. -/
theorem goesOn_of_isCall (host : Host B S L) {operation : Operation} (hcall : operation.isCall) :
    host.world.GoesOn Event.isCallNote (host.next operation).world := by
  cases operation with
  | invoke conn buffers => exact host.registry.goesOn_invoke conn buffers host.world
  | invokeUnchecked conn buffers =>
    exact host.registry.goesOn_invokeUnchecked conn buffers host.world
  | invokePayload conn payload => exact host.registry.goesOn_invokePayload conn host.world payload
  | _ => cases hcall

/-- Every operation but the shutdown tells only of a connection. -/
theorem goesOn_next (host : Host B S L) {operation : Operation}
    (hoperation : operation ≠ .shutDown) :
    host.world.GoesOn Event.hasConnection (host.next operation).world := by
  cases operation with
  | load conn path symbol => exact host.goesOn_loadWith conn _
  | loadWith conn request => exact host.goesOn_loadWith conn request
  | unload conn => exact host.goesOn_unload conn
  | invoke | invokeUnchecked | invokePayload =>
    exact (host.goesOn_of_isCall rfl).mono Event.hasConnection_of_isCallNote
  | status | describe | loadedCount => exact .refl host.world
  | shutDown => exact absurd rfl hoperation

/-- What is captured about coming and going are the records of stays, if the events are stays. -/
theorem turns_captured {host : Host B S L} {level : Log.DebugLevel} (hlevel : level ≠ .disabled)
    {conn : ConnectionId} (hfits : host.Fits Event.isTurn
      (fun slot events => ∃ past, events = Stay.told conn past slot.stay?) conn) :
    ∃ past, (host.world.captured level).filter (Log.Record.isTurn conn) =
      Stay.records conn past (host.registry.slotOf conn).stay? := by
  obtain ⟨past, hpast⟩ := hfits
  refine ⟨past, ?_⟩
  rw [World.captured_eq, Event.captured_turns hlevel, ← Stay.filterMap_told, ← hpast]
  rfl

/-- **The log is an audit trail.** Take any run over any loader, any debug level but the lowest, and
any connection. What is captured about the connection are stays, one after another, each with the
record of the controller's coming and, with the same path, the record of its going. The last one has
not ended exactly if the connection is loaded, and then its path and entry point are those that the
connection shows. Once the registry is given up all of them have ended. No operation but a shutdown
adds a record about shutdowns. A shutdown, which is also how the registry is given up, adds one if
it has released any connection, with the number of the records about controllers that have gone with
it. -/
theorem log_audits (loader : Loader B S L) (settings : Settings) (world : World B S)
    (operations : List Operation) (level : Log.DebugLevel) (conn : ConnectionId)
    (hlevel : level ≠ .disabled) :
    let host := (Host.start loader settings world).after operations
    (∃ past now?,
        (host.world.captured level).filter (Log.Record.isTurn conn) =
            Stay.records conn past now?
          ∧ (now?.isSome ↔ host.registry.status conn = .ok .loaded)
          ∧ ∀ stay, now? = some stay →
            ∃ info, host.registry.describe? conn = some info ∧ info.path? = some stay.path
              ∧ info.symbol? = some stay.symbol)
      ∧ (∃ past,
        (host.drop.captured level).filter (Log.Record.isTurn conn) = Stay.records conn past none)
      ∧ (∀ operation ≠ .shutDown, ∃ added,
        (host.next operation).world.captured level = host.world.captured level ++ added
          ∧ added.filter Log.Record.isShutDown = [])
      ∧ (host.next .shutDown).world = host.drop
      ∧ ∃ added, host.drop.captured level = host.world.captured level ++ added
        ∧ added.countP Log.Record.isUnload = host.registry.loadedCount
        ∧ added.filter Log.Record.isShutDown =
          if host.registry.loadedCount = 0 then []
          else [⟨.info, .registry, "registry shut down",
            [("released", toString (added.countP Log.Record.isUnload))]⟩] := by
  intro host
  obtain ⟨hfits, hfits'⟩ :=
    fits_after_and_emptied (Slot.fitting_stays loader conn) ⟨[], rfl⟩ settings world operations
  have hstatus := host.registry.status_of_stay conn
  refine ⟨?_, ?_, ?_, rfl, ?_⟩
  · obtain ⟨past, hturns⟩ := turns_captured hlevel hfits
    exact ⟨past, _, hturns, hstatus⟩
  · obtain ⟨past, hturns⟩ := turns_captured hlevel hfits'
    rw [slotOf_emptied] at hturns
    exact ⟨past, hturns⟩
  -- what is about connections is not about shutdowns
  · intro operation hoperation
    obtain ⟨added, hevents, habout⟩ := host.goesOn_next hoperation
    refine ⟨Event.captured level added, ?_, ?_⟩
    · rw [World.captured_eq, hevents, Event.captured_append, ← World.captured_eq]
    · rw [Event.captured_shutDowns hlevel, Event.filter_isShutDown_of_about habout]
      rfl
  -- the tally of a shutdown counts what the shutdown has told before it
  · obtain ⟨added, hevents, hcount, habout⟩ := host.registry.events_shutDown host.world
    have hreleased : (Event.captured level (added ++ host.registry.tally)).countP
        Log.Record.isUnload = host.registry.loadedCount := by
      rw [Event.captured_unloads hlevel, List.countP_append, hcount, Registry.tally]
      split <;> rfl
    refine ⟨Event.captured level (added ++ host.registry.tally), ?_, hreleased, ?_⟩
    · rw [World.captured_eq, drop, hevents, Event.captured_append, ← World.captured_eq]
    · rw [hreleased, Event.captured_shutDowns hlevel, List.filter_append,
        Event.filter_isShutDown_of_about habout, Registry.tally]
      split <;> rfl

/-- A catalog that complains about every library that it has closed. A connection is loaded twice,
and a third time when the catalog has given up over another path; another connection is not loaded,
because the catalog gives up over its entry point as well. One stay is not over yet, and the
registry's end ends it. -/
theorem log_audits_complaints :
    let catalog : Catalog Nat := Catalog.register {} (.ofText "ctrl") "DISCON" .tally
    let loader := catalog.loader
      { openPanic? := fun path => if path.shown = "panic-open" then some "panic" else none
        resolvePanic? := fun symbol => if symbol = "panic-resolve" then some "panic" else none
        complaint? := some "complaint" }
    let world : World Tally Nat := { tempDir := .ofText "/tmp", books := {}, state := 0 }
    let operations : List Operation :=
      [.load 0 (.ofText "ctrl") "DISCON", .load 0 (.ofText "ctrl") "DISCON",
        .load 1 (.ofText "ctrl") "panic-resolve", .load 0 (.ofText "panic-open") "DISCON",
        .load 0 (.ofText "ctrl") "DISCON"]
    let host := (Host.start loader { maxConnections := 2 } world).after operations
    Log.DebugLevel.basic ≠ .disabled
      ∧ (∃ past stay, (host.world.captured .basic).filter (Log.Record.isTurn 0) =
        Stay.records 0 past (some stay) ∧ stay.path.shown = "ctrl" ∧ stay.symbol = "DISCON")
      ∧ (∃ past,
        (host.drop.captured .basic).filter (Log.Record.isTurn 0) = Stay.records 0 past none)
      ∧ ∃ added, host.drop.captured .basic = host.world.captured .basic ++ added
        ∧ added.filter Log.Record.isShutDown =
          [⟨.info, .registry, "registry shut down", [("released", "1")]⟩] := by
  intro catalog loader world operations host
  have hlevel : Log.DebugLevel.basic ≠ .disabled := by decide
  have hstatus : host.registry.status 0 = .ok .loaded := by decide +kernel
  have hinfo : host.registry.describe? 0 =
      some ⟨.loaded, some (.ofText "ctrl"), some "DISCON", none, none⟩ := by decide +kernel
  have hcount : host.registry.loadedCount = 1 := by decide +kernel
  obtain ⟨⟨past, now?, hturns, hloaded, hshows⟩, hended, -, -, added, hadded, hunloads,
    hshutDown⟩ :=
    log_audits loader { maxConnections := 2 } world operations .basic 0 hlevel
  obtain ⟨stay, rfl⟩ := Option.isSome_iff_exists.1 (hloaded.2 hstatus)
  obtain ⟨info, hdescribed, hpath, hsymbol⟩ := hshows stay rfl
  obtain rfl := Option.some.inj (hinfo.symm.trans hdescribed)
  refine ⟨hlevel, ⟨past, stay, hturns, ?_, (Option.some.inj hsymbol).symm⟩, hended, added, hadded,
    ?_⟩
  · rw [← Option.some.inj hpath]
    decide +kernel
  · rw [hshutDown, hunloads, hcount]
    decide +kernel

end Host

end ControllerHost
