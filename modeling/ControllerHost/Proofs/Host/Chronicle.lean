import ControllerHost.Proofs.Host.Step
import ControllerHost.Proofs.Slot.Visits

/-!
# What the events of a connection say about its slot

For some purpose only some kinds of events count. Whether the events of a connection that count fit
the slot that it has is a question about loads, calls and releases of that one connection. This file
reduces it to them: what fits in the beginning, and goes on to fit whenever something is done to the
slot, fits after every run, whatever is done to other connections meanwhile.

- `Event.kept`: the events of a connection that count.
- `Slot.Fitting`: what to show about loads, calls and releases.
- `Host.Fits`, `Host.Fits.change`: the events that count fit the slot, and every change keeps it so.
- `Host.fits_after_and_emptied`: they fit after every run, and once everything is given up.
-/

namespace ControllerHost

variable {B S L : Type}

variable {keep : Event → Bool} {conn : ConnectionId} {loader : Loader B S L}

namespace Event

/-- The events of a connection that count. -/
def kept (keep : Event → Bool) (conn : ConnectionId) (events : List Event) : List Event :=
  events.filter fun event => keep event && event.connection? = some conn

@[simp]
theorem kept_nil : kept keep conn [] = [] := rfl

@[simp]
theorem kept_append (first second : List Event) :
    kept keep conn (first ++ second) = kept keep conn first ++ kept keep conn second :=
  List.filter_append first second

theorem kept_of_remarks (hkeep : ∀ event, event.isRemark → keep event = false)
    {events : List Event} (hremarks : ∀ event ∈ events, event.isRemark) :
    kept keep conn events = [] := by
  apply List.filter_eq_nil_iff.2
  intro event hevent
  simp [hkeep event (hremarks event hevent)]

theorem kept_of_other {other : ConnectionId} (hother : other ≠ conn) {events : List Event}
    (habout : AreAbout other events) : kept keep conn events = [] := by
  apply List.filter_eq_nil_iff.2
  intro event hevent
  simp [habout event hevent, hother]

end Event

/-- The events of a connection that count fit its slot whatever is done to the slot: when its
controller is called or released, when it is emptied without one, and when a load goes into it. -/
structure Slot.Fitting (loader : Loader B S L) (conn : ConnectionId) (keep : Event → Bool)
    (fits : Slot S L → List Event → Prop) : Prop where
  /-- Remarks do not count. -/
  remark : ∀ event, event.isRemark → keep event = false
  /-- That a controller makes room does not count. -/
  replacing : ∀ path, keep (.replacing conn path) = false
  /-- Calling a controller. -/
  called : ∀ {controller events}, fits (.loaded controller) events →
    fits (.loaded controller) (events ++ Event.kept keep conn [.calling conn controller.symbol])
  /-- Releasing a controller, whatever the loader says about it. -/
  released : ∀ {controller events complaint?}, fits (.loaded controller) events →
    fits .empty (events ++ Event.kept keep conn (controller.parting loader conn complaint?))
  /-- Emptying a slot without a controller. -/
  forgotten : ∀ {slot events}, slot.isLoaded = false → fits slot events → fits .empty events
  /-- A load into an empty slot. -/
  attached : ∀ {request outcome slot added events}, fits .empty events →
    Slot.Story loader conn request outcome slot added →
      fits slot (events ++ Event.kept keep conn added)

variable {fits : Slot S L → List Event → Prop}

/-- Making room for another controller leaves an empty slot. -/
theorem Slot.Fitting.left (hfitting : Slot.Fitting loader conn keep fits) {slot : Slot S L}
    {events : List Event} (hfits : fits slot events) (world : World B S) :
    fits .empty (events ++ Event.kept keep conn (slot.leaving loader conn world)) := by
  cases slot with
  | loaded controller =>
    have hparting : Event.kept keep conn (Slot.leaving (.loaded controller) loader conn world) =
        Event.kept keep conn
          (controller.parting loader conn (loader.complaint? controller.library world)) := by
      simp [Slot.leaving, Event.kept, hfitting.replacing]
    rw [hparting]
    exact hfitting.released hfits
  | empty => simpa [Slot.leaving] using hfits
  | failed path symbol reason => simpa [Slot.leaving] using hfitting.forgotten rfl hfits

namespace Host

/-- The events of a connection that count fit the slot that it has. -/
def Fits (keep : Event → Bool) (fits : Slot S L → List Event → Prop) (conn : ConnectionId)
    (host : Host B S L) : Prop :=
  fits (host.registry.slotOf conn) (Event.kept keep conn host.world.events)

/-- Events that do not count go on fitting a slot that stays as it is. -/
theorem Fits.same {host left : Host B S L} (hfits : host.Fits keep fits conn) {added : List Event}
    (hevents : left.world.events = host.world.events ++ added)
    (hadded : Event.kept keep conn added = [])
    (hslot : left.registry.slotOf conn = host.registry.slotOf conn) :
    left.Fits keep fits conn := by
  unfold Fits
  rw [hevents, Event.kept_append, hadded, List.append_nil, hslot]
  exact hfits

/-- What is done to another connection does not count, and leaves this one's slot as it is. -/
theorem Fits.other {host : Host B S L} (hfits : host.Fits keep fits conn) {other : ConnectionId}
    {index : Nat} {slot : Slot S L} {world : World B S} {added : List Event}
    (hindex : other.index? host.registry.capacity = some index) (hne : other ≠ conn)
    (hevents : world.events = host.world.events ++ added) (habout : Event.AreAbout other added) :
    (Host.mk (host.registry.setSlot index slot) world).Fits keep fits conn :=
  hfits.same hevents (Event.kept_of_other hne habout)
    (by rw [slotOf_setSlot_of_index? hindex, if_neg (Ne.symm hne)])

/-- What fits a slot goes on fitting once the slot is in the connection's place. -/
theorem fits_setSlot {host : Host B S L} {index : Nat} {slot : Slot S L} {world : World B S}
    (hindex : conn.index? host.registry.capacity = some index)
    (hleft : fits slot (Event.kept keep conn world.events)) :
    (Host.mk (host.registry.setSlot index slot) world).Fits keep fits conn := by
  unfold Fits
  rw [slotOf_setSlot_of_index? hindex, if_pos rfl]
  exact hleft

/-- A call is one event that may count, among remarks. -/
theorem Fits.called {host : Host B S L} (hfits : host.Fits keep fits conn)
    (hfitting : Slot.Fitting host.registry.loader conn keep fits) {other : ConnectionId}
    {index : Nat} {controller : LoadedController S L} {left : World B S} {before after : List Event}
    (hindex : other.index? host.registry.capacity = some index)
    (hslot : host.registry.slot index = .loaded controller)
    (hbefore : ∀ event ∈ before, event.isRemark) (hafter : ∀ event ∈ after, event.isRemark)
    (hevents : left.events =
      host.world.events ++ (before ++ [.calling other controller.symbol] ++ after)) :
    (Host.mk host.registry left).Fits keep fits conn := by
  have hcalling : Event.kept keep conn (before ++ [.calling other controller.symbol] ++ after) =
      Event.kept keep conn [.calling other controller.symbol] := by
    rw [Event.kept_append, Event.kept_append, Event.kept_of_remarks hfitting.remark hbefore,
      Event.kept_of_remarks hfitting.remark hafter, List.nil_append, List.append_nil]
  by_cases hconn : other = conn
  · subst hconn
    unfold Fits at hfits ⊢
    rw [slotOf_of_index? hindex, hslot] at hfits ⊢
    rw [hevents, Event.kept_append, hcalling]
    exact hfitting.called hfits
  · refine hfits.same hevents ?_ rfl
    rw [hcalling]
    exact Event.kept_of_other hconn (by simp [Event.connection?])

/-- Every change keeps the events that count fitting. -/
theorem Fits.change {host left : Host B S L} {load? : Option (ConnectionId × LoadRequest)}
    (hfits : host.Fits keep fits conn)
    (hfitting : Slot.Fitting host.registry.loader conn keep fits) (hplaced : host.Placed)
    (hchange : Change host load? left) : left.Fits keep fits conn := by
  cases hchange with
  | remarked hremarks =>
    exact hfits.same rfl (Event.kept_of_remarks hfitting.remark hremarks) rfl
  | called hindex hslot hbefore hafter =>
    refine hfits.called hfitting hindex hslot hbefore hafter ?_
    simp [Routine.call_eq, World.tells, World.tell]
  | @loaded other request index slot left hindex hexit =>
    -- first what the slot held leaves it, and then the load tells its story
    obtain ⟨added, hevents, hstory⟩ := hexit.story
    rw [released, Slot.events_vacate, List.append_assoc] at hevents
    by_cases hconn : other = conn
    · subst hconn
      apply fits_setSlot hindex
      rw [hevents, Event.kept_append, Event.kept_append, ← List.append_assoc]
      exact hfitting.attached (hfitting.left hfits host.world) hstory
    · exact hfits.other hindex hconn hevents (by simp [Slot.about_leaving, hstory.about])
  | @unloaded place controller hplace hslot =>
    -- no two connections go by a place where something is loaded
    have hbound : place < 0x80000000 := hplaced place (by rw [hslot]; rfl)
    have hindex := ConnectionId.index?_ofIndex hbound hplace
    have hevents : (controller.release host.registry.loader (.ofIndex place) host.world).events =
        host.world.events ++ controller.parting host.registry.loader (.ofIndex place)
          (host.registry.loader.complaint? controller.library host.world) := by
      rw [LoadedController.release_eq]
    by_cases hconn : ConnectionId.ofIndex place = conn
    · subst hconn
      apply fits_setSlot hindex
      unfold Fits at hfits
      rw [slotOf_of_index? hindex, hslot] at hfits
      rw [hevents, Event.kept_append]
      exact hfitting.released hfits
    · exact hfits.other hindex hconn hevents (controller.about_parting _)
  | @forgotten place hplace hslot =>
    unfold Fits at hfits ⊢
    rw [slotOf_setSlot hplace]
    split
    · rename_i hindex
      rw [slotOf_of_index? hindex] at hfits
      exact hfitting.forgotten hslot hfits
    · exact hfits

/-- The events that count fit after every run, and once everything has been given up after it. -/
theorem fits_after_and_emptied (hfitting : Slot.Fitting loader conn keep fits)
    (hstart : fits .empty []) (settings : Settings) (world : World B S)
    (operations : List Operation) :
    let host := (start loader settings world).after operations
    host.Fits keep fits conn ∧ host.emptied.Fits keep fits conn := by
  intro host
  -- what the events fit is kept along with what a change takes for granted
  let motive (host : Host B S L) : Prop :=
    host.registry.loader = loader ∧ host.Placed ∧ host.Fits keep fits conn
  have hkept {host left : Host B S L} {load? : Option (ConnectionId × LoadRequest)}
      (hhost : motive host) (hchange : Change host load? left) : motive left := by
    obtain ⟨hloader, hplaced, hfits⟩ := hhost
    refine ⟨hchange.constants.1.trans hloader, hplaced.change hchange, ?_⟩
    subst hloader
    exact hfits.change hfitting hplaced hchange
  have hfirst : (start loader settings world).Fits keep fits conn := by
    unfold Fits
    rw [slotOf_start]
    exact hstart
  have hhost : motive host :=
    after_of_change hkept ⟨rfl, placed_start loader settings world, hfirst⟩ operations
  exact ⟨hhost.2.2, (emptied_of_change hkept hhost).2.2⟩

end Host

end ControllerHost
