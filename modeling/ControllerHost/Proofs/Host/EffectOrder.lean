import ControllerHost.Proofs.Host.Chronicle

/-!
# The order of effects in a run

In every run the effects of a connection are visits, one after another. Only the last one may be
under way, and it is so exactly while the connection is loaded. So whatever a connection holds is
given up in the right order, and before anything else is taken.

- `Slot.fitting_visits`: visits fit what is done to a slot.
- `Host.InOrder`, `Host.InOrder.change`: the effects of a connection are visits, and every change
  keeps them so.
- `Host.effects_in_visits`: the effects of every run, and of giving up the registry after it.
-/

namespace ControllerHost

variable {B S L : Type}

theorem Event.isEffect_of_isRemark {event : Event} (hremark : event.isRemark) :
    event.isEffect = false := by
  cases event <;> first | rfl | cases hremark

/-- Effects are visits as long as a slot is in the middle of the last one or of none. -/
theorem Slot.fitting_visits (loader : Loader B S L) (conn : ConnectionId) :
    Slot.Fitting loader conn Event.isEffect fun slot events =>
      ∃ visits current?, events = Visit.words conn visits ++ Visit.current conn current?
        ∧ slot.Underway loader current? where
  remark _ := Event.isEffect_of_isRemark
  replacing _ := rfl
  called := by
    rintro controller events ⟨visits, current?, rfl, hcurrent⟩
    cases hcurrent with
    | loaded calls =>
      -- a call is one more call of the visit that is under way
      have hcall : Event.kept Event.isEffect conn [.calling conn controller.symbol] =
          [.calling conn (controller.visit loader).symbol] := by
        simp [Event.kept, Event.isEffect, Event.connection?, LoadedController.visit]
      refine ⟨visits, some (controller.visit loader, calls + 1), ?_, .loaded (calls + 1)⟩
      rw [hcall, Visit.current_some, Visit.current_some, Visit.begun_succ, List.append_assoc]
  released := by
    rintro controller events complaint? ⟨visits, current?, rfl, hcurrent⟩
    cases hcurrent with
    | loaded calls =>
      refine ⟨visits ++ [(controller.visit loader, .called calls complaint?.isSome)], none, ?_,
        .empty⟩
      change _ ++ Event.effects conn (controller.parting loader conn complaint?) = _
      rw [Visit.current_some, List.append_assoc, LoadedController.begun_parting,
        Visit.words_append, Visit.current_none, List.append_nil]
  forgotten := by
    rintro slot events hslot ⟨visits, current?, rfl, hcurrent⟩
    refine ⟨visits, current?, rfl, ?_⟩
    cases hcurrent with
    | empty => exact .empty
    | failed => exact .empty
    | loaded calls => cases hslot
  attached := by
    rintro request outcome slot added events ⟨visits, current?, rfl, hcurrent⟩ hstory
    cases hcurrent
    -- a load into an empty slot makes a whole visit, or begins one
    obtain ⟨visits', current?', heffects, hcurrent'⟩ := hstory.underway
    refine ⟨visits ++ visits', current?', ?_, hcurrent'⟩
    change _ ++ Event.effects conn added = _
    rw [heffects, Visit.words_append, Visit.current_none, List.append_nil, List.append_assoc]

namespace Host

/-- The effects of a connection are visits. The last one is under way if the slot of the connection
is in the middle of one. -/
def InOrder (conn : ConnectionId) (host : Host B S L) : Prop :=
  ∃ visits current?,
    Event.effects conn host.world.events = Visit.words conn visits ++ Visit.current conn current?
      ∧ (host.registry.slotOf conn).Underway host.registry.loader current?

/-- Every change keeps the effects of a connection in order. -/
theorem InOrder.change {conn : ConnectionId} {host left : Host B S L}
    {load? : Option (ConnectionId × LoadRequest)} (hplaced : host.Placed)
    (horder : host.InOrder conn) (hchange : Change host load? left) : left.InOrder conn := by
  unfold InOrder
  rw [hchange.constants.1]
  refine Fits.change ?_ (Slot.fitting_visits host.registry.loader conn) hplaced hchange
  exact horder

/-- A connection whose slot is in the middle of a visit is loaded, and shows what the visit is
about. -/
theorem status_of_underway {registry : Registry B S L} {conn : ConnectionId}
    {current? : Option (Visit × Nat)}
    (hcurrent : (registry.slotOf conn).Underway registry.loader current?) :
    (current?.isSome ↔ registry.status conn = .ok .loaded)
      ∧ ∀ visit calls, current? = some (visit, calls) →
        registry.describe? conn =
          some ⟨.loaded, some visit.path, some visit.symbol, visit.copy?, none⟩ := by
  rw [status_eq_loaded_iff]
  generalize hslot : registry.slotOf conn = slot at hcurrent
  cases hcurrent with
  | empty => simp [Slot.isLoaded, Slot.status]
  | failed => simp [Slot.isLoaded, Slot.status]
  | @loaded controller calls =>
    refine ⟨by simp [Slot.isLoaded, Slot.status], ?_⟩
    rintro visit calls' ⟨⟩
    exact describe?_of_loaded hslot

theorem Change.events_prefix {host left : Host B S L} {load? : Option (ConnectionId × LoadRequest)}
    (hchange : Change host load? left) : host.world.events <+: left.world.events := by
  cases hchange with
  | remarked hremarks => exact List.prefix_append _ _
  | called hindex hslot hbefore hafter =>
    simp only [Routine.call_eq, World.tells, World.tell, List.append_assoc]
    exact List.prefix_append _ _
  | loaded hindex hexit =>
    obtain ⟨added, hevents, -⟩ := hexit.story
    rw [released, Slot.events_vacate, List.append_assoc] at hevents
    rw [hevents]
    exact List.prefix_append _ _
  | unloaded hplace hslot =>
    rw [LoadedController.release_eq]
    exact List.prefix_append _ _
  | forgotten hplace hslot => exact List.prefix_rfl

theorem inOrder_start (loader : Loader B S L) (settings : Settings) (world : World B S)
    (conn : ConnectionId) : (start loader settings world).InOrder conn := by
  refine ⟨[], none, rfl, ?_⟩
  rw [slotOf_start]
  exact .empty

/-- **Effects come in visits.** After every run over every loader, the effects of a connection are
whole visits, and then one that has come to its calls exactly if the connection is loaded. Giving up
the registry goes on from there and ends the last visit. In all of that nothing is done that what
the connection holds does not allow, and in the end nothing is held. -/
theorem effects_in_visits (loader : Loader B S L) (settings : Settings) (world : World B S)
    (operations : List Operation) (conn : ConnectionId) :
    let host := (Host.start loader settings world).after operations
    (∃ visits current?,
        Event.effects conn host.world.events =
            Visit.words conn visits ++ Visit.current conn current?
          ∧ (current?.isSome ↔ host.registry.status conn = .ok .loaded)
          ∧ ∀ visit calls, current? = some (visit, calls) →
            host.registry.describe? conn =
              some ⟨.loaded, some visit.path, some visit.symbol, visit.copy?, none⟩)
      ∧ (∃ visits, Event.effects conn host.drop.events = Visit.words conn visits)
      ∧ Event.effects conn host.world.events <+: Event.effects conn host.drop.events
      ∧ (∀ before event rest, Event.effects conn host.drop.events = before ++ event :: rest →
          (Holdings.of before).Allows event)
      ∧ Holdings.of (Event.effects conn host.drop.events) = {} := by
  intro host
  -- the order of effects is kept together with the places of the controllers
  have hkept {host left : Host B S L} {load? : Option (ConnectionId × LoadRequest)}
      (hhost : host.Placed ∧ host.InOrder conn) (hchange : Change host load? left) :
      left.Placed ∧ left.InOrder conn :=
    ⟨hhost.1.change hchange, hhost.2.change hhost.1 hchange⟩
  have hhost : host.Placed ∧ host.InOrder conn :=
    after_of_change hkept ⟨placed_start loader settings world,
      inOrder_start loader settings world conn⟩ operations
  obtain ⟨visits, current?, heffects, hcurrent⟩ := hhost.2
  obtain ⟨all, last?, hall, hlast⟩ := (emptied_of_change hkept hhost).2
  -- with everything given up, no visit is under way
  have hnone : last? = none := by
    rw [slotOf_emptied] at hlast
    cases hlast
    rfl
  rw [hnone, Visit.current_none, List.append_nil] at hall
  have hbegins : host.world.events <+: host.emptied.world.events :=
    emptied_of_change (motive := fun left => host.world.events <+: left.world.events)
      (fun hfirst hchange => hfirst.trans hchange.events_prefix) List.prefix_rfl
  obtain ⟨hproper, hnothing⟩ := Holdings.proper_words conn all
  refine ⟨⟨visits, current?, heffects, status_of_underway hcurrent⟩, ⟨all, hall⟩,
    hbegins.filter _, ?_, ?_⟩
  -- what happened until some effect is a beginning of proper events
  · intro before event rest hsplit
    rw [hall.symm.trans hsplit] at hproper
    exact hproper.allows
  · rw [← hnothing, ← hall]
    rfl

end Host

end ControllerHost
