import ControllerHost.Catalog
import ControllerHost.Controller.Samples
import ControllerHost.Proofs.Host.Step

/-!
# Shutting down is unloading

A shutdown releases a table of slots by itself, without asking for one connection after another. It
does to the world what unloading every connection does, in the order of their numbers, and all that
it does besides is to forget failed loads and to say how many controllers have gone. What has been
shut down can be shut down again, and nothing happens.

- `Slot.forgotten`, `Registry.forgetful`: slots and registries without the memory of failed loads.
- `Operation.unloads`: unloading every connection of a table.
- `Host.after_unloads`: what unloading the connections of a part of a table leaves.
- `Registry.IsVacant`, `Registry.shutDown_of_isVacant`: tables with nothing in them.
- `Host.shutDown_eq_unloads`: what every shutdown leaves, and what a second one does.
-/

namespace ControllerHost

variable {B S L : Type}

/-- A slot without the memory of a failed load. -/
def Slot.forgotten : Slot S L → Slot S L
  | failed _ _ _ => empty
  | slot => slot

/-- A registry in which failed loads are forgotten, and what is loaded stays. -/
def Registry.forgetful (registry : Registry B S L) : Registry B S L :=
  { registry with slots := registry.slots.map Slot.forgotten }

/-- Unloading every connection of a table of some size, in the order of their numbers. -/
def Operation.unloads (capacity : Nat) : List Operation :=
  (List.range capacity).map fun number => .unload (Int32.ofNat number)

/-- Once a slot has been unloaded, there is a failed load to forget at most. -/
theorem Slot.forgotten_unload (slot : Slot S L) (loader : Loader B S L) (conn : ConnectionId)
    (world : World B S) : (slot.unload loader conn world).1.forgotten = .empty := by
  cases slot <;> rfl

namespace Host

/-- Unloading the connections from a place of a table on releases their slots, and leaves failed
loads to be forgotten. -/
theorem after_unloads (loader : Loader B S L) (settings : Settings) (done rest : List (Slot S L))
    (world : World B S) (hbound : done.length + rest.length ≤ 0x80000000) :
    ∃ left, Host.after ⟨⟨loader, settings, done ++ rest⟩, world⟩
        ((List.range' done.length rest.length).map fun number => .unload (Int32.ofNat number)) =
          ⟨⟨loader, settings, done ++ left⟩, Registry.releaseFrom loader done.length rest world⟩
      ∧ left.map Slot.forgotten = rest.map fun _ => .empty := by
  -- on the slots that are left, where each step adds what is left of one slot to `done`
  induction rest generalizing done world with
  | nil => exact ⟨[], rfl, rfl⟩
  | cons slot rest ih =>
    rw [List.length_cons] at hbound
    let conn : ConnectionId := .ofIndex done.length
    have hconn : Int32.ofNat done.length = conn := (if_pos (by omega)).symm
    let host : Host B S L := ⟨⟨loader, settings, done ++ slot :: rest⟩, world⟩
    have hindex : conn.index? host.registry.capacity = some done.length :=
      ConnectionId.index?_ofIndex (by omega) (by simp [host, Registry.capacity])
    have hslot : host.registry.slot done.length = slot := by simp [host, Registry.slot]
    have hnext : host.next (.unload conn) =
        ⟨⟨loader, settings, (done ++ [(slot.unload loader conn world).1]) ++ rest⟩,
          (slot.unload loader conn world).2⟩ := by
      simp only [next, perform, Registry.unload, Registry.index, hindex, hslot]
      simp [host, Registry.setSlot]
    obtain ⟨left, hafter, hforgotten⟩ :=
      ih (done ++ [(slot.unload loader conn world).1]) (slot.unload loader conn world).2
        (by rw [List.length_append, List.length_singleton]; omega)
    rw [List.length_append, List.length_singleton] at hafter
    refine ⟨(slot.unload loader conn world).1 :: left, ?_, ?_⟩
    · rw [List.length_cons, List.range'_succ, List.map_cons, after_cons, hconn, hnext, hafter]
      simp [Registry.releaseFrom, conn]
    · rw [List.map_cons, List.map_cons, Slot.forgotten_unload, hforgotten]

end Host

/-! ### Nothing left -/

namespace Registry

/-- Nothing is loaded in a table, and no failed load is remembered. -/
def IsVacant (registry : Registry B S L) : Prop := ∀ slot ∈ registry.slots, slot = .empty

variable {registry : Registry B S L}

theorem isVacant_shutDown (registry : Registry B S L) (world : World B S) :
    (registry.shutDown world).1.IsVacant := by
  intro slot hslot
  obtain ⟨old, -, rfl⟩ := List.mem_map.1 hslot
  rfl

theorem IsVacant.setSlot_empty (hvacant : registry.IsVacant) (place : Nat) :
    (registry.setSlot place .empty).IsVacant :=
  Registry.forall_mem_setSlot hvacant rfl place

theorem releaseFrom_of_empty (loader : Loader B S L) (place : Nat) {slots : List (Slot S L)}
    (hslots : ∀ slot ∈ slots, slot = .empty) (world : World B S) :
    releaseFrom loader place slots world = world := by
  induction slots generalizing place with
  | nil => rfl
  | cons slot rest ih =>
    obtain ⟨rfl, hrest⟩ := List.forall_mem_cons.1 hslots
    exact ih (place + 1) hrest

/-- Where there is nothing to give up, a shutdown does nothing. -/
theorem shutDown_of_isVacant (hvacant : registry.IsVacant) (world : World B S) :
    registry.shutDown world = (registry, world) := by
  have hcount : registry.loadedCount = 0 := by
    rw [loadedCount, List.countP_eq_zero]
    intro slot hslot
    simp [hvacant slot hslot, Slot.isLoaded, Slot.status]
  have hslots : registry.slots.map (fun _ => Slot.empty) = registry.slots :=
    (List.map_congr_left fun slot hslot => (hvacant slot hslot).symm).trans (List.map_id _)
  simp only [shutDown, hcount, if_true, hslots, releaseFrom_of_empty _ _ hvacant]

end Registry

namespace Host

/-- Without a load, nothing comes into a table that has nothing in it. -/
theorem Change.isVacant {host left : Host B S L} (hchange : Change host none left)
    (hvacant : host.registry.IsVacant) : left.registry.IsVacant := by
  cases hchange with
  | remarked hremarks => exact hvacant
  | called hindex hslot hbefore hafter => exact hvacant
  | unloaded hplace hslot => exact hvacant.setSlot_empty _
  | forgotten hplace hslot => exact hvacant.setSlot_empty _

theorem Changes.isVacant {host left : Host B S L} (hchanges : Changes host left)
    (hvacant : host.registry.IsVacant) : left.registry.IsVacant := by
  induction hchanges with
  | nothing => exact hvacant
  | more hchange hrest ih => exact ih (hchange.isVacant hvacant)

/-- A run without a load leaves a table with nothing in it as it is. -/
theorem isVacant_after {host : Host B S L} (hvacant : host.registry.IsVacant)
    {operations : List Operation}
    (hloads : ∀ operation ∈ operations, operation.request? host.registry.settings = none) :
    (host.after operations).registry.IsVacant := by
  induction operations generalizing host with
  | nil => exact hvacant
  | cons operation rest ih =>
    obtain ⟨hload, hrest⟩ := List.forall_mem_cons.1 hloads
    have haccepted : host.accepted? operation = none := by rw [accepted?, hload, Option.bind_none]
    have hnext : (host.next operation).registry.IsVacant := by
      rcases host.change operation with hchange | ⟨-, hchanges⟩
      · rw [haccepted] at hchange
        exact hchange.isVacant hvacant
      · exact hchanges.isVacant hvacant
    refine ih hnext ?_
    rw [show (host.next operation).registry.settings = host.registry.settings from
      (host.after_constants [operation]).2.1]
    exact hrest

/-- **A shutdown is the unloading of every connection.** In every host whose connections all have
numbers, whatever its slots hold and wherever its libraries come from, a shutdown leaves what
unloading the connections leaves, one after another in the order of their numbers: the same files,
the same books of the loader and the same state of the controllers, and the same events in the same
order, each with the same connection. It only forgets failed loads besides, and says in one more
event how many connections were loaded, if any. As long as nothing is loaded after it, another
shutdown leaves the host as it is, and so does giving up the registry. -/
theorem shutDown_eq_unloads (host : Host B S L) (hcapacity : host.registry.capacity ≤ 0x80000000) :
    let unloaded := host.after (Operation.unloads host.registry.capacity)
    let shut := host.next .shutDown
    shut =
        { registry := unloaded.registry.forgetful
          world := unloaded.world.tells
            (if 0 < host.registry.loadedCount then [.shutDown host.registry.loadedCount] else []) }
      ∧ ∀ operations : List Operation,
        (∀ operation ∈ operations, operation.request? host.registry.settings = none) →
          (shut.after operations).next .shutDown = shut.after operations
            ∧ (shut.after operations).drop = (shut.after operations).world := by
  intro unloaded shut
  obtain ⟨left, hafter, hforgotten⟩ := after_unloads host.registry.loader host.registry.settings []
    host.registry.slots host.world (by simpa [Registry.capacity] using hcapacity)
  -- the unloads, one connection after another, come to releasing the whole table
  have hunloaded : unloaded =
      ⟨⟨host.registry.loader, host.registry.settings, left⟩,
        Registry.releaseFrom host.registry.loader 0 host.registry.slots host.world⟩ := by
    rw [List.length_nil, ← List.range_eq_range'] at hafter
    exact hafter
  refine ⟨?_, fun operations hloads => ?_⟩
  · rw [hunloaded]
    simp only [Registry.forgetful, hforgotten, shut, next, perform, Registry.shutDown]
    by_cases hcount : host.registry.loadedCount = 0
    · simp [hcount]
    · simp [hcount, Nat.pos_of_ne_zero hcount, World.tell, World.tells]
  -- without a load nothing is there to be released a second time
  · have hvacant : (shut.after operations).registry.IsVacant :=
      isVacant_after (Registry.isVacant_shutDown host.registry host.world) hloads
    have hshutDown := Registry.shutDown_of_isVacant hvacant (shut.after operations).world
    constructor
    · simp only [next, perform, hshutDown]
    · simp only [drop, hshutDown]

/-- A catalog that complains about every library that it has closed. One connection has failed to
load, one was never loaded, and the two around them are loaded. What the shutdown tells is what
unloading the four connections tells, and the count at the end. -/
theorem shutDown_eq_unloads_complaints :
    let catalog : Catalog Nat := Catalog.register {} (.ofText "ctrl") "DISCON" .tally
    let loader := catalog.loader { complaint? := some "complaint" }
    let operations : List Operation :=
      [.load 0 (.ofText "ctrl") "DISCON", .load 1 (.ofText "ctrl") "absent",
        .load 3 (.ofText "ctrl") "DISCON"]
    let host := (Host.start loader { maxConnections := 4 }
      { tempDir := .ofText "/tmp", books := {}, state := 0 }).after operations
    let told (conn : ConnectionId) : List Event :=
      [.closed conn (.ofText "ctrl") false, .closeComplained conn "complaint",
        .unloaded conn (.ofText "ctrl")]
    host.registry.capacity ≤ 0x80000000
      ∧ (host.registry.slots.map Slot.status) = [.loaded, .failed, .empty, .loaded]
      ∧ ((host.after (Operation.unloads 4)).registry.slots.map Slot.status) =
        [.empty, .failed, .empty, .empty]
      ∧ (host.next .shutDown).world.events =
        host.world.events ++ told 0 ++ told 3 ++ [.shutDown 2]
      ∧ ((host.next .shutDown).after [.unload 0, .loadedCount]).drop.events =
        host.world.events ++ told 0 ++ told 3 ++ [.shutDown 2] := by
  intro catalog loader operations host told
  have hcapacity : host.registry.capacity ≤ 0x80000000 := by decide +kernel
  have hshut := shutDown_eq_unloads host hcapacity
  have hevents : (host.next .shutDown).world.events =
      host.world.events ++ told 0 ++ told 3 ++ [.shutDown 2] := by
    rw [hshut.1]
    decide +kernel
  refine ⟨hcapacity, by decide +kernel, by decide +kernel, hevents, ?_⟩
  rw [(hshut.2 [.unload 0, .loadedCount] (by simp [Operation.request?])).2]
  decide +kernel

end Host

end ControllerHost
