import ControllerHost.HostInterface
import ControllerHost.Linker.Samples
import ControllerHost.Proofs.Host.Parallel
import ControllerHost.Proofs.Host.Step

/-!
# Calls of foreign hosts

A foreign host gets a registry for a number of connections or for a settings file, makes calls on
it, and frees it in the end. Each call does what an operation of a native host does, unless its
arguments are refused, and then it does nothing.

- `Source`, `Call`, `Reply`: where a registry comes from, what can be called, and what a call gives.
- `Call.perform`, `after`: one call, and a run of them.
- `Call.operation?`, `Call.reply`, `Call.refused`: the native operation of a call, what its answer
  is for the foreign host, and what a call without one gives.
- `Call.perform_of_operation?`, `Call.perform_of_refused`: what one call does.
- `calls_as_native`: every run of calls does what the run of their operations does.
-/

namespace ControllerHost.HostInterface

variable {B S L : Type}

/-! ### Where a registry comes from -/

/-- What a registry is made from. -/
inductive Source where
  /-- A number of connections. -/
  | connections (number : Int32)
  /-- A settings file. -/
  | file (path? : Option Bytes)

namespace Source

/-- The registry, if there is one, and the world that is left. -/
def make? (platform : Platform B S L) (world : World B S) :
    Source → Option (Registry B S L) × World B S
  | connections number => (create? platform number, world)
  | file path? => fromSettings? platform path? world

/-- The settings of a native host's registry that is made from the same. There are none unless the
number is positive, or the file is accepted. -/
def settings? (world : World B S) : Source → Option Settings
  | connections number =>
    if 0 < number.toInt then some { maxConnections := number.toInt.toNat } else none
  | file path? => (text? path?).bind fun path => (Settings.load world.files (.ofText path)).toOption

theorem make?_of_settings? (platform : Platform B S L) {source : Source} {world : World B S}
    {settings : Settings} (hsettings : source.settings? world = some settings) :
    source.make? platform world = (some (.create platform.loader settings), world) := by
  cases source with
  | connections number =>
    simp only [settings?, make?, create?] at hsettings ⊢
    split at hsettings
    · rename_i hpositive
      rw [if_pos hpositive]
      cases hsettings
      rfl
    · cases hsettings
  | file path? =>
    obtain ⟨path, htext, hload⟩ := Option.bind_eq_some_iff.1 hsettings
    simp only [make?, fromSettings?, htext]
    cases hfound : Settings.load world.files (.ofText path) with
    | error failure =>
      rw [hfound] at hload
      cases hload
    | ok found =>
      rw [hfound] at hload
      cases hload
      rfl

end Source

/-! ### Calls -/

/-- What a foreign host can call. It passes its registry, or none. -/
inductive Call where
  /-- Load a controller. -/
  | load (passed : Bool) (conn : ConnectionId) (path? symbol? : Option Bytes)
  /-- Call the loaded controller. -/
  | invoke (passed : Bool) (conn : ConnectionId) (arguments : BufferArguments)
  /-- Give up what is loaded. -/
  | unload (passed : Bool) (conn : ConnectionId)
  /-- Free no registry. -/
  | freeNothing

/-- What a call gives: a status, if it has one, and the buffers that were passed, as they are
then. -/
structure Reply where
  /-- The status. -/
  status? : Option Status := none
  /-- The buffers. -/
  arguments? : Option BufferArguments := none

/-- The number of the status of a reply. -/
def Reply.code? (reply : Reply) : Option Nat := reply.status?.map Status.code

namespace Call

/-- The registry that is passed. -/
def held? (registry : Registry B S L) (passed : Bool) : Option (Registry B S L) :=
  if passed then some registry else none

/-- What a call gives and leaves. -/
def perform (host : Host B S L) : Call → Reply × Host B S L
  | load passed conn path? symbol? =>
    let (status, left?, world) :=
      HostInterface.load (held? host.registry passed) conn path? symbol? host.world
    ({ status? := some status }, ⟨left?.getD host.registry, world⟩)
  | invoke passed conn arguments =>
    let (status, arguments, world) :=
      HostInterface.invoke (held? host.registry passed) conn arguments host.world
    ({ status? := some status, arguments? := some arguments }, { host with world })
  | unload passed conn =>
    let (left?, world) := HostInterface.unload (held? host.registry passed) conn host.world
    ({}, ⟨left?.getD host.registry, world⟩)
  | freeNothing => ({}, { host with world := free (none : Option (Registry B S L)) host.world })

/-- The operation of a native host that does what a call does. There is none without a registry,
with an argument that is missing, or with a path or an entry point's name that is no text. -/
def operation? : Call → Option Operation
  | load true conn path? symbol? =>
    match text? path?, text? symbol? with
    | some path, some symbol => some (.load conn (.ofText path) symbol)
    | _, _ => none
  | invoke true conn arguments =>
    -- buffers that are there are taken as they are, even if they have no storage
    arguments.complete?.map fun buffers =>
      if buffers.firstEmpty? = none then .invoke conn buffers else .invokeUnchecked conn buffers
  | unload true conn => some (.unload conn)
  | load false _ _ _ | invoke false _ _ | unload false _ | freeNothing => none

/-- The buffers that a call passes. -/
def arguments? : Call → Option BufferArguments
  | invoke _ _ arguments => some arguments
  | load _ _ _ _ | unload _ _ | freeNothing => none

/-- What a foreign host is given for the answer to its call's operation. -/
def reply (call : Call) : Answer → Reply
  | .load result => { status? := some result.status }
  | .invoke (.ok buffers) => { status? := some .ok, arguments? := some (.ofBuffers buffers) }
  | .invoke (.error error) => { status? := some error.status, arguments? := call.arguments? }
  | _ => {}

/-- What a call gives that does nothing. -/
def refused : Call → Reply
  | load _ _ _ _ => { status? := some .invalidArgument }
  | invoke _ _ arguments => { status? := some .invalidArgument, arguments? := some arguments }
  | unload _ _ | freeNothing => {}

/-! ### One call -/

/-- On buffers that have storage, both kinds of calls are the same. -/
theorem invoke_of_firstEmpty? {buffers : CallBuffers} (hfull : buffers.firstEmpty? = none)
    (registry : Registry B S L) (conn : ConnectionId) (world : World B S) :
    registry.invoke conn buffers world = registry.invokeUnchecked conn buffers world := by
  unfold Registry.invoke
  rw [hfull]
  cases hindex : registry.index conn with
  | error unknown => simp only [Registry.invokeUnchecked, hindex]
  | ok index => rfl

theorem perform_load (host : Host B S L) (conn : ConnectionId) {path? symbol? : Option Bytes}
    {path symbol : String} (hpath : text? path? = some path)
    (hsymbol : text? symbol? = some symbol) :
    (load true conn path? symbol?).perform host =
      ({ status? := some (host.registry.load conn (.ofText path) symbol host.world).1.status },
        host.next (.load conn (.ofText path) symbol)) := by
  simp [perform, held?, HostInterface.load, hpath, hsymbol, Host.next, Host.perform]

theorem perform_invoke (host : Host B S L) (conn : ConnectionId) {arguments : BufferArguments}
    {buffers : CallBuffers} (hcomplete : arguments.complete? = some buffers) :
    (invoke true conn arguments).perform host =
      ((invoke true conn arguments).reply (host.perform (.invokeUnchecked conn buffers)).1,
        host.next (.invokeUnchecked conn buffers)) := by
  simp only [perform, held?, if_true, HostInterface.invoke, hcomplete, Host.next, Host.perform]
  generalize host.registry.invokeUnchecked conn buffers host.world = called
  obtain ⟨_ | left, world⟩ := called <;> rfl

/-- A call does what its operation does. At most it says that it has ignored something. -/
theorem perform_of_operation? {call : Call} {operation : Operation}
    (hoperation : call.operation? = some operation) (host : Host B S L) :
    (call.perform host).1 = call.reply (host.perform operation).1
      ∧ (call.perform host).2.AreLevel .none (host.next operation) := by
  have hself (left : Host B S L) : left.AreLevel .none left := left.areLevel_refl rfl rfl
  cases call with
  | load passed conn path? symbol? =>
    cases passed with
    | false => cases hoperation
    | true =>
      simp only [operation?] at hoperation
      split at hoperation
      · rename_i path symbol hpath hsymbol
        cases hoperation
        rw [perform_load host conn hpath hsymbol]
        exact ⟨rfl, hself _⟩
      · cases hoperation
  | invoke passed conn arguments =>
    cases passed with
    | false => cases hoperation
    | true =>
      obtain ⟨buffers, hcomplete, hoperation⟩ := Option.map_eq_some_iff.1 hoperation
      rw [perform_invoke host conn hcomplete]
      split at hoperation
      -- the buffers have storage, and so the native call that looks at them takes them too
      · rename_i hfull
        have hsame : host.perform operation = host.perform (.invokeUnchecked conn buffers) := by
          rw [← hoperation]
          simp only [Host.perform, invoke_of_firstEmpty? hfull]
        rw [Host.next, Host.next, hsame]
        exact ⟨rfl, hself _⟩
      · subst hoperation
        exact ⟨rfl, hself _⟩
  | unload passed conn =>
    cases passed with
    | false => cases hoperation
    | true =>
      cases hoperation
      simp only [perform, held?, if_true, HostInterface.unload, Host.next, Host.perform]
      generalize host.registry.unload conn host.world = unloaded
      obtain ⟨_ | _, registry, world⟩ := unloaded
      -- a connection that there is not is logged, which only the past of the world shows
      · exact ⟨rfl, rfl, { (hself ⟨registry, world⟩).world with events := ⟨[], by simp, by simp⟩ }⟩
      · exact ⟨rfl, hself _⟩
  | freeNothing => cases hoperation

/-- A call without an operation is refused, and does nothing. -/
theorem perform_of_refused {call : Call} (hoperation : call.operation? = none) (host : Host B S L) :
    call.perform host = (call.refused, host) := by
  -- without a registry, or with an argument that is missing or no text, nothing is called
  cases call with
  | load passed conn path? symbol? =>
    cases passed with
    | false => rfl
    | true =>
      simp only [operation?] at hoperation
      split at hoperation
      · cases hoperation
      · rename_i hmissing
        simp only [perform, held?, if_true, HostInterface.load]
        split
        · rename_i registry path symbol hheld hpath hsymbol
          exact absurd hsymbol (hmissing path symbol hpath)
        · rfl
  | invoke passed conn arguments =>
    cases passed with
    | false => rfl
    | true =>
      have hmissing : arguments.complete? = none := Option.map_eq_none_iff.1 hoperation
      simp [perform, held?, HostInterface.invoke, hmissing, refused]
  | unload passed conn =>
    cases passed with
    | false => rfl
    | true => cases hoperation
  | freeNothing => rfl

/-! ### Statuses -/

/-- A load has a status other than that nothing is loaded. -/
theorem code?_load (host : Host B S L) (passed : Bool) (conn : ConnectionId)
    (path? symbol? : Option Bytes) :
    ∃ code ∈ [0, 1, 2, 3], ((load passed conn path? symbol?).perform host).1.code? = some code := by
  have hstatus (result : LoadResult) : result.status.code ∈ [0, 1, 2, 3] := by
    rcases result with _ | (_ | _ | _ | _) | _ <;>
      simp [LoadResult.status, LoadError.status, Status.code]
  refine ⟨_, ?_, rfl⟩
  split
  · exact hstatus _
  · exact hstatus (.panicked "")

/-- The status of a call: on buffers that are there it is settled by the connection. -/
theorem code?_invoke (host : Host B S L) (passed : Bool) (conn : ConnectionId)
    (arguments : BufferArguments) :
    ((invoke passed conn arguments).perform host).1.code? =
      some (if passed = true ∧ arguments.complete?.isSome then
        match conn.index? host.registry.capacity with
        | none => 3
        | some index => if (host.registry.slot index).isLoaded then 0 else 4
      else 3) := by
  cases passed with
  | false => rfl
  | true =>
    cases hcomplete : arguments.complete? with
    | none =>
      have hrefused : (invoke true conn arguments).operation? = none := by
        simp [operation?, hcomplete]
      rw [perform_of_refused hrefused]
      rfl
    | some buffers =>
      rw [perform_invoke host conn hcomplete]
      simp only [Host.perform, Registry.invokeUnchecked, Registry.index]
      cases hindex : conn.index? host.registry.capacity with
      | none => rfl
      | some index =>
        simp only
        cases hslot : host.registry.slot index <;> rfl

theorem code?_invoke_mem (host : Host B S L) (passed : Bool) (conn : ConnectionId)
    (arguments : BufferArguments) :
    ∃ code ∈ [0, 3, 4], ((invoke passed conn arguments).perform host).1.code? = some code := by
  rw [code?_invoke]
  refine ⟨_, ?_, rfl⟩
  (repeat' split) <;> simp

/-- A call has the status that nothing is loaded exactly if nothing else is wrong. -/
theorem code?_invoke_eq_four (host : Host B S L) (passed : Bool) (conn : ConnectionId)
    (arguments : BufferArguments) :
    ((invoke passed conn arguments).perform host).1.code? = some 4 ↔
      (passed = true ∧ arguments.complete?.isSome)
        ∧ (0 ≤ conn.toInt ∧ conn.toInt < host.registry.capacity)
        ∧ (host.registry.slotOf conn).isLoaded = false := by
  rw [code?_invoke, Registry.slotOf]
  by_cases hpassed : passed = true ∧ arguments.complete?.isSome
  · simp only [if_pos hpassed, Option.some.injEq]
    by_cases hwithin : 0 ≤ conn.toInt ∧ conn.toInt < host.registry.capacity
    · have hindex : conn.index? host.registry.capacity = some conn.toInt.toNat := if_pos hwithin
      simp only [hindex]
      cases (host.registry.slot conn.toInt.toNat).isLoaded <;> simp [hpassed, hwithin]
    · have hindex : conn.index? host.registry.capacity = none := if_neg hwithin
      simp [hindex, hwithin]
  · simp [hpassed]

end Call

/-- The host that several calls leave, one after another. -/
def after (host : Host B S L) (calls : List Call) : Host B S L :=
  calls.foldl (fun host call => (call.perform host).2) host

/-- A run of calls does what the run of their operations does. -/
theorem areLevel_after {foreign native : Host B S L} (hlevel : foreign.AreLevel .none native)
    (calls : List Call) :
    (after foreign calls).AreLevel .none (native.after (calls.filterMap Call.operation?)) := by
  -- on the calls, from any two hosts of which one may have logged more than the other
  induction calls generalizing foreign native with
  | nil => exact hlevel
  | cons call rest ih =>
    cases hoperation : call.operation? with
    | none =>
      rw [List.filterMap_cons_none hoperation]
      have hleft : (call.perform foreign).2.AreLevel .none native := by
        rwa [Call.perform_of_refused hoperation]
      exact ih hleft
    | some operation =>
      rw [List.filterMap_cons_some hoperation]
      have hexact : operation.isCall = true → (Leeway.none : Leeway B S).IsExact := fun _ =>
        Leeway.isExact_none
      obtain ⟨-, -, hnext⟩ := hlevel.perform foreign.registry.loader.respects_none hexact
      exact ih ((Call.perform_of_operation? hoperation foreign).2.trans hnext)

/-- **Foreign hosts are served as native ones.** On any platform, a registry for a positive number
of connections, or for a settings file that is accepted, is the one that a native host makes from
the same settings, and making it does nothing else. After every run of calls on it the registry, the
files, the platform's books and the controllers' state are what the calls' operations would have
left, up to what has been logged, and so they are after it has been freed. A further call gives what
its operation answers. A call without a registry, with an argument that is missing, or with a path
or a name that is no text, gives the status 3 if it gives one, and does nothing. A load never has
the status 4, a call never has 1 or 2, and it has 4 exactly if it is passed everything, the
connection's number is a place of the table, and no controller is loaded there. -/
theorem calls_as_native (platform : Platform B S L) {source : Source} {world : World B S}
    {settings : Settings} (hsettings : source.settings? world = some settings) :
    let registry := Registry.create platform.loader settings
    source.make? platform world = (some registry, world)
      ∧ ∀ calls : List Call,
        let foreign := after ⟨registry, world⟩ calls
        let native := Host.after ⟨registry, world⟩ (calls.filterMap Call.operation?)
        foreign.AreLevel .none native
          ∧ (free (some foreign.registry) foreign.world).Parallel .none foreign.world.events
            native.world.events native.drop
          ∧ (∀ call : Call,
            (∀ operation, call.operation? = some operation →
              (call.perform foreign).1 = call.reply (native.perform operation).1)
            ∧ (call.operation? = none → call.perform foreign = (call.refused, foreign)))
          ∧ (∀ passed conn path? symbol?, ∃ code ∈ [0, 1, 2, 3],
            ((Call.load passed conn path? symbol?).perform foreign).1.code? = some code)
          ∧ ∀ passed conn arguments,
            let code? := ((Call.invoke passed conn arguments).perform foreign).1.code?
            (∃ code ∈ [0, 3, 4], code? = some code)
              ∧ (code? = some 4 ↔
                (passed = true ∧ arguments.complete?.isSome)
                  ∧ (0 ≤ conn.toInt ∧ conn.toInt < settings.maxConnections)
                  ∧ (foreign.registry.slotOf conn).isLoaded = false) := by
  intro registry
  refine ⟨Source.make?_of_settings? platform hsettings, fun calls => ?_⟩
  intro foreign native
  -- both runs stay level from their common start, and drop to the same
  have hlevel : foreign.AreLevel .none native :=
    areLevel_after (Host.areLevel_refl ⟨registry, world⟩ rfl rfl) calls
  have hrespects : foreign.registry.loader.Respects (Leeway.none : Leeway B S) :=
    foreign.registry.loader.respects_none
  have hcapacity : foreign.registry.capacity = settings.maxConnections := by
    rw [hlevel.registry, (Host.after_constants ⟨registry, world⟩ _).2.2]
    exact Host.capacity_start platform.loader settings world
  refine ⟨hlevel, hlevel.drop hrespects, fun call => ⟨fun operation hoperation => ?_, ?_⟩,
    Call.code?_load foreign, fun passed conn arguments => ⟨?_, ?_⟩⟩
  · rw [(Call.perform_of_operation? hoperation foreign).1,
      (hlevel.perform hrespects fun _ => Leeway.isExact_none).1]
  · intro hrefused
    exact Call.perform_of_refused hrefused foreign
  · exact Call.code?_invoke_mem foreign passed conn arguments
  · rw [← hcapacity]
    exact Call.code?_invoke_eq_four foreign passed conn arguments

/-- A registry with two connections on which a load fails and an unload is ignored. A call on what
has not been loaded is told so, unless a buffer is missing. -/
theorem calls_as_native_two :
    let world : World (Linker.Books Nat) (Linker.State Nat) :=
      { tempDir := .ofText "/tmp", books := [], state := fun _ => 0 }
    let source : Source := .connections 2
    let registry := Registry.create Linker.sample.platform.loader { maxConnections := 2 }
    let arguments : BufferArguments :=
      .ofBuffers { swap := [⟨0⟩], inFile := [0], outName := [0], msg := [0] }
    let left := after ⟨registry, world⟩
      [.load true 0 (some (Bytes.ofText "absent")) (some (Bytes.ofText "DISCON")), .unload true 7]
    source.settings? world = some { maxConnections := 2 }
      ∧ source.make? Linker.sample.platform world = (some registry, world)
      ∧ ((Call.invoke true 0 arguments).perform left).1.code? = some 4
      ∧ (Call.invoke true 0 { arguments with msg? := none }).perform left =
        ({ status? := some .invalidArgument, arguments? := some { arguments with msg? := none } },
          left) := by
  intro world source registry arguments left
  have hsettings : source.settings? world = some { maxConnections := 2 } := by decide +kernel
  obtain ⟨hregistry, hcalls⟩ := calls_as_native Linker.sample.platform hsettings
  obtain ⟨-, -, hcall, -, hinvoke⟩ := hcalls
    [.load true 0 (some (Bytes.ofText "absent")) (some (Bytes.ofText "DISCON")), .unload true 7]
  refine ⟨hsettings, hregistry, ?_, (hcall _).2 rfl⟩
  exact (hinvoke true 0 arguments).2.2 ⟨⟨rfl, rfl⟩, by decide, by decide +kernel⟩

end ControllerHost.HostInterface
