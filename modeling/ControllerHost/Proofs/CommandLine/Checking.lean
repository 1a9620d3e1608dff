import ControllerHost.CommandLine.Checking
import ControllerHost.Linker.Samples
import ControllerHost.Proofs.Host.Machine
import ControllerHost.Proofs.Settings.Basic
import ControllerHost.Proofs.Slot.Files
import ControllerHost.Proofs.Slot.Visits

/-!
# What a check leaves behind

A check either has no settings to work with, and then nothing is done, or it is one load into a
registry of its own that is undone again. The exit code is the status of that load. Whatever comes
of it, no controller is called and the files are those from before.

- `Check.Finds`, `Check.Configured`: the settings of a check, without the program that looks for
  them.
- `Check.settings_eq_ok`: the program finds these settings and no others.
- `Slot.Attached.files_deleteFrom`, `Slot.Story.calling_not_mem`, `Slot.Story.begun`: what a load
  into an empty slot has done.
- `Check.Leaves`, `Check.leaves_load`: what a check with settings leaves.
- `CommandLine.run_check`: what the program leaves when it is asked for a check.
-/

namespace ControllerHost

variable {B S L : Type}

/-! ### Settings -/

theorem Log.DebugLevel.ofNumber?_eq_some {number : Nat} {level : Log.DebugLevel} :
    Log.DebugLevel.ofNumber? number = some level ↔ level.number = number := by
  constructor
  · intro hlevel
    unfold Log.DebugLevel.ofNumber? at hlevel
    split at hlevel <;> cases hlevel <;> rfl
  · rintro rfl
    exact Log.DebugLevel.ofNumber?_number level

namespace CommandLine.Check

variable {check : Check} {files : FileSystem} {home? : Option Path} {settings : Settings}

/-- The settings that a check finds: those that the given file holds, or else those of the file in
the user's home directory, or else the defaults if there is no such file. -/
inductive Finds (check : Check) (files : FileSystem) (home? : Option Path) : Settings → Prop
  | given {path : Path} {settings : Settings} (hgiven : check.settingsFile? = some path)
      (hheld : settings.HeldBy files path) : Finds check files home? settings
  | own {home : Path} {settings : Settings} (hgiven : check.settingsFile? = none)
      (hhome : home? = some home) (hthere : files.exists? (Settings.defaultPath home) = true)
      (hheld : settings.HeldBy files (Settings.defaultPath home)) :
      Finds check files home? settings
  | default {home : Path} (hgiven : check.settingsFile? = none) (hhome : home? = some home)
      (hthere : files.exists? (Settings.defaultPath home) = false) : Finds check files home? {}

/-- The settings that a check works with: those that it finds, with the debug level of the command
line if that gives one. -/
inductive Configured (check : Check) (files : FileSystem) (home? : Option Path) : Settings → Prop
  | found {settings : Settings} (hnumber : check.debugLevel? = none)
      (hfound : check.Finds files home? settings) : Configured check files home? settings
  | relevelled {settings : Settings} {debugLevel : Log.DebugLevel}
      (hnumber : check.debugLevel? = some debugLevel.number)
      (hfound : check.Finds files home? settings) :
      Configured check files home? { settings with debugLevel }

theorem fileSettings_eq_ok :
    check.fileSettings files home? = .ok settings ↔ check.Finds files home? settings := by
  unfold fileSettings Settings.loadDefault
  constructor
  · intro hfound
    -- the given file, the user's own if it is there, or none
    cases hgiven : check.settingsFile? with
    | some path =>
      rw [hgiven] at hfound
      exact .given hgiven (Settings.load_eq_ok.1 hfound)
    | none =>
      rw [hgiven] at hfound
      cases hhome : home? with
      | none =>
        rw [hhome] at hfound
        cases hfound
      | some home =>
        rw [hhome] at hfound
        simp only at hfound
        split at hfound
        · exact .own hgiven rfl ‹_› (Settings.load_eq_ok.1 hfound)
        · cases hfound
          exact .default hgiven rfl (Bool.eq_false_iff.2 ‹_›)
  · intro hfound
    cases hfound with
    | given hgiven hheld => simpa [hgiven] using Settings.load_eq_ok.2 hheld
    | own hgiven hhome hthere hheld =>
      simpa [hgiven, hhome, hthere] using Settings.load_eq_ok.2 hheld
    | default hgiven hhome hthere => simp [hgiven, hhome, hthere]

/-- Without a file that is given, and without a home directory, there are no settings. -/
theorem settings_of_homeless (hgiven : check.settingsFile? = none) :
    check.settings files none = .error (.settings .noHome) := by
  have hfile : check.fileSettings files none = .error .noHome := by
    simp [fileSettings, hgiven, Settings.loadDefault]
  rw [Check.settings, hfile]
  rfl

/-- The program finds the settings of a check, and no others. -/
theorem settings_eq_ok :
    check.settings files home? = .ok settings ↔ check.Configured files home? settings := by
  simp only [Check.settings, bind_eq_ok, mapError_eq_ok, fileSettings_eq_ok]
  constructor
  -- the level is the one of the arguments, if they name one
  · rintro ⟨found, hfound, hlevelled⟩
    split at hlevelled
    · rename_i hnumber
      cases hlevelled
      exact .found hnumber hfound
    · rename_i number hnumber
      split at hlevelled
      · rename_i debugLevel hlevel
        cases hlevelled
        rw [← Log.DebugLevel.ofNumber?_eq_some.1 hlevel] at hnumber
        exact .relevelled hnumber hfound
      · cases hlevelled
  · intro hconfigured
    cases hconfigured with
    | found hnumber hfound => exact ⟨settings, hfound, by simp [hnumber]⟩
    | @relevelled found debugLevel hnumber hfound =>
      exact ⟨found, hfound, by simp [hnumber]⟩

end CommandLine.Check

/-! ### A registry of one load -/

/-- Releasing slots without controllers does nothing. -/
theorem Registry.releaseFrom_of_not_loaded {loader : Loader B S L} {slots : List (Slot S L)}
    (hslots : ∀ slot ∈ slots, slot.isLoaded = false) (place : Nat) (world : World B S) :
    Registry.releaseFrom loader place slots world = world := by
  induction slots generalizing place with
  | nil => rfl
  | cons slot rest ih =>
    obtain ⟨hslot, hrest⟩ := List.forall_mem_cons.1 hslots
    have hunload : (slot.unload loader (.ofIndex place) world).2 = world := by
      cases slot with
      | loaded controller => cases hslot
      | empty | failed path symbol reason => rfl
    rw [Registry.releaseFrom, hunload]
    exact ih hrest (place + 1)

/-- A shutdown does nothing to the world when there is nothing loaded. -/
theorem Registry.world_shutDown {registry : Registry B S L}
    (hslots : ∀ slot ∈ registry.slots, slot.isLoaded = false) (world : World B S) :
    (registry.shutDown world).2 = world := by
  have hcount : registry.loadedCount = 0 := by
    rw [Registry.loadedCount, List.countP_eq_zero]
    intro slot hslot
    simp [hslots slot hslot]
  simp only [Registry.shutDown, hcount, if_true]
  exact releaseFrom_of_not_loaded hslots 0 world

/-- A new registry with one slot changed has a controller in that slot, or none at all. -/
theorem Registry.not_loaded_of_mem_setSlot {loader : Loader B S L} {settings : Settings}
    {index : Nat} {slot : Slot S L} (hslot : slot.isLoaded = false) :
    ∀ other ∈ ((Registry.create loader settings).setSlot index slot).slots,
      other.isLoaded = false := by
  refine Registry.forall_mem_setSlot (fun other hother => ?_) hslot index
  rw [List.eq_of_mem_replicate hother]
  rfl

theorem LoadResult.code_status_eq_zero {result : LoadResult} :
    result.status.code = 0 ↔ result = .loaded := by
  cases result with
  | loaded => simp [LoadResult.status, Status.code]
  | failed error => cases error <;> simp [LoadResult.status, LoadError.status, Status.code]
  | panicked message => simp [LoadResult.status, Status.code]

namespace CommandLine

namespace Check

/-- What a check with settings leaves: an exit code for what its load came to, output exactly if the
controller was loaded, the files from before, and no call. The output names the private copy that
the library was opened from, if there was one, and that copy was deleted when the library was
closed. -/
structure Leaves (check : Check) (settings : Settings) (world : World B S) (result : LoadResult)
    (outcome : Outcome) (left : World B S) (added : List Event) : Prop where
  /-- The exit code is that of the load. -/
  code : outcome.code = result.status.code
  /-- There is no output about a controller that was not loaded. -/
  silent : result ≠ .loaded → outcome.output = ""
  /-- The files are those from before. -/
  files : left.files = world.files
  /-- All that was done has been noted. -/
  events : left.events = world.events ++ added
  /-- Nothing was called. -/
  uncalled : ∀ conn symbol, Event.calling conn symbol ∉ added
  /-- A controller that was loaded was shown, and given up again. -/
  shown : result = .loaded → ∃ (copy? : Option Path) (complained : Bool),
    outcome.output =
        check.library.shown ++ ": " ++ check.symbol ++ " resolved on connection "
          ++ check.conn.text ++ "\n"
          ++ copy?.elim "" (fun copy => "loaded from private copy " ++ copy.shown ++ "\n")
      ∧ Event.effects check.conn added =
        Visit.word check.conn ⟨check.library, check.symbol, copy?, true⟩ (.called 0 complained)
      ∧ (copy?.isSome ↔
        (check.request settings).isolate = true ∧ world.files.isFile check.library = true)

variable {platform : Platform B S L} {check : Check} {settings : Settings} {world left : World B S}

/-- A check whose load does not succeed leaves what the load leaves. -/
theorem leaves_of_not_loaded {registry : Registry B S L} {result : LoadResult} {added : List Event}
    (hload :
      (Registry.create platform.loader settings).loadWith check.conn (check.request settings)
          world =
        (result, registry, left))
    (hresult : result ≠ .loaded) (hslots : ∀ slot ∈ registry.slots, slot.isLoaded = false)
    (hfiles : left.files = world.files) (hevents : left.events = world.events ++ added)
    (huncalled : ∀ conn symbol, Event.calling conn symbol ∉ added) :
    check.Leaves settings world result (check.load platform settings world).1
      (check.load platform settings world).2 added := by
  obtain ⟨complaint?, hcheck⟩ : ∃ complaint?, check.load platform settings world =
      ({ code := result.status.code, complaint? }, left) := by
    simp only [Check.load, hload, Registry.world_shutDown hslots]
    cases result with
    | loaded => exact absurd rfl hresult
    | failed error => exact ⟨_, rfl⟩
    | panicked message => exact ⟨_, rfl⟩
  rw [hcheck]
  exact ⟨rfl, fun _ => rfl, hfiles, hevents, huncalled, fun hloaded => absurd hloaded hresult⟩

/-- A check whose load succeeds releases the controller. -/
theorem leaves_of_loaded {index : Nat} {loadOutcome : LoadOutcome}
    {controller : LoadedController S L}
    (hindex : check.conn.index? settings.maxConnections = some index)
    (hexit : Slot.Attached platform.loader settings.copyDir? check.conn (check.request settings)
      world loadOutcome (.loaded controller) left)
    (hload :
      (Registry.create platform.loader settings).loadWith check.conn (check.request settings)
          world =
        (.loaded, (Registry.create platform.loader settings).setSlot index (.loaded controller),
          left)) :
    ∃ added, check.Leaves settings world .loaded (check.load platform settings world).1
      (check.load platform settings world).2 added := by
  generalize hregistry : Registry.create platform.loader settings = registry at hload
  have hloader : (registry.setSlot index (.loaded controller)).loader = platform.loader := by
    rw [← hregistry]
    rfl
  have hcapacity : registry.capacity = settings.maxConnections := by
    rw [← hregistry]
    exact Host.capacity_start platform.loader settings world
  have hplace : check.conn.index? registry.capacity = some index := by rwa [hcapacity]
  have hslot : (registry.setSlot index (.loaded controller)).slot index = .loaded controller := by
    rw [Registry.slot_setSlot (ConnectionId.index?_eq_some_iff.1 hplace).2, if_pos rfl]
  have hnothing : ∀ slot ∈ (registry.setSlot index .empty).slots, slot.isLoaded = false := by
    rw [← hregistry]
    exact Registry.not_loaded_of_mem_setSlot rfl
  -- nothing else is loaded, so the shutdown finds nothing to release
  have hcheck : check.load platform settings world =
      ({ code := 0
         output := loadedText check.library check.symbol check.conn
          (some (Slot.loaded controller).info) },
        controller.release platform.loader check.conn left) := by
    simp [Check.load, hregistry, hload, Registry.describe?, Registry.unload, Registry.index, hplace,
      hslot, hloader, Slot.unload, Registry.world_shutDown hnothing, LoadResult.status, Status.code]
  obtain ⟨added, hevents, hstory⟩ := hexit.story
  obtain ⟨hvisit, hbegun⟩ := hstory.begun
  rw [hcheck, LoadedController.release_eq]
  let complaint? := platform.loader.complaint? controller.library left
  -- together, what the load and the release tell are one visit without a call
  refine ⟨added ++ controller.parting platform.loader check.conn complaint?, rfl,
    fun hloaded => absurd rfl hloaded, hexit.files_deleteFrom, ?_, ?_,
    fun _ => ⟨controller.copy?.map PrivateCopy.path, complaint?.isSome, ?_, ?_, ?_⟩⟩
  · simp [hevents, complaint?]
  · simp [hstory.calling_not_mem, LoadedController.calling_not_mem_parting]
  · rw [loadedText, Option.bind_some, Slot.loadedFrom?_info]
    cases hcopy : controller.copy? <;> simp [Slot.held?, hcopy]
  · rw [Event.effects_append, hbegun, LoadedController.begun_parting,
      Visit.words_singleton, hvisit]
    rfl
  · simpa [Platform.loader, Check.request] using hexit.loaded.2

/-- A check whose load is refused at once leaves everything as it was. -/
theorem leaves_of_refused {error : LoadError}
    (hload :
      (Registry.create platform.loader settings).loadWith check.conn (check.request settings)
          world =
        (.failed error, Registry.create platform.loader settings, world)) :
    check.Leaves settings world (.failed error) (check.load platform settings world).1
      (check.load platform settings world).2 [] := by
  refine leaves_of_not_loaded hload (by simp) (fun slot hslot => ?_) rfl (by simp) (by simp)
  rw [List.eq_of_mem_replicate hslot]
  rfl

/-- What a check with settings leaves. -/
theorem leaves_load (platform : Platform B S L) (check : Check) (settings : Settings)
    (world : World B S) :
    ∃ added, check.Leaves settings world
      ((Registry.create platform.loader settings).loadWith check.conn (check.request settings)
        world).1
      (check.load platform settings world).1 (check.load platform settings world).2 added := by
  let host : Host B S L := ⟨.create platform.loader settings, world⟩
  have hcapacity : host.registry.capacity = settings.maxConnections :=
    Host.capacity_start platform.loader settings world
  change ∃ added, check.Leaves settings world
    (host.registry.loadWith check.conn (check.request settings) world).1 _ _ added
  cases hindex : check.conn.index? host.registry.capacity with
  | none =>
    have hload : host.registry.loadWith check.conn (check.request settings) world =
        (.failed (.unknownConnection ⟨check.conn, host.registry.capacity⟩),
          host.registry, world) := by
      simp [Registry.loadWith, Registry.index, hindex]
    rw [hload]
    exact ⟨[], leaves_of_refused hload⟩
  | some index =>
    cases hfault : Registry.requestFault? (check.request settings) with
    | some error =>
      have hload : host.registry.loadWith check.conn (check.request settings) world =
          (.failed error, host.registry, world) := by
        simp [Registry.loadWith, Registry.index, hindex, hfault]
      rw [hload]
      exact ⟨[], leaves_of_refused hload⟩
    | none =>
      obtain ⟨slot, left, hload, hexit⟩ := Host.registry_loadWith hindex hfault
      have hreleased : host.released check.conn = world := by
        have hslot : host.registry.slotOf check.conn = .empty :=
          Host.slotOf_start platform.loader settings world check.conn
        rw [Host.released, hslot]
        rfl
      rw [hreleased] at hexit
      -- a slot without a controller is left by a load that has failed
      have hfailed (hslot : slot.isLoaded = false) : ∃ added, check.Leaves settings world
          ((host.outcome check.conn (check.request settings)).result (check.request settings))
          (check.load platform settings world).1 (check.load platform settings world).2 added := by
        obtain ⟨added, hevents, hstory⟩ := hexit.story
        refine ⟨added, leaves_of_not_loaded hload ?_ (Registry.not_loaded_of_mem_setSlot hslot)
          (hexit.files_of_not_loaded hslot) hevents fun _ _ => hstory.calling_not_mem⟩
        rw [ne_eq, hexit.result_eq_loaded, hslot]
        exact Bool.false_ne_true
      rw [hload]
      cases slot with
      | loaded controller =>
        rw [hexit.result_eq_loaded.2 rfl] at hload ⊢
        rw [hcapacity] at hindex
        exact leaves_of_loaded hindex hexit hload
      | empty => exact hfailed rfl
      | failed path symbol reason => exact hfailed rfl

end Check

/-- **A check ends with the status of one load, and leaves nothing behind.** On any platform, and
whatever the arguments ask to be checked, the files are and the user's home directory is: without
settings to work with the program ends with 1, and nothing is done. That is so if no settings file
is given and there is no home directory. With settings its exit code is the status of a load into a
registry of its own, from a private copy if the settings say so and the arguments do not forbid it,
and 0 exactly if that load succeeds. There is output exactly if the exit code is 0. It names the
private copy that the library was opened from, if it was opened from one, and the library was closed
and that copy deleted. In every case nothing was called and the files are those from before. -/
theorem run_check (platform : Platform B S L) {arguments : List Bytes} {check : Check}
    (home? : Option Path) (world : World B S)
    (hparse : Request.parse? arguments = some (.check check)) :
    let outcome := (run platform arguments home? world).1
    let left := (run platform arguments home? world).2
    let request (settings : Settings) : LoadRequest :=
      ⟨check.library, check.symbol, settings.isolateInstances && !check.isDirect⟩
    let result (settings : Settings) : LoadResult :=
      ((Registry.create platform.loader settings).loadWith check.conn (request settings) world).1
    ((∀ settings, ¬ check.Configured world.files home? settings) →
        outcome.code = 1 ∧ left = world)
      ∧ (check.settingsFile? = none → home? = none →
        outcome.code = 1 ∧ left = world
          ∧ outcome.complaint? = some "Failed to get home directory")
      ∧ (∀ settings, check.Configured world.files home? settings →
        outcome.code = (result settings).status.code
          ∧ (outcome.code = 0 ↔ result settings = .loaded))
      ∧ (outcome.output ≠ "" ↔ outcome.code = 0)
      ∧ left.files = world.files
      ∧ ∃ added, left.events = world.events ++ added
        ∧ (∀ conn symbol, Event.calling conn symbol ∉ added)
        ∧ (outcome.code = 0 →
          ∃ (settings : Settings) (copy? : Option Path) (complained : Bool),
            check.Configured world.files home? settings
              ∧ outcome.output =
                check.library.shown ++ ": " ++ check.symbol ++ " resolved on connection "
                  ++ check.conn.text ++ "\n"
                  ++ copy?.elim "" (fun copy => "loaded from private copy " ++ copy.shown ++ "\n")
              ∧ Event.effects check.conn added =
                Visit.word check.conn ⟨check.library, check.symbol, copy?, true⟩
                  (.called 0 complained)
              ∧ (copy?.isSome ↔ settings.isolateInstances = true ∧ check.isDirect = false
                ∧ world.files.isFile check.library = true)) := by
  have hrun : run platform arguments home? world = check.run platform home? world := by
    unfold run
    rw [hparse]
  rw [hrun]
  unfold Check.run
  cases hsettings : check.settings world.files home? with
  | error refusal =>
    -- nothing is done without settings, so the output is empty and the files are as before
    have hnone (settings : Settings) : ¬ check.Configured world.files home? settings := by
      rw [← Check.settings_eq_ok, hsettings]
      simp
    refine ⟨fun _ => ⟨rfl, rfl⟩, ?_, fun settings hsome => absurd hsome (hnone settings), by simp,
      rfl, [], by simp⟩
    rintro hgiven rfl
    rw [Check.settings_of_homeless hgiven] at hsettings
    cases hsettings
    exact ⟨rfl, rfl, rfl⟩
  | ok settings =>
    -- there are no other settings, and the rest is what the one load leaves
    have hconfigured := Check.settings_eq_ok.1 hsettings
    obtain ⟨added, hleaves⟩ := check.leaves_load platform settings world
    have hzero := hleaves.code ▸ LoadResult.code_status_eq_zero
    refine ⟨fun hnone => absurd hconfigured (hnone settings), ?_, ?_, ?_, hleaves.files, added,
      hleaves.events, hleaves.uncalled, ?_⟩
    · rintro hgiven rfl
      rw [Check.settings_of_homeless hgiven] at hsettings
      cases hsettings
    · intro other hother
      obtain rfl : settings = other := by
        rw [← Check.settings_eq_ok, hsettings] at hother
        exact Except.ok.inj hother
      exact ⟨hleaves.code, hzero⟩
    · rw [hzero]
      constructor
      · intro houtput
        exact Decidable.byContradiction fun hresult => houtput (hleaves.silent hresult)
      · intro hresult
        obtain ⟨copy?, complained, houtput, -⟩ := hleaves.shown hresult
        simp [houtput]
    · intro hcode
      obtain ⟨copy?, complained, houtput, heffects, hcopy⟩ := hleaves.shown (hzero.1 hcode)
      refine ⟨settings, copy?, complained, hconfigured, houtput, heffects, ?_⟩
      rw [hcopy]
      simp [Check.request, and_assoc]

/-- A library is checked with settings that have two connections and a directory for private copies,
and the debug level of the arguments. Its path is no text. The check ends with 0 and says so, and
the files are as before, although a copy was made. -/
theorem run_check_settings_file :
    let library : Path := ⟨Bytes.ofText "/lib/ctrl" ++ [0xFF]⟩
    let arguments :=
      [library.bytes, Bytes.ofText "--conn=1", Bytes.ofText "-c", Bytes.ofText "/etc/host.yaml",
        Bytes.ofText "-d2"]
    let check : Check :=
      { library, conn := 1, settingsFile? := some (.ofText "/etc/host.yaml"),
        debugLevel? := some 2 }
    let settingsText := "max_connections: 2\ncopy_dir: /tmp\n"
    let files : FileSystem :=
      { entries :=
          [([Bytes.ofText "etc"], .directory), ([Bytes.ofText "lib"], .directory),
            ([Bytes.ofText "tmp"], .directory),
            ([Bytes.ofText "etc", Bytes.ofText "host.yaml"], .file (Bytes.ofText settingsText)),
            ([Bytes.ofText "lib", Bytes.ofText "ctrl" ++ [0xFF]],
              .file (Bytes.ofText "counting"))] }
    let world : World (Linker.Books Nat) (Linker.State Nat) :=
      { files, tempDir := .ofText "/var/tmp", books := [], state := fun _ => 0 }
    let ran := run Linker.sample.platform arguments none world
    Request.parse? arguments = some (.check check) ∧ ran.1.code = 0 ∧ ran.1.output ≠ ""
      ∧ ran.2.files = files ∧ ran.2.events ≠ [] := by
  intro library arguments check settingsText files world ran
  have hparse : Request.parse? arguments = some (.check check) := by decide +kernel
  have hcode : ran.1.code = 0 := by decide +kernel
  have hevents : ran.2.events ≠ [] := by decide +kernel
  obtain ⟨-, -, -, houtput, hfiles, -⟩ := run_check Linker.sample.platform none world hparse
  exact ⟨hparse, hcode, houtput.2 hcode, hfiles, hevents⟩

end CommandLine

end ControllerHost
