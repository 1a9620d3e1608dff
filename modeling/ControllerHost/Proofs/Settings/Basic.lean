import ControllerHost.Settings.File

/-!
# Settings that work

A registry can work with settings if all connections have a number and private copies have a place.
A file holds such settings if its text spells them.

- `Settings.Workable`, `Settings.fault?_eq_none`: settings that a registry can work with.
- `Settings.HeldBy`, `Settings.load_eq_ok`: settings that a file holds.
-/

namespace ControllerHost

section Except

variable {α β ε η : Type}

theorem bind_eq_ok {first : Except ε α} {then? : α → Except ε β} {result : β} :
    first >>= then? = .ok result ↔ ∃ value, first = .ok value ∧ then? value = .ok result := by
  cases first <;> simp [bind, Except.bind]

theorem mapError_eq_ok {first : Except ε α} {rename : ε → η} {result : α} :
    first.mapError rename = .ok result ↔ first = .ok result := by
  cases first with
  | ok value =>
    change Except.ok value = Except.ok result ↔ _
    simp
  | error failure =>
    change Except.error (rename failure) = Except.ok result ↔ _
    simp

end Except

namespace Settings

variable {settings : Settings} {files : FileSystem} {path : Path}

/-- A registry can work with the settings: all connections have a number, and private copies have a
place. -/
structure Workable (settings : Settings) (files : FileSystem) : Prop where
  /-- There is a connection. -/
  someConnection : 0 < settings.maxConnections
  /-- The last connection has a number. -/
  allNumbered : settings.maxConnections < 0x80000000
  /-- Private copies go to a directory. -/
  copyDirectory : ∀ path, settings.copyDir? = some path → files.isDirectory path = true

/-- A file holds settings: its text spells them, and a registry can work with them. -/
structure HeldBy (settings : Settings) (files : FileSystem) (path : Path) : Prop where
  /-- The file is read and understood. -/
  spelled : ∃ text, files.readText path = .ok text ∧ parse text = .ok settings
  /-- A registry can work with what it says. -/
  workable : settings.Workable files

theorem fault?_eq_none : settings.fault? files = none ↔ settings.Workable files := by
  constructor
  · intro hfault
    unfold fault? at hfault
    split at hfault
    · cases hfault
    split at hfault
    · cases hfault
    refine ⟨by omega, by omega, ?_⟩
    intro path hpath
    simpa [hpath] using hfault
  · rintro ⟨hsome, hnumbered, hdirectory⟩
    unfold fault?
    rw [if_neg (by omega), if_neg (by omega)]
    cases hcopyDir : settings.copyDir? with
    | none => rfl
    | some path => simp [hdirectory path hcopyDir]

theorem load_eq_ok : load files path = .ok settings ↔ settings.HeldBy files path := by
  simp only [load, bind_eq_ok, mapError_eq_ok]
  constructor
  · rintro ⟨text, hread, found, hparse, hchecked⟩
    split at hchecked
    · cases hchecked
    · rename_i hfault
      cases hchecked
      exact ⟨⟨text, hread, hparse⟩, fault?_eq_none.1 hfault⟩
  · rintro ⟨⟨text, hread, hparse⟩, hworkable⟩
    exact ⟨text, hread, settings, hparse, by rw [fault?_eq_none.2 hworkable]⟩

end Settings

end ControllerHost
