import ControllerHost.CommandLine.Arguments
import ControllerHost.Platform
import ControllerHost.Registry.Basic
import ControllerHost.Settings.File

/-!
# Checking a controller from the command line

The program loads a controller as a host would, into a registry of its own, says where it comes
from and gives it up again. It never calls the controller.

- `Check.settings`: the settings that a check works with, or why there are none.
- `Check.run`: what a check comes to, with the world after it.
- `helpText`, `versionText`.
-/

namespace ControllerHost.CommandLine

variable {B S L : Type}

/-- What the program leaves: an exit code, its output and a text about what went wrong. -/
structure Outcome where
  /-- The exit code. -/
  code : Nat
  /-- The output. -/
  output : String := ""
  /-- What went wrong. -/
  complaint? : Option String := none
deriving DecidableEq

/-- Why a check has no settings to work with. -/
inductive Refusal where
  /-- The settings file is of no use. -/
  | settings (failure : Settings.Failure)
  /-- The number belongs to no debug level. -/
  | debugLevel (number : Nat)
deriving DecidableEq

/-- The text of a refusal. Below it stand the causes, as far as they are known. -/
def Refusal.message : Refusal → String
  | settings failure =>
    if failure.causes = [] then failure.message
    else failure.message ++ "\n\nCaused by:" ++ String.join (failure.causes.map ("\n    " ++ ·))
  | debugLevel number => Log.DebugLevel.unknownMessage number

/-- What the program says about a loaded controller. -/
def loadedText (path : Path) (symbol : String) (conn : ConnectionId) (info? : Option SlotInfo) :
    String :=
  path.shown ++ ": " ++ symbol ++ " resolved on connection " ++ conn.text ++ "\n"
    ++ match info?.bind SlotInfo.loadedFrom? with
      | some copy => "loaded from private copy " ++ copy.shown ++ "\n"
      | none => ""

namespace Check

/-- The settings in the given file, or else in the user's own. -/
def fileSettings (check : Check) (files : FileSystem) (home? : Option Path) :
    Except Settings.Failure Settings :=
  match check.settingsFile? with
  | some path => Settings.load files path
  | none => Settings.loadDefault files home?

/-- The settings that a check works with. The command line's debug level goes before that of the
file. -/
def settings (check : Check) (files : FileSystem) (home? : Option Path) :
    Except Refusal Settings := do
  let settings ← (check.fileSettings files home?).mapError Refusal.settings
  match check.debugLevel? with
  | none => .ok settings
  | some number =>
    match Log.DebugLevel.ofNumber? number with
    | some debugLevel => .ok { settings with debugLevel }
    | none => .error (.debugLevel number)

/-- The load request of a check. -/
def request (check : Check) (settings : Settings) : LoadRequest where
  path := check.library
  symbol := check.symbol
  isolate := settings.isolateInstances && !check.isDirect

/-- What a check comes to with some settings, and the world after it. -/
def load (check : Check) (platform : Platform B S L) (settings : Settings) (world : World B S) :
    Outcome × World B S :=
  let registry := Registry.create platform.loader settings
  let (result, registry, world) := registry.loadWith check.conn (check.request settings) world
  match result with
  | .loaded =>
    let output := loadedText check.library check.symbol check.conn (registry.describe? check.conn)
    let (_, registry, world) := registry.unload check.conn world
    ({ code := result.status.code, output }, (registry.shutDown world).2)
  | .failed error =>
    ({ code := result.status.code, complaint? := some error.message }, (registry.shutDown world).2)
  | .panicked message =>
    ({ code := result.status.code, complaint? := some message }, (registry.shutDown world).2)

/-- What a check comes to, and the world after it. -/
def run (check : Check) (platform : Platform B S L) (home? : Option Path) (world : World B S) :
    Outcome × World B S :=
  match check.settings world.files home? with
  | .error refusal => ({ code := 1, complaint? := some refusal.message }, world)
  | .ok settings => check.load platform settings world

end Check

/-- The version of the program. -/
def versionText : String := "discon-wrapper 0.3.0\n"

/-- How the program is called. -/
def usageText : String := "Usage: discon-wrapper [OPTIONS] <LIBRARY>\n"

/-- The help text of the program. -/
def helpText : String :=
  "Connection-indexed loader and dispatcher for DISCON wind turbine controller libraries\n\n"
    ++ usageText
    ++ "\nArguments:\n"
    ++ "  <LIBRARY>  Path to the controller shared library\n"
    ++ "\nOptions:\n"
    ++ "  -p, --proc <PROC_NAME>  Name of the exported entry point [default: DISCON]\n"
    ++ "      --conn <CONN>       Connection id to load into [default: 0]\n"
    ++ "  -c, --config <CONFIG>   Path to configuration file\n"
    ++ "  -d, --debug <DEBUG>     Debug level: 0=warnings, 1=basic info, 2=verbose\n"
    ++ "      --no-isolate        Open the library file directly instead of a private copy\n"
    ++ "  -h, --help              Print help\n"
    ++ "  -V, --version           Print version\n"

/-- What the program leaves when it is called with some arguments, and the world after it. -/
def run (platform : Platform B S L) (arguments : List Bytes) (home? : Option Path)
    (world : World B S) : Outcome × World B S :=
  match Request.parse? arguments with
  | none => ({ code := 2 }, world)
  | some .help => ({ code := 0, output := helpText }, world)
  | some .version => ({ code := 0, output := versionText }, world)
  | some (.check check) => check.run platform home? world

end ControllerHost.CommandLine
