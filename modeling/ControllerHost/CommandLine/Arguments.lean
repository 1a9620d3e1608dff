import ControllerHost.Connection
import ControllerHost.Text.Numeral

/-!
# Command line arguments

The program takes one operand, the library, and options with a value or without one. A value
stands behind its option or is joined to it, and only a joined value can begin with a hyphen. No
option can be given twice. Arguments are read from left to right, and the first one that asks for
the help text or for the version, or that is of no use, ends the reading. An argument is any byte
string, and so is a path that it spells; everything else must be text.

- `Word`: what an argument is on its own, with `Word.ofBytes`.
- `Arguments`: what has been read, with `Arguments.set?` and `Arguments.place?`.
- `Request`, `Request.parse?`: what a command line asks for.
-/

namespace ControllerHost.CommandLine

/-- The options that take a value. -/
inductive Key where
  /-- The name of the entry point. -/
  | symbol
  /-- The connection to load into. -/
  | connection
  /-- The settings file. -/
  | settingsFile
  /-- The number of the debug level. -/
  | debugLevel
deriving DecidableEq, Repr

namespace Key

/-- The option with a long name. -/
def ofName? (name : Bytes) : Option Key :=
  match Bytes.text? name with
  | some "proc" => some symbol
  | some "conn" => some connection
  | some "config" => some settingsFile
  | some "debug" => some debugLevel
  | _ => none

/-- The option with a letter. -/
def ofLetter? : Char → Option Key
  | 'p' => some symbol
  | 'c' => some settingsFile
  | 'd' => some debugLevel
  | _ => none

end Key

/-- What an argument is on its own. -/
inductive Word where
  /-- No option: an operand, or the value of the option before. -/
  | plain (bytes : Bytes)
  /-- Only operands follow. -/
  | separator
  /-- An option that takes a value, with the value that is joined to it. -/
  | option (key : Key) (value? : Option Bytes)
  /-- The option that asks for no private copy. -/
  | direct
  /-- The option that asks for the help text. -/
  | help
  /-- The option that asks for the version. -/
  | version
  /-- An option that there is not. -/
  | unknown
deriving DecidableEq, Repr

namespace Word

/-- The hyphen that options begin with. -/
def hyphen : UInt8 := 0x2D

/-- The sign between an option and a value that is joined to it. -/
def equalsSign : UInt8 := 0x3D

/-- The option with a long name, and the value behind an equals sign. -/
def ofName (bytes : Bytes) : Word :=
  let name := bytes.takeWhile (· != equalsSign)
  let value? := match bytes.dropWhile (· != equalsSign) with
    | [] => none
    | _ :: value => some value
  match Key.ofName? name, Bytes.text? name, value? with
  | some key, _, _ => option key value?
  | none, some "no-isolate", none => direct
  | none, some "help", none => help
  | none, some "version", none => version
  | none, _, _ => unknown

/-- The option with a letter. What follows the letter is its value, perhaps behind an equals
sign. -/
def ofLetter (letter : Char) (bytes : Bytes) : Word :=
  match Key.ofLetter? letter with
  | some key =>
    match bytes with
    | [] => option key none
    | byte :: value => option key (some (if byte = equalsSign then value else byte :: value))
  | none =>
    if letter = 'h' then help
    else if letter = 'V' then version
    else unknown

/-- What an argument is on its own. A single hyphen is no option. -/
def ofBytes (bytes : Bytes) : Word :=
  match bytes with
  | first :: second :: rest =>
    if first ≠ hyphen then plain bytes
    else if second = hyphen then if rest = [] then separator else ofName rest
    else ofLetter (Char.ofNat second.toNat) rest
  | _ => plain bytes

end Word

/-- What has been read of a command line. -/
structure Arguments where
  /-- The library. -/
  library? : Option Path := none
  /-- The name of the entry point. -/
  symbol? : Option String := none
  /-- The connection to load into. -/
  conn? : Option ConnectionId := none
  /-- The settings file. -/
  settingsFile? : Option Path := none
  /-- The number of the debug level. -/
  debugLevel? : Option Nat := none
  /-- Whether the library itself is opened, and not a private copy. -/
  isDirect : Bool := false
deriving DecidableEq

namespace Arguments

/-- A first value, if there is one and none was there before. -/
def once? {α : Type} (earlier? value? : Option α) : Option α :=
  if earlier?.isSome then none else value?

/-- The path with some bytes, unless there are none. -/
def path? (bytes : Bytes) : Option Path := if bytes = [] then none else some ⟨bytes⟩

/-- The number that some bytes spell. -/
def integer? (bytes : Bytes) : Option Int :=
  (Bytes.text? bytes).bind fun text => Numeral.integer? text.toList

/-- The connection that some bytes spell. -/
def connection? (bytes : Bytes) : Option ConnectionId :=
  ((integer? bytes).filter fun number =>
    -0x80000000 ≤ number ∧ number < 0x80000000).map Int32.ofInt

/-- The number of a debug level that some bytes spell. It fits a byte, but need not belong to any
level. -/
def level? (bytes : Bytes) : Option Nat :=
  ((integer? bytes).filter fun number => 0 ≤ number ∧ number < 0x100).map Int.toNat

/-- The arguments with a value for an option that had none. -/
def set? (arguments : Arguments) (key : Key) (value : Bytes) : Option Arguments :=
  match key with
  | .symbol => (once? arguments.symbol? (Bytes.text? value)).map fun symbol =>
    { arguments with symbol? := some symbol }
  | .connection => (once? arguments.conn? (connection? value)).map fun conn =>
    { arguments with conn? := some conn }
  | .settingsFile => (once? arguments.settingsFile? (path? value)).map fun path =>
    { arguments with settingsFile? := some path }
  | .debugLevel => (once? arguments.debugLevel? (level? value)).map fun level =>
    { arguments with debugLevel? := some level }

/-- The arguments with the library, if they had none. -/
def place? (arguments : Arguments) (operand : Bytes) : Option Arguments :=
  (once? arguments.library? (path? operand)).map fun path =>
    { arguments with library? := some path }

end Arguments

/-- A controller that is to be checked. -/
structure Check where
  /-- The library. -/
  library : Path
  /-- The name of the entry point. -/
  symbol : String := "DISCON"
  /-- The connection to load into. -/
  conn : ConnectionId := 0
  /-- The settings file, unless it is the user's own. -/
  settingsFile? : Option Path := none
  /-- The number of a debug level other than that of the settings. -/
  debugLevel? : Option Nat := none
  /-- Whether the library itself is opened, and not a private copy. -/
  isDirect : Bool := false
deriving DecidableEq

/-- What a command line asks for. -/
inductive Request where
  /-- That a controller is checked. -/
  | check (check : Check)
  /-- The help text. -/
  | help
  /-- The version. -/
  | version
deriving DecidableEq

namespace Request

/-- What the arguments ask for when they are all read. Without a library they are of no use. -/
def ofArguments? (arguments : Arguments) : Option Request :=
  arguments.library?.map fun library =>
    .check
      { library
        symbol := arguments.symbol?.getD "DISCON"
        conn := arguments.conn?.getD 0
        settingsFile? := arguments.settingsFile?
        debugLevel? := arguments.debugLevel?
        isDirect := arguments.isDirect }

/-- Reads on, with the option whose value comes next, if there is one. -/
def readFrom? (arguments : Arguments) (pending? : Option Key) : List Bytes → Option Request
  | [] => if pending?.isSome then none else ofArguments? arguments
  | bytes :: rest =>
    match pending?, Word.ofBytes bytes with
    | some key, .plain value => (arguments.set? key value).bind fun next => readFrom? next none rest
    | some _, _ => none
    | none, .plain operand => (arguments.place? operand).bind fun next => readFrom? next none rest
    | none, .separator => (rest.foldlM Arguments.place? arguments).bind ofArguments?
    | none, .option key none => readFrom? arguments (some key) rest
    | none, .option key (some value) =>
      (arguments.set? key value).bind fun next => readFrom? next none rest
    | none, .direct =>
      if arguments.isDirect then none else readFrom? { arguments with isDirect := true } none rest
    | none, .help => some .help
    | none, .version => some .version
    | none, .unknown => none

/-- What a command line asks for, if it is of use. -/
def parse? (arguments : List Bytes) : Option Request := readFrom? {} none arguments

end Request

end ControllerHost.CommandLine
