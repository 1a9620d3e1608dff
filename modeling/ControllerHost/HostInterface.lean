import ControllerHost.Platform
import ControllerHost.Registry.Basic
import ControllerHost.Settings.File

/-!
# The interface for foreign hosts

A foreign host holds registries and passes them to every operation. Any argument that it passes by
address can be missing. With a missing argument, or with a path or an entry point's name that is
no text, an operation is refused before anything happens.

- `HostInterface.create?`, `HostInterface.fromSettings?`, `HostInterface.free`.
- `HostInterface.load`, `HostInterface.unload`.
- `HostInterface.invoke`, on `HostInterface.BufferArguments`.
-/

namespace ControllerHost

namespace HostInterface

variable {B S L : Type}

/-- The text of an argument, which ends before its first NUL. There is none if the argument is
missing or is no text. -/
def text? (argument? : Option Bytes) : Option String :=
  argument?.bind fun bytes => Bytes.text? (Bytes.untilNul bytes)

/-- A registry with a number of connections, for a positive number. -/
def create? (platform : Platform B S L) (connections : Int32) : Option (Registry B S L) :=
  if 0 < connections.toInt then
    some (Registry.create platform.loader { maxConnections := connections.toInt.toNat })
  else none

/-- A registry with the settings in a file, if they are of use. -/
def fromSettings? (platform : Platform B S L) (path? : Option Bytes) (world : World B S) :
    Option (Registry B S L) × World B S :=
  match text? path? with
  | none => (none, world)
  | some path =>
    match Settings.load world.files (.ofText path) with
    | .ok settings => (some (Registry.create platform.loader settings), world)
    | .error failure => (none, world.tell (.settingsRefused path failure.chain))

/-- The world after a host has given up a registry. -/
def free (held? : Option (Registry B S L)) (world : World B S) : World B S :=
  match held? with
  | none => world
  | some registry => (registry.shutDown world).2

/-- Loads a controller into a connection as the registry's settings say. -/
def load (held? : Option (Registry B S L)) (conn : ConnectionId) (path? symbol? : Option Bytes)
    (world : World B S) : Status × Option (Registry B S L) × World B S :=
  match held?, text? path?, text? symbol? with
  | some registry, some path, some symbol =>
    let (result, registry, world) := registry.load conn (.ofText path) symbol world
    (result.status, some registry, world)
  | held?, _, _ => (.invalidArgument, held?, world)

/-- Gives up what is loaded on a connection. A connection that the registry does not have is only
logged. -/
def unload (held? : Option (Registry B S L)) (conn : ConnectionId) (world : World B S) :
    Option (Registry B S L) × World B S :=
  match held? with
  | none => (none, world)
  | some registry =>
    match registry.unload conn world with
    | (.ok (), registry, world) => (some registry, world)
    | (.error unknown, registry, world) =>
      (some registry, world.tell (.unloadIgnored unknown.message))

/-- The buffers of a call, any of which can be missing. -/
structure BufferArguments where
  /-- The swap array. -/
  swap? : Option (List Single)
  /-- The failure flag. -/
  fail? : Option Int32
  /-- The name of the input file. -/
  inFile? : Option Bytes
  /-- The stem of the output files. -/
  outName? : Option Bytes
  /-- The message. -/
  msg? : Option Bytes
deriving DecidableEq

namespace BufferArguments

/-- The buffers, if none is missing. -/
def complete? (arguments : BufferArguments) : Option CallBuffers := do
  let swap ← arguments.swap?
  let fail ← arguments.fail?
  let inFile ← arguments.inFile?
  let outName ← arguments.outName?
  let msg ← arguments.msg?
  return { swap, fail, inFile, outName, msg }

/-- Buffers of which none is missing. -/
def ofBuffers (buffers : CallBuffers) : BufferArguments where
  swap? := some buffers.swap
  fail? := some buffers.fail
  inFile? := some buffers.inFile
  outName? := some buffers.outName
  msg? := some buffers.msg

end BufferArguments

/-- Calls the controller of a connection on buffers that are taken as they are. -/
def invoke (held? : Option (Registry B S L)) (conn : ConnectionId) (arguments : BufferArguments)
    (world : World B S) : Status × BufferArguments × World B S :=
  match held?, arguments.complete? with
  | some registry, some buffers =>
    match registry.invokeUnchecked conn buffers world with
    | (.ok buffers, world) => (.ok, .ofBuffers buffers, world)
    | (.error error, world) => (error.status, arguments, world)
  | _, _ => (.invalidArgument, arguments, world)

end HostInterface

end ControllerHost
