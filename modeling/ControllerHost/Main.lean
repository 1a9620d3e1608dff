import ControllerHost.CommandLine.Checking
import ControllerHost.Linker.Elf

/-!
# The program

The outer layer of the command line. It takes the files that the arguments name from the real file
system, runs the check on them with a linker that reads shared objects, and writes what comes of it.
Nothing is written to the real file system, and no library is executed.
-/

namespace ControllerHost.Program

/-- The file system with a directory, if it can be created. -/
def withDirectory (files : FileSystem) (path : Path) : FileSystem :=
  match files.createDirectories path with
  | .ok files => files
  | .error _ => files

/-- The file system with a file, if it can be written. -/
def withFile (files : FileSystem) (path : Path) (bytes : Bytes) : FileSystem :=
  let files := match path.parent? with
    | some parent => withDirectory files parent
    | none => files
  match files.write path bytes with
  | .ok files => files
  | .error _ => files

/-- Takes over what stands at a path, with the directories that lead to it. -/
def takeOver (files : FileSystem) (path : Path) : IO FileSystem := do
  let place := (← IO.currentDir) / path.shown
  let path := Path.ofText place.toString
  if ← place.isDir then return withDirectory files path
  else if ← place.pathExists then
    return withFile files path (← IO.FS.readBinFile place).data.toList
  else
    match place.parent with
    | some parent =>
      if ← parent.isDir then return withDirectory files (.ofText parent.toString)
      else return files
    | none => return files

/-- The directories with the libraries of the system. -/
def libraryDirectories : List String :=
  ["/lib/x86_64-linux-gnu", "/usr/lib/x86_64-linux-gnu", "/lib64", "/usr/lib64", "/lib", "/usr/lib"]

/-- A controller that is never called. -/
def uncalled : Routine Unit where
  run state buffers := (state, buffers)
  keepsLengths _ _ := ⟨rfl, rfl, rfl, rfl⟩

/-- What the contents of a library file come to. -/
def read (contents : Bytes) : Except String (SharedLibrary Unit) := Elf.read () uncalled contents

/-- The linker of the system, with what it finds under the name of a library. -/
def linkerFor (library : Path) : IO (Linker Unit) := do
  let mut names : List Bytes := []
  let mut found? : Option (SharedLibrary Unit) := none
  for text in libraryDirectories do
    let directory := (← IO.currentDir) / text
    if ← directory.isDir then
      for entry in ← directory.readDir do
        names := Bytes.ofText entry.fileName :: names
        if Bytes.ofText entry.fileName = library.bytes && found?.isNone then
          if let .ok library := read (← IO.FS.readBinFile entry.path).data.toList then
            found? := some library
  -- of what a library only needs it does not matter what it exports
  let system (name : Bytes) : Option (SharedLibrary Unit) :=
    if name = library.bytes then found? else if name ∈ names then some { initial := () } else none
  return {
    read
    system
    program := { initial := () }
    tokens :=
      [(Bytes.ofText "LIB", Bytes.ofText "lib/x86_64-linux-gnu"),
        (Bytes.ofText "PLATFORM", Bytes.ofText "x86_64")] }

/-- What the program acts on. -/
abbrev ProgramWorld := World (Linker.Books Unit) (Linker.State Unit)

/-- A world in which nothing is open. -/
def emptyWorld (files : FileSystem) (tempDir : Path) : ProgramWorld :=
  { files, tempDir, books := [], state := fun _ => () }

/-- The world of a check: the working directory, the one for temporary files, and the files that
the check is about. -/
def worldOf (check : CommandLine.Check) (home? : Option Path) : IO ProgramWorld := do
  let current := (← IO.currentDir).toString
  let tempDir := Path.ofText ((← IO.getEnv "TMPDIR").getD "/tmp")
  let workDir := (Bytes.split Path.separator (Bytes.ofText current)).filter (· ≠ [])
  let settingsFile? := check.settingsFile?.orElse fun _ => home?.map Settings.defaultPath
  let mut files := withDirectory { workDir } (.ofText current)
  for path in [tempDir, check.library] ++ settingsFile?.toList do
    files ← takeOver files path
  if let some (.ok text) := settingsFile?.map files.readText then
    if let .ok { copyDir? := some directory, .. } := Settings.parse text then
      files ← takeOver files directory
  return emptyWorld files tempDir

/-- A log record in one line. -/
def line (record : Log.Record) : String :=
  record.severity.name ++ " " ++ record.source.target ++ ": " ++ record.message
    ++ String.join (record.fields.map fun (name, value) => " " ++ name ++ "=" ++ value)

/-- Writes the log records that pass the filter of the check's debug level. -/
def writeLog (check : CommandLine.Check) (home? : Option Path) (world : ProgramWorld) :
    IO Unit := do
  if let .ok settings := check.settings world.files home? then
    for record in (Log.Filter.ofLevel settings.debugLevel).select world.records do
      IO.eprintln (line record)

end ControllerHost.Program

open ControllerHost in
/-- Checks the controller that the arguments name. The exit code says what came of it. -/
def main (texts : List String) : IO UInt32 := do
  let arguments := texts.map Bytes.ofText
  let home? := (← IO.getEnv "HOME").bind fun home =>
    if home = "" then none else some (Path.ofText home)
  let outcome ← match CommandLine.Request.parse? arguments with
    | some (.check check) =>
      let linker ← Program.linkerFor check.library
      let before ← Program.worldOf check home?
      let (outcome, world) := CommandLine.run linker.platform arguments home? before
      Program.writeLog check home? world
      pure outcome
    | request? =>
      if request?.isNone then
        IO.eprint ("error: the arguments are of no use\n\n" ++ CommandLine.usageText)
      let linker : Linker Unit := { read := Program.read, program := { initial := () } }
      let world := Program.emptyWorld {} (.ofText "/tmp")
      pure (CommandLine.run linker.platform arguments home? world).1
  IO.print outcome.output
  if let some complaint := outcome.complaint? then
    IO.eprintln ("Error: " ++ complaint)
  return UInt32.ofNat outcome.code
