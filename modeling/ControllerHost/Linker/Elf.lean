import ControllerHost.Linker.Basic

/-!
# Shared objects

The libraries of this platform are shared objects for a 64-bit machine, least significant byte
first. Of such a file the linker reads the header, the segments, the dynamic section and the
symbols. It looks at no code and at no relocation.

- `Elf.headerFault?`: what is wrong with the first bytes of a file.
- `Elf.Dynamic`: the dynamic section, with `Elf.Dynamic.textsOf` and `Elf.Dynamic.symbolCount`.
- `Elf.symbols`: the symbols, each with its address.
- `Elf.read`: what the contents of a file come to.
-/

namespace ControllerHost.Elf

/-- The contents of a file. -/
abbrev Data := Array UInt8

/-- The number in some bytes from an offset on, the least significant one first. -/
def number (data : Data) (offset : Nat) : Nat → Nat
  | 0 => 0
  | size + 1 => ((data[offset]?).getD 0).toNat + 0x100 * number data (offset + 1) size

/-- The bytes from an offset on, up to a NUL. The last argument bounds how many there are. -/
def textFrom (data : Data) (offset : Nat) : Nat → Bytes
  | 0 => []
  | size + 1 =>
    match data[offset]? with
    | none | some 0 => []
    | some byte => byte :: textFrom data (offset + 1) size

/-- The bytes from an offset on, up to a NUL. -/
def textAt (data : Data) (offset : Nat) : Bytes := textFrom data offset (data.size - offset)

/-- The number of bytes that a header takes. -/
def headerSize : Nat := 64

/-- The number of bytes that the description of a segment takes. -/
def segmentSize : Nat := 56

/-- What is wrong with a file's header. It must announce a 64-bit object, least significant byte
first, of the current version and a known system. -/
def headerFault? (data : Data) : Option String :=
  if data.size < headerSize then some "file too short"
  else if number data 0 4 ≠ 0x464C457F then some "invalid ELF header"
  else if number data 4 1 ≠ 2 then some "wrong ELF class: ELFCLASS32"
  else if number data 5 1 ≠ 1 then some "ELF file data encoding not little-endian"
  else if number data 6 1 ≠ 1 then some "ELF file version ident does not match current one"
  else if number data 7 1 ≠ 0 ∧ number data 7 1 ≠ 3 then some "ELF file OS ABI invalid"
  else if number data 8 1 ≠ 0 then some "ELF file ABI version invalid"
  else if number data 9 7 ≠ 0 then some "nonzero padding in e_ident"
  else if number data 20 4 ≠ 1 then some "ELF file version does not match current one"
  else if number data 16 2 ≠ 3 ∧ number data 16 2 ≠ 2 then
    some "only ET_DYN and ET_EXEC can be loaded"
  else if number data 54 2 ≠ segmentSize then some "ELF file's phentsize not the expected size"
  else none

/-- A part of a file, and where it goes in memory. -/
structure Segment where
  /-- What the segment is for: 1 if it is loaded, 2 if it is the dynamic section. -/
  kind : Nat
  /-- Where it begins in the file. -/
  offset : Nat
  /-- Where it begins in memory. -/
  address : Nat
  /-- How many bytes it takes in the file. -/
  size : Nat

/-- The segments of a file. -/
def segments (data : Data) : List Segment :=
  (List.range (number data 56 2)).map fun index =>
    let start := number data 32 8 + segmentSize * index
    { kind := number data start 4
      offset := number data (start + 8) 8
      address := number data (start + 16) 8
      size := number data (start + 32) 8 }

/-- The offset in the file of what is loaded to an address. -/
def offsetOf (segments : List Segment) (address : Nat) : Nat :=
  match segments.find? fun segment =>
      segment.kind = 1 ∧ segment.address ≤ address ∧ address < segment.address + segment.size with
  | some segment => segment.offset + (address - segment.address)
  | none => address

/-- The dynamic section of a file. -/
structure Dynamic where
  /-- The entries, each a tag with a value. -/
  entries : List (Nat × Nat)
  /-- Where the texts begin in the file. -/
  texts : Nat
  /-- Where the symbols begin in the file. -/
  symbols : Nat

namespace Dynamic

/-- The dynamic section that a segment holds. It ends with an entry of tag 0. -/
def ofSegment (data : Data) (segments : List Segment) (segment : Segment) : Dynamic :=
  let entries := ((List.range (segment.size / 16)).map fun index =>
    (number data (segment.offset + 16 * index) 8,
      number data (segment.offset + 16 * index + 8) 8)).takeWhile (·.1 ≠ 0)
  { entries
    texts := offsetOf segments ((entries.lookup 5).getD 0)
    symbols := offsetOf segments ((entries.lookup 6).getD 0) }

/-- The texts of the entries with a tag. -/
def textsOf (dynamic : Dynamic) (data : Data) (tag : Nat) : List Bytes :=
  dynamic.entries.filterMap fun entry =>
    if entry.1 = tag then some (textAt data (dynamic.texts + entry.2)) else none

/-- How many symbols there are. The hash table counts them; without one they end where the texts
begin. -/
def symbolCount (dynamic : Dynamic) (data : Data) (segments : List Segment) : Nat :=
  match dynamic.entries.lookup 4 with
  | some table => number data (offsetOf segments table + 4) 4
  | none => (dynamic.texts - dynamic.symbols) / 24

end Dynamic

/-- The names that a file defines, each with its address. -/
def symbols (data : Data) (segments : List Segment) (dynamic : Dynamic) : List (Bytes × Nat) :=
  (List.range (dynamic.symbolCount data segments)).filterMap fun index =>
    let start := dynamic.symbols + 24 * index
    -- a symbol that belongs to no section is defined elsewhere, and a local one is not exported
    if number data (start + 6) 2 = 0 ∨ number data (start + 4) 1 < 16 then none
    else some (textAt data (dynamic.texts + number data start 4), number data (start + 8) 8)

/-- What the contents of a file come to, for routines and static state of which nothing is known. -/
def read {σ : Type} (initial : σ) (routine : Routine σ) (contents : Bytes) :
    Except String (SharedLibrary σ) :=
  let data := contents.toArray
  let segments := segments data
  match headerFault? data, segments.find? (·.kind = 2) with
  | some fault, _ => .error fault
  | none, none =>
    if segments.any (·.kind = 1) then .error "object file has no dynamic section"
    else .error "object file has no loadable segments"
  | none, some segment =>
    if !segments.any (·.kind = 1) then .error "object file has no loadable segments"
    else
      let dynamic := Dynamic.ofSegment data segments segment
      let exported := symbols data segments dynamic
      .ok
        { soname? := (dynamic.textsOf data 14).head?
          needs := dynamic.textsOf data 1
          runPath := (dynamic.textsOf data 29).flatMap (Bytes.split 0x3A)
          initial
          export? := fun name =>
            (exported.lookup name).map fun address => if address = 0 then none else some routine }

end ControllerHost.Elf
