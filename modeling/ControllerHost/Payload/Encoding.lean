import ControllerHost.Payload.Basic

/-!
# The encoding of payloads

A payload is sent as six lengths followed by seven segments. The lengths count elements, four-byte
numbers for the swap array and bytes for the rest; all words have their least significant byte
first.

- `Payload.segments`: the seven segments in order, each with its size, its bytes and what receiving
  it changes. Writing and reading both follow this list.
- `Payload.encode`: the bytes of a payload.
- `Payload.decode`: overwrites a payload with what the bytes hold, segment by segment, up to the
  first segment that is not there in full.
-/

namespace ControllerHost.Payload

/-- Why a payload cannot be encoded or decoded. -/
inductive Error where
  /-- The bytes end within a field. -/
  | truncated (field : String) (needed remaining : Nat)
  /-- A field has more elements than a 32-bit length can count. -/
  | tooLarge (field : String) (length : Nat)
deriving DecidableEq, Repr

/-- The text of an error. -/
def Error.message : Error → String
  | .truncated field needed remaining =>
    s!"payload truncated: needed {needed} more bytes for {field}, {remaining} left"
  | .tooLarge field length =>
    s!"payload field {field} is too large to encode ({length} elements)"

/-- The six lengths that precede the segments. -/
structure Header where
  /-- Number of swap values. -/
  swap : UInt32
  /-- Number of bytes of the input file's name. -/
  inFile : UInt32
  /-- Number of bytes of the output stem. -/
  outName : UInt32
  /-- Number of bytes of the message. -/
  msg : UInt32
  /-- Number of bytes of the file's contents. -/
  fileContent : UInt32
  /-- Number of bytes of the path where the contents belong. -/
  serverFilePath : UInt32
deriving DecidableEq, Repr

namespace Header

/-- The number of bytes of a header. -/
def size : Nat := 24

/-- The bytes of a header. -/
def bytes (header : Header) : Bytes :=
  Bytes.ofWord header.swap ++ Bytes.ofWord header.inFile ++ Bytes.ofWord header.outName
    ++ Bytes.ofWord header.msg ++ Bytes.ofWord header.fileContent
    ++ Bytes.ofWord header.serverFilePath

/-- The header whose words these are, if they are six. -/
def ofWords? : List UInt32 → Option Header
  | [swap, inFile, outName, msg, fileContent, serverFilePath] =>
    some { swap, inFile, outName, msg, fileContent, serverFilePath }
  | _ => none

end Header

/-- The words that a byte string holds, without an incomplete last one. -/
def words : Bytes → List UInt32
  | a :: b :: c :: d :: rest => Bytes.toWord a b c d :: words rest
  | _ => []

/-- A part of the encoding: what its bytes are and what receiving them changes. -/
structure Segment where
  /-- The name of the segment in errors. -/
  name : String
  /-- The number of bytes that a header announces. -/
  size : Header → Nat
  /-- The segment's bytes in a payload. -/
  bytes : Payload → Bytes
  /-- The payload after the segment's bytes have been received. -/
  store : Bytes → Payload → Payload

/-- The segments of the encoding, in order. -/
def segments : List Segment :=
  [ { name := "swap"
      size := fun header => 4 * header.swap.toNat
      bytes := fun payload => payload.call.swap.flatMap fun value => Bytes.ofWord value.bits
      store := fun bytes payload =>
        { payload with call := { payload.call with swap := (words bytes).map Single.mk } } },
    { name := "fail"
      size := fun _ => 4
      bytes := fun payload => Bytes.ofWord payload.call.fail.toUInt32
      store := fun bytes payload =>
        { payload with
          call := { payload.call with fail := ((words bytes).headD 0).toInt32 } } },
    { name := "in_file"
      size := fun header => header.inFile.toNat
      bytes := fun payload => payload.call.inFile
      store := fun bytes payload =>
        { payload with call := { payload.call with inFile := bytes } } },
    { name := "out_name"
      size := fun header => header.outName.toNat
      bytes := fun payload => payload.call.outName
      store := fun bytes payload =>
        { payload with call := { payload.call with outName := bytes } } },
    { name := "msg"
      size := fun header => header.msg.toNat
      bytes := fun payload => payload.call.msg
      store := fun bytes payload =>
        { payload with call := { payload.call with msg := bytes } } },
    { name := "file_content"
      size := fun header => header.fileContent.toNat
      bytes := fun payload => payload.fileContent
      store := fun bytes payload => { payload with fileContent := bytes } },
    { name := "server_file_path"
      size := fun header => header.serverFilePath.toNat
      bytes := fun payload => payload.serverFilePath
      store := fun bytes payload => { payload with serverFilePath := bytes } } ]

/-- The lengths of a payload, in the order of the header. -/
def lengths (payload : Payload) : List (String × Nat) :=
  [("swap", payload.call.swap.length), ("in_file", payload.call.inFile.length),
    ("out_name", payload.call.outName.length), ("msg", payload.call.msg.length),
    ("file_content", payload.fileContent.length),
    ("server_file_path", payload.serverFilePath.length)]

/-- The number of bytes of a payload's encoding. -/
def encodedLength (payload : Payload) : Nat :=
  Header.size + 4 * payload.call.swap.length + 4 + payload.call.inFile.length
    + payload.call.outName.length + payload.call.msg.length + payload.fileContent.length
    + payload.serverFilePath.length

/-- The header that announces a payload's segments. -/
def header (payload : Payload) : Header where
  swap := UInt32.ofNat payload.call.swap.length
  inFile := UInt32.ofNat payload.call.inFile.length
  outName := UInt32.ofNat payload.call.outName.length
  msg := UInt32.ofNat payload.call.msg.length
  fileContent := UInt32.ofNat payload.fileContent.length
  serverFilePath := UInt32.ofNat payload.serverFilePath.length

/-- The encoding of a payload, unless one of its lengths does not fit a word. -/
def encode (payload : Payload) : Except Error Bytes :=
  match payload.lengths.find? fun (_, length) => length ≥ 0x100000000 with
  | some (field, length) => .error (.tooLarge field length)
  | none => .ok (payload.header.bytes ++ segments.flatMap fun segment => segment.bytes payload)

/-- Receives the given segments one after another, up to the first that is not there in full. -/
def receive (header : Header) : List Segment → Payload → Bytes → Payload × Except Error Unit
  | [], payload, _ => (payload, .ok ())
  | segment :: rest, payload, bytes =>
    -- what was stored before stays stored
    if bytes.length < segment.size header then
      (payload, .error (.truncated segment.name (segment.size header) bytes.length))
    else
      receive header rest (segment.store (bytes.take (segment.size header)) payload)
        (bytes.drop (segment.size header))

/-- Overwrites a payload with the one that the bytes hold. Bytes after the last segment are
ignored; after an error the fields before the named one are overwritten and the others are kept. -/
def decode (payload : Payload) (bytes : Bytes) : Payload × Except Error Unit :=
  match Header.ofWords? (words (bytes.take Header.size)) with
  | none => (payload, .error (.truncated "header" Header.size bytes.length))
  | some header => receive header segments payload (bytes.drop Header.size)

/-- The payload that the bytes hold. -/
def ofBytes (bytes : Bytes) : Except Error Payload :=
  match decode {} bytes with
  | (payload, .ok ()) => .ok payload
  | (_, .error error) => .error error

end ControllerHost.Payload
