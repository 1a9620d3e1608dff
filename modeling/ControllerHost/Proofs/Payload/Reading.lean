import ControllerHost.Proofs.Payload.Truncation
import Mathlib.Data.List.TakeDrop

/-!
# Reading payloads

The lengths in a header come from outside and say how much room the buffers of a payload are to have
and how many bytes are to be read into them. A read that takes more bytes than are left ends the
program, so each one has to be preceded by a question that refuses to go on. This file takes
decoding apart into its reads and finds that the questions are enough: no read takes more than there
is, and no buffer is ever given more room than the bytes that are left would fill.

Room is what a buffer's length is set to. What a buffer that grows may set aside beyond that is up
to the allocation of buffers and does not come from the header.

- `Payload.Demand`: the bytes or the room that a step asks for, and how many bytes are left then.
- `Payload.Reader`, `Payload.Reading`: programs that read, with what they have asked for so far.
- `Payload.Reading.payload`: decoding, read by read.
- `Payload.Reader.Uses`: what has been asked for between two places of a program.
- `Payload.Reading.Receives`: programs that come to the same as receiving some segments.
- `Payload.decode_within_bytes`: decoding asks for nothing that is not there.
-/

namespace ControllerHost.Payload

/-! ### Demands -/

/-- What a step asks for. -/
inductive Demand.Kind where
  /-- Bytes, which it takes from the front of those that are left. -/
  | bytes
  /-- Room in a buffer. -/
  | room
deriving DecidableEq

/-- A step asks for something. -/
structure Demand where
  /-- What it asks for. -/
  kind : Demand.Kind
  /-- How many bytes it asks for, or how many bytes the buffer is to have room for. -/
  size : Nat
  /-- How many bytes are left when it asks. -/
  left : Nat

/-- The number of bytes in all demands of one kind. -/
def Demand.total (kind : Demand.Kind) (demands : List Demand) : Nat :=
  ((demands.filter fun demand => demand.kind = kind).map Demand.size).foldr (· + ·) 0

theorem Demand.total_append (kind : Demand.Kind) (first second : List Demand) :
    total kind (first ++ second) = total kind first + total kind second := by
  simp only [total, List.filter_append, List.map_append, ← List.sum_eq_foldr, List.sum_append]

/-! ### Programs that read -/

/-- Where a program that reads has got to. -/
structure Reader where
  /-- The payload that is overwritten. -/
  target : Payload
  /-- The bytes that are left. -/
  rest : Bytes
  /-- What has been asked for so far. -/
  demands : List Demand := []

/-- Why a program that reads ends early. -/
inductive Stop where
  /-- A step took more bytes than were left. -/
  | overrun
  /-- It was found out in time that too few bytes are left. -/
  | refused (error : Error)

/-- A program that reads. -/
abbrev Reading := EStateM Stop Reader

/-- The product of two machine words, or the greatest machine word if the product is none. -/
def saturatingMul (first second : UInt64) : UInt64 :=
  if first.toNat * second.toNat < UInt64.size then first * second
  else UInt64.ofNat (UInt64.size - 1)

/-- Four times a word is a machine word. -/
theorem saturatingMul_four (length : UInt32) :
    saturatingMul length.toUInt64 4 = length.toUInt64 * 4
      ∧ (length.toUInt64 * 4).toNat = 4 * length.toNat := by
  have hbound := length.toNat_lt
  have hfour : (4 : UInt64).toNat = 4 := rfl
  have hsize : UInt64.size = 2 ^ 64 := rfl
  constructor
  · rw [saturatingMul, if_pos]
    rw [UInt32.toNat_toUInt64, hfour, hsize]
    omega
  · rw [UInt64.toNat_mul, UInt32.toNat_toUInt64, hfour]
    omega

/-- A payload with another swap array. -/
def withSwap (payload : Payload) (swap : List Single) : Payload :=
  { payload with call := { payload.call with swap } }

namespace Reading

/-- Refuses to go on if fewer bytes are left. -/
def need (name : String) (size : Nat) : Reading Unit := do
  let left := (← get).rest.length
  if left < size then throw (.refused (.truncated name size left))

/-- Asks for something. -/
def demand (kind : Demand.Kind) (size : Nat) : Reading Unit :=
  modify fun reader =>
    { reader with demands := reader.demands ++ [⟨kind, size, reader.rest.length⟩] }

/-- Takes bytes from the front, without a question before. -/
def take (size : Nat) : Reading Bytes := do
  demand .bytes size
  let rest := (← get).rest
  if rest.length < size then throw .overrun
  modify fun reader => { reader with rest := rest.drop size }
  return rest.take size

/-- Takes a word, least significant byte first. -/
def word : Reading UInt32 := do
  return (words (← take 4)).headD 0

/-- Overwrites a part of the payload. -/
def store (change : Payload → Payload) : Reading Unit :=
  modify fun reader => { reader with target := change reader.target }

/-- Overwrites a part of the payload by a buffer of another length. All of the buffer counts as new
room, whatever room there was. -/
def resize (segment : Segment) (change : Payload → Payload) : Reading Unit := do
  demand .room (segment.bytes (change (← get).target)).length
  store change

/-- Reads the six lengths. -/
def header : Reading Header := do
  need "header" Header.size
  let swap ← word
  let inFile ← word
  let outName ← word
  let msg ← word
  let fileContent ← word
  let serverFilePath ← word
  return { swap, inFile, outName, msg, fileContent, serverFilePath }

/-- Reads as many numbers into the swap array as it has places. -/
def swap (length : UInt32) : Reading Unit := do
  need "swap" (saturatingMul length.toUInt64 4).toNat
  resize segments[0] fun payload =>
    payload.withSwap (payload.call.swap.takeD length.toUInt64.toNat Single.zero)
  let values ← (← get).target.call.swap.mapM fun _ => Single.mk <$> word
  store fun payload => payload.withSwap values

/-- Reads the flag. -/
def fail : Reading Unit := do
  need "fail" 4
  let flag ← word
  store fun payload => { payload with call := { payload.call with fail := flag.toInt32 } }

/-- Reads as many bytes into a buffer as it has places. -/
def buffer (segment : Segment) (length : UInt32) : Reading Unit := do
  need segment.name length.toUInt64.toNat
  resize segment fun payload =>
    segment.store ((segment.bytes payload).takeD length.toUInt64.toNat 0) payload
  let bytes ← take (segment.bytes (← get).target).length
  store (segment.store bytes)

/-- Reads what is behind a header. -/
def body (header : Header) : Reading Unit := do
  swap header.swap
  fail
  buffer segments[2] header.inFile
  buffer segments[3] header.outName
  buffer segments[4] header.msg
  buffer segments[5] header.fileContent
  buffer segments[6] header.serverFilePath

/-- Reads a payload. -/
def payload : Reading Unit := do
  body (← header)

/-- What comes of a program. -/
def outcome {α : Type} : EStateM.Result Stop Reader α → Except Stop α
  | .ok value _ => .ok value
  | .error stop _ => .error stop

/-- Where a program ends. -/
def last {α : Type} : EStateM.Result Stop Reader α → Reader
  | .ok _ reader => reader
  | .error _ reader => reader

end Reading

/-! ### Steps -/

/-- From one place of a program to another, no demand exceeds the bytes that are left, and in total
so many bytes are taken and so much room is made. -/
structure Reader.Uses (start stop : Reader) (read room : Nat) : Prop where
  /-- The bytes are there. -/
  covered : read ≤ start.rest.length
  /-- They are taken from the front. -/
  rest : stop.rest = start.rest.drop read
  /-- All that is asked for is there. -/
  demands : ∃ demands, stop.demands = start.demands ++ demands
    ∧ (∀ demand ∈ demands, demand.size ≤ demand.left)
    ∧ Demand.total .bytes demands = read ∧ Demand.total .room demands = room

/-- A reader after bytes have been taken. -/
def Reader.taking (reader : Reader) (size : Nat) : Reader where
  target := reader.target
  rest := reader.rest.drop size
  demands := reader.demands ++ [⟨.bytes, size, reader.rest.length⟩]

/-- A reader after a buffer has been given another length. -/
def Reader.resized (reader : Reader) (segment : Segment) (change : Payload → Payload) : Reader where
  target := change reader.target
  rest := reader.rest
  demands := reader.demands
    ++ [⟨.room, (segment.bytes (change reader.target)).length, reader.rest.length⟩]

/-- A reader after a part of the payload has been overwritten. -/
def Reader.storing (reader : Reader) (change : Payload → Payload) : Reader :=
  { reader with target := change reader.target }

variable {start middle stop : Reader} {read read' room room' : Nat} {segment : Segment}
  {change : Payload → Payload}

namespace Reader

theorem Uses.refl (start : Reader) : start.Uses start 0 0 :=
  ⟨Nat.zero_le _, rfl, [], (List.append_nil _).symm, List.forall_mem_nil _, rfl, rfl⟩

/-- What two readings in a row use up adds up, of the bytes and of the room. -/
theorem Uses.trans (hfirst : start.Uses middle read room)
    (hsecond : middle.Uses stop read' room') : start.Uses stop (read + read') (room + room') := by
  obtain ⟨hcovered, hrest, demands, hdemands, hmet, hread, hroom⟩ := hfirst
  obtain ⟨hcovered', hrest', demands', hdemands', hmet', hread', hroom'⟩ := hsecond
  rw [hrest, List.length_drop] at hcovered'
  refine ⟨by omega, by rw [hrest', hrest, List.drop_drop], demands ++ demands', ?_, ?_, ?_, ?_⟩
  · rw [hdemands', hdemands, List.append_assoc]
  · exact List.forall_mem_append.2 ⟨hmet, hmet'⟩
  · rw [Demand.total_append, hread, hread']
  · rw [Demand.total_append, hroom, hroom']

/-- Taking bytes that are there reads them and makes no room. -/
theorem uses_taking {size : Nat} (hsize : size ≤ start.rest.length) :
    start.Uses (start.taking size) size 0 :=
  ⟨hsize, rfl, [⟨.bytes, size, start.rest.length⟩], rfl, List.forall_mem_singleton.2 hsize, rfl,
    rfl⟩

/-- A buffer resized within the bytes that are left takes no more room than those. -/
theorem uses_resized
    (hsize : (segment.bytes (change start.target)).length ≤ start.rest.length) :
    start.Uses (start.resized segment change) 0 (segment.bytes (change start.target)).length :=
  ⟨Nat.zero_le _, rfl, [⟨.room, _, start.rest.length⟩], rfl, List.forall_mem_singleton.2 hsize, rfl,
    rfl⟩

/-- Storing a field reads nothing and makes no room. -/
theorem Uses.storing (huses : start.Uses stop read room) (change : Payload → Payload) :
    start.Uses (stop.storing change) read room :=
  ⟨huses.covered, huses.rest, huses.demands⟩

end Reader

namespace Reading

variable {α β : Type} {value : α} {reading : Reading α}

/-- A reading that goes well hands its value and its reader to the next. -/
theorem run_bind_of_ok (hok : reading.run start = .ok value middle) (next : α → Reading β) :
    (reading >>= next).run start = (next value).run middle := by
  rw [EStateM.run_bind, hok]

/-- After a reading that stopped, nothing further is read. -/
theorem run_bind_of_error {reason : Stop} (herror : reading.run start = .error reason stop)
    (next : α → Reading β) : (reading >>= next).run start = .error reason stop := by
  rw [EStateM.run_bind, herror]

/-- A part with too few bytes left is refused with its name, its size and the bytes that are
left. -/
theorem run_need_of_lt (name : String) {size : Nat} (hshort : start.rest.length < size) :
    (need name size).run start =
      .error (.refused (.truncated name size start.rest.length)) start := by
  simp [need, EStateM.run_bind, hshort]

/-- A part whose bytes are all there is not refused, and none of them is read yet. -/
theorem run_need_of_le (name : String) {size : Nat} (hsize : size ≤ start.rest.length) :
    (need name size).run start = .ok () start := by
  simp [need, EStateM.run_bind, Nat.not_lt.2 hsize]

/-- What is there can be taken. -/
theorem run_take {size : Nat} (hsize : size ≤ start.rest.length) :
    (take size).run start = .ok (start.rest.take size) (start.taking size) := by
  simp only [take, demand, EStateM.run_bind, EStateM.run_modify, EStateM.run_get,
    if_neg (Nat.not_lt.2 hsize), EStateM.run_pure]
  rfl

/-- With four bytes left, a word is read from them. -/
theorem run_word_of_le (hsize : 4 ≤ start.rest.length) :
    word.run start = .ok ((words (start.rest.take 4)).headD 0) (start.taking 4) := by
  rw [word, run_bind_of_ok (run_take hsize), EStateM.run_pure]

/-- A word that stands at the front is the one read, and uses its four bytes. -/
theorem run_word {word : UInt32} {rest : Bytes} (hrest : start.rest = Bytes.ofWord word ++ rest) :
    Reading.word.run start = .ok word (start.taking 4) ∧ start.Uses (start.taking 4) 4 0
      ∧ (start.taking 4).rest = rest := by
  have hsize : 4 ≤ start.rest.length := by simp [hrest]
  have hword : (words (start.rest.take 4)).headD 0 = word := by
    rw [hrest, List.take_left' (Bytes.length_ofWord word), words_ofWord, List.headD_cons]
  refine ⟨hword ▸ run_word_of_le hsize, Reader.uses_taking hsize, ?_⟩
  rw [Reader.taking, hrest]
  exact List.drop_left' (Bytes.length_ofWord word)

theorem run_resize (segment : Segment) (change : Payload → Payload) (start : Reader) :
    (resize segment change).run start = .ok () (start.resized segment change) := rfl

theorem run_store (change : Payload → Payload) (start : Reader) :
    (store change).run start = .ok () (start.storing change) := rfl

/-! ### Parts of a payload -/

/-- Reading a number into each place of a buffer takes as many words. -/
theorem run_singles (buffer : List Single) {list : List UInt32} {rest : Bytes}
    (hlength : buffer.length = list.length)
    (hrest : start.rest = list.flatMap Bytes.ofWord ++ rest) :
    ∃ stop, (buffer.mapM fun _ => Single.mk <$> word).run start = .ok (list.map Single.mk) stop
      ∧ start.Uses stop (4 * list.length) 0 ∧ stop.target = start.target := by
  -- on the words, of which each fills the next place
  induction list generalizing buffer start with
  | nil =>
    rw [List.length_nil, List.length_eq_zero_iff] at hlength
    subst hlength
    exact ⟨start, rfl, .refl start, rfl⟩
  | cons word list ih =>
    obtain ⟨place, buffer, rfl⟩ := List.exists_cons_of_length_eq_add_one hlength
    rw [List.flatMap_cons, List.append_assoc] at hrest
    obtain ⟨hword, huses, htaken⟩ := run_word hrest
    obtain ⟨stop, hlist, huses', htarget⟩ := ih buffer (Nat.succ.inj hlength) htaken
    have hsingle : (Single.mk <$> Reading.word).run start =
        .ok (Single.mk word) (start.taking 4) := by
      rw [map_eq_pure_bind, run_bind_of_ok hword, EStateM.run_pure]
    refine ⟨stop, ?_, ?_, htarget⟩
    · rw [List.mapM_cons, run_bind_of_ok hsingle, run_bind_of_ok hlist, EStateM.run_pure,
        List.map_cons]
    · have hall := huses.trans huses'
      rwa [Nat.add_comm 4, ← Nat.mul_succ] at hall

/-- What was stored last is what counts. -/
theorem store_store (hsegment : segment ∈ segments) (bytes bytes' : Bytes) (payload : Payload) :
    segment.store bytes (segment.store bytes' payload) = segment.store bytes payload := by
  simp only [segments, List.mem_cons, List.not_mem_nil, or_false] at hsegment
  obtain rfl | rfl | rfl | rfl | rfl | rfl | rfl := hsegment
  all_goals rfl

/-- A program comes to what receiving some segments comes to. It asks for no more than there is, and
for no more room than it has read bytes for. -/
def Receives (header : Header) (list : List Segment) (reading : Reading Unit) : Prop :=
  ∀ start : Reader, ∃ stop read room, start.Uses stop read room ∧ room ≤ read
    ∧ (reading.run start = .ok () stop
        ∧ receive header list start.target start.rest = (stop.target, .ok ())
        ∧ read = total header list
      ∨ ∃ error, reading.run start = .error (.refused error) stop
        ∧ receive header list start.target start.rest = (stop.target, .error error))

variable {header : Header} {reading reading' : Reading Unit}

/-- A program receives one segment if it first asks whether the segment is there in full, and then
stores it. -/
theorem receives_singleton {next : Reading Unit}
    (hnext : ∀ start : Reader, segment.size header ≤ start.rest.length →
      ∃ stop room, next.run start = .ok () stop
        ∧ start.Uses stop (segment.size header) room ∧ room ≤ segment.size header
        ∧ stop.target = segment.store (start.rest.take (segment.size header)) start.target) :
    Receives header [segment] (need segment.name (segment.size header) >>= fun _ => next) := by
  intro start
  by_cases hsize : start.rest.length < segment.size header
  · refine ⟨start, 0, 0, .refl start, Nat.le_refl 0, .inr ⟨_, ?_, by rw [receive, if_pos hsize]⟩⟩
    exact run_bind_of_error (run_need_of_lt segment.name hsize) _
  · have hwhole := Nat.le_of_not_lt hsize
    obtain ⟨stop, room, hrun, huses, hroom, htarget⟩ := hnext start hwhole
    refine ⟨stop, _, room, huses, hroom, .inl ⟨?_, ?_, rfl⟩⟩
    · rw [run_bind_of_ok (run_need_of_le segment.name hwhole), hrun]
    · rw [receive, if_neg hsize, receive, htarget]

theorem total_append (header : Header) (first second : List Segment) :
    total header (first ++ second) = total header first + total header second := by
  simp only [total, ← List.sum_eq_foldr, List.map_append, List.sum_append]

theorem Receives.andThen {first second : List Segment} (hfirst : Receives header first reading)
    (hsecond : Receives header second reading') :
    Receives header (first ++ second) (reading >>= fun _ => reading') := by
  intro start
  rw [receive_concat]
  obtain ⟨middle, read, room, huses, hroom, hmiddle⟩ := hfirst start
  obtain ⟨hrun, hreceive, rfl⟩ | ⟨error, hrun, hreceive⟩ := hmiddle
  · obtain ⟨stop, read', room', huses', hroom', hstop⟩ := hsecond middle
    refine ⟨stop, _, _, huses.trans huses', Nat.add_le_add hroom hroom', ?_⟩
    rw [run_bind_of_ok hrun, hreceive]
    simp only [← huses.rest]
    obtain ⟨hrun', hreceive', rfl⟩ | herror := hstop
    · exact .inl ⟨hrun', hreceive', (total_append ..).symm⟩
    · exact .inr herror
  · refine ⟨middle, read, room, huses, hroom, .inr ⟨error, run_bind_of_error hrun _, ?_⟩⟩
    rw [hreceive]

/-- Reading the swap array stores it as the first segment. -/
theorem receives_swap (header : Header) : Receives header [segments[0]] (swap header.swap) := by
  have hneeded : (saturatingMul header.swap.toUInt64 4).toNat = 4 * header.swap.toNat := by
    rw [(saturatingMul_four header.swap).1, (saturatingMul_four header.swap).2]
  rw [swap, hneeded]
  apply receives_singleton
  intro start (hwhole : 4 * header.swap.toNat ≤ start.rest.length)
  let change (payload : Payload) :=
    payload.withSwap (payload.call.swap.takeD header.swap.toUInt64.toNat Single.zero)
  have hplaces : (change start.target).call.swap.length = header.swap.toNat := by
    rw [← UInt32.toNat_toUInt64]
    exact List.takeD_length ..
  have hroom : (segments[0].bytes (change start.target)).length = 4 * header.swap.toNat := by
    rw [← hplaces]
    exact length_flatMap_bits _
  -- the bytes of the segment are the words that are read
  obtain ⟨hwords, hcount⟩ := flatMap_ofWord_words (List.length_take_of_le hwhole)
  have hrest : (start.resized segments[0] change).rest =
      (words (start.rest.take (4 * header.swap.toNat))).flatMap Bytes.ofWord
        ++ start.rest.drop (4 * header.swap.toNat) := by
    rw [hwords, List.take_append_drop]
    rfl
  obtain ⟨stop, hsingles, huses, htarget⟩ :=
    run_singles (start.resized segments[0] change).target.call.swap
      (hplaces.trans hcount.symm) hrest
  rw [hcount] at huses
  have hall := (Reader.uses_resized (hroom ▸ hwhole)).trans huses
  rw [hroom, Nat.zero_add, Nat.add_zero] at hall
  refine ⟨_, _, ?_, hall.storing fun payload => payload.withSwap
    ((words (start.rest.take (4 * header.swap.toNat))).map Single.mk), Nat.le_refl _, ?_⟩
  · rw [run_bind_of_ok (run_resize segments[0] change start), run_bind_of_ok (EStateM.run_get _),
      run_bind_of_ok hsingles]
    exact run_store _ _
  · rw [Reader.storing, htarget]
    rfl

/-- Reading the fail flag stores it as the second segment. -/
theorem receives_fail (header : Header) : Receives header [segments[1]] fail := by
  rw [fail]
  apply receives_singleton
  intro start (hwhole : 4 ≤ start.rest.length)
  refine ⟨_, 0, ?_, (Reader.uses_taking hwhole).storing (segments[1].store (start.rest.take 4)),
    Nat.zero_le _, rfl⟩
  rw [run_bind_of_ok (run_word_of_le hwhole)]
  exact run_store _ _

/-- Reading a byte buffer stores it as the segment that the header gives its length for. -/
theorem receives_buffer (hsegment : segment ∈ segments) {length : UInt32}
    (hlength : segment.size header = length.toNat) :
    Receives header [segment] (buffer segment length) := by
  have hneeded : length.toUInt64.toNat = segment.size header := by
    rw [hlength, UInt32.toNat_toUInt64]
  rw [buffer, hneeded]
  apply receives_singleton
  intro start hwhole
  let change (payload : Payload) :=
    segment.store ((segment.bytes payload).takeD (segment.size header) 0) payload
  -- the buffer has as many places as there are bytes to be read
  have hroom : (segment.bytes (change start.target)).length = segment.size header := by
    rw [bytes_store hsegment (List.takeD_length ..), List.takeD_length]
  have hplaces : (segment.bytes (start.resized segment change).target).length =
      segment.size header := hroom
  have htaken : segment.size header ≤ (start.resized segment change).rest.length := hwhole
  have hall := (Reader.uses_resized (hroom ▸ hwhole)).trans (Reader.uses_taking htaken)
  rw [hroom, Nat.zero_add, Nat.add_zero] at hall
  refine ⟨_, _, ?_, hall.storing (segment.store (start.rest.take (segment.size header))),
    Nat.le_refl _, ?_⟩
  · rw [run_bind_of_ok (run_resize segment change start), run_bind_of_ok (EStateM.run_get _),
      hplaces, run_bind_of_ok (run_take htaken)]
    exact run_store _ _
  · exact store_store hsegment _ _ _

/-- What is read behind a header are the segments that it announces. -/
theorem receives_body (header : Header) : Receives header segments (body header) :=
  (receives_swap header).andThen <| (receives_fail header).andThen <|
    (receives_buffer (List.getElem_mem _) rfl).andThen <|
    (receives_buffer (List.getElem_mem _) rfl).andThen <|
    (receives_buffer (List.getElem_mem _) rfl).andThen <|
    (receives_buffer (List.getElem_mem _) rfl).andThen <|
    receives_buffer (List.getElem_mem _) rfl

/-- The lengths in front are read from the bytes of a header. -/
theorem run_header {rest : Bytes} (hrest : start.rest = header.bytes ++ rest) :
    ∃ stop, Reading.header.run start = .ok header stop ∧ start.Uses stop Header.size 0
      ∧ stop.target = start.target := by
  have hsize : Header.size ≤ start.rest.length := by
    rw [hrest, List.length_append]
    exact Nat.le_add_right ..
  have hwords : start.rest = Bytes.ofWord header.swap ++ (Bytes.ofWord header.inFile
      ++ (Bytes.ofWord header.outName ++ (Bytes.ofWord header.msg
      ++ (Bytes.ofWord header.fileContent ++ (Bytes.ofWord header.serverFilePath ++ rest))))) := by
    rw [hrest, Header.bytes]
    simp only [List.append_assoc]
  -- six words, each read where the one before it ends
  obtain ⟨hswap, huses, hrest₁⟩ := run_word hwords
  obtain ⟨hinFile, huses₁, hrest₂⟩ := run_word hrest₁
  obtain ⟨houtName, huses₂, hrest₃⟩ := run_word hrest₂
  obtain ⟨hmsg, huses₃, hrest₄⟩ := run_word hrest₃
  obtain ⟨hfileContent, huses₄, hrest₅⟩ := run_word hrest₄
  obtain ⟨hserverFilePath, huses₅, -⟩ := run_word hrest₅
  refine ⟨_, ?_, huses.trans (huses₁.trans (huses₂.trans (huses₃.trans (huses₄.trans huses₅)))),
    rfl⟩
  rw [Reading.header, run_bind_of_ok (run_need_of_le "header" hsize), run_bind_of_ok hswap,
    run_bind_of_ok hinFile, run_bind_of_ok houtName, run_bind_of_ok hmsg,
    run_bind_of_ok hfileContent, run_bind_of_ok hserverFilePath, EStateM.run_pure]

/-- Reading a payload comes to decoding, and asks for no more than there is. -/
theorem run_payload (target : Payload) (bytes : Bytes) :
    ∃ stop read room, Reader.Uses { target, rest := bytes } stop read room ∧ room ≤ read
      ∧ (payload.run { target, rest := bytes } = .ok () stop
          ∧ target.decode bytes = (stop.target, .ok ())
        ∨ ∃ error, payload.run { target, rest := bytes } = .error (.refused error) stop
          ∧ target.decode bytes = (stop.target, .error error)) := by
  by_cases hlength : bytes.length < Header.size
  · refine ⟨_, 0, 0, .refl _, Nat.le_refl 0, .inr ⟨_, ?_, decode_of_short target hlength⟩⟩
    exact run_bind_of_error (run_bind_of_error (run_need_of_lt "header" hlength) _) _
  · obtain ⟨header, hbytes, hread⟩ := exists_header (Nat.le_of_not_lt hlength)
    have hrest : (Reader.mk target bytes []).rest = header.bytes ++ bytes.drop Header.size := by
      rw [← hbytes, List.take_append_drop]
    obtain ⟨middle, hheader, huses, htarget⟩ := run_header hrest
    obtain ⟨stop, read, room, huses', hroom, hstop⟩ := receives_body header middle
    have hdecode : target.decode bytes = receive header segments middle.target middle.rest := by
      rw [decode, hread, htarget, huses.rest]
    refine ⟨stop, _, _, huses.trans huses', by omega, ?_⟩
    rw [payload, run_bind_of_ok hheader, hdecode]
    obtain ⟨hrun, hreceive, -⟩ | herror := hstop
    · exact .inl ⟨hrun, hreceive⟩
    · exact .inr herror

end Reading

/-- **Decoding stays within the bytes.** Reading a payload, read by read, leaves what decoding
leaves and succeeds or is refused as decoding is, so that no read ever takes more bytes than are
left. Whatever the lengths in the header are, each read and each buffer that is given another length
asks for at most as many bytes as are left then, and all buffers together are given room for no more
bytes than there are. What is read are the bytes from the first one on, each of them once. Four
times a length is a machine word, so what is asked about the swap array is asked about its bytes. -/
theorem decode_within_bytes (target : Payload) (bytes : Bytes) :
    let run := Reading.payload.run { target, rest := bytes }
    let demands := (Reading.last run).demands
    ((Reading.last run).target = (target.decode bytes).1
        ∧ Reading.outcome run = (target.decode bytes).2.mapError Stop.refused
        ∧ Reading.outcome run ≠ .error .overrun)
      ∧ (∀ demand ∈ demands, demand.size ≤ demand.left)
      ∧ Demand.total .room demands ≤ bytes.length
      ∧ (Demand.total .bytes demands ≤ bytes.length
        ∧ (Reading.last run).rest = bytes.drop (Demand.total .bytes demands))
      ∧ ∀ length : UInt32, saturatingMul length.toUInt64 4 = length.toUInt64 * 4
        ∧ (length.toUInt64 * 4).toNat = 4 * length.toNat := by
  intro run demands
  obtain ⟨stop, read, room, huses, hroom, hstop⟩ := Reading.run_payload target bytes
  -- what the reading uses says of each demand that it is met
  obtain ⟨hcovered, hrest, made, hmade, hmet, hread, hmadeRoom⟩ := huses
  have hcomes : Reading.last run = stop
      ∧ (Reading.last run).target = (target.decode bytes).1
      ∧ Reading.outcome run = (target.decode bytes).2.mapError Stop.refused
      ∧ Reading.outcome run ≠ .error .overrun := by
    obtain ⟨hrun, hdecode⟩ | ⟨error, hrun, hdecode⟩ := hstop
    · have hrun : run = .ok () stop := hrun
      simp [hrun, hdecode, Reading.last, Reading.outcome, Except.mapError]
    · have hrun : run = .error (.refused error) stop := hrun
      simp [hrun, hdecode, Reading.last, Reading.outcome, Except.mapError]
  obtain ⟨hlast, hcomes⟩ := hcomes
  have hdemands : demands = made := by
    change (Reading.last run).demands = made
    rw [hlast, hmade, List.nil_append]
  subst hdemands
  refine ⟨hcomes, hmet, ?_, ⟨?_, ?_⟩, saturatingMul_four⟩
  · rw [hmadeRoom]
    exact Nat.le_trans hroom hcovered
  · rw [hread]
    exact hcovered
  · rw [hread, hlast]
    exact hrest

/-- A header with two of the greatest lengths, in front of eleven bytes. The swap array, the flag
and the input file's name are there; the buffers of the others keep their lengths. -/
theorem decode_within_bytes_greatest :
    let bytes : Bytes :=
      [1, 0, 0, 0, 2, 0, 0, 0, 0xFF, 0xFF, 0xFF, 0xFF, 0, 0, 0, 0, 0xFF, 0xFF, 0xFF, 0xFF]
        ++ [0, 0, 0, 0, 0, 0, 0x80, 0x3F, 7, 0, 0, 0, 0x61, 0x62, 0x63]
    let target : Payload := { call := { swap := [⟨1⟩, ⟨2⟩, ⟨3⟩], outName := [9, 8] } }
    let run := Reading.payload.run { target, rest := bytes }
    let demands := (Reading.last run).demands
    Reading.outcome run = .error (.refused (.truncated "out_name" 0xFFFFFFFF 1))
      ∧ (Reading.last run).target = (target.decode bytes).1
      ∧ demands = [⟨.bytes, 4, 35⟩, ⟨.bytes, 4, 31⟩, ⟨.bytes, 4, 27⟩, ⟨.bytes, 4, 23⟩,
        ⟨.bytes, 4, 19⟩, ⟨.bytes, 4, 15⟩, ⟨.room, 4, 11⟩, ⟨.bytes, 4, 11⟩, ⟨.bytes, 4, 7⟩,
        ⟨.room, 2, 3⟩, ⟨.bytes, 2, 3⟩]
      ∧ (∀ demand ∈ demands, demand.size ≤ demand.left)
      ∧ Demand.total .room demands ≤ bytes.length := by
  intro bytes target run demands
  obtain ⟨⟨htarget, -, -⟩, hmet, hroom, -, -⟩ := decode_within_bytes target bytes
  exact ⟨rfl, htarget, rfl, hmet, hroom⟩

end ControllerHost.Payload
