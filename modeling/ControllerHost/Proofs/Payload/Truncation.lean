import ControllerHost.Proofs.Payload.Encoding

/-!
# Payloads that end too early

The lengths in a header say where each part of an encoding begins and ends. When the bytes end
before the last part does, decoding stores the parts that are there in full, stops at the first one
that is not, and says which one that is and how much of it is there. What it has not stored stays as
it was.

- `Payload.Part`, `Payload.Header.parts`: where the parts of an encoding are.
- `Payload.contents`: what a payload holds for each part (`Payload.contents_injective`).
- `Payload.result_receive`, `Payload.contents_receive`: receiving several segments.
- `Payload.decode_until_end`: what decoding gives and leaves.
-/

namespace ControllerHost.Payload

/-! ### Parts -/

/-- A part of an encoding. -/
structure Part where
  /-- The name of the part in errors. -/
  name : String
  /-- The number of bytes before it. -/
  start : Nat
  /-- The number of its bytes. -/
  size : Nat

namespace Part

/-- The bytes of a part, as far as they are there. -/
def cut (part : Part) (bytes : Bytes) : Bytes := (bytes.drop part.start).take part.size

/-- Whether a part ends within the bytes. -/
def endsWithin (part : Part) (bytes : Bytes) : Bool := part.start + part.size ≤ bytes.length

/-- Parts with given names and sizes, one after another. -/
def row (start : Nat) : List (String × Nat) → List Part
  | [] => []
  | (name, size) :: rest => ⟨name, start, size⟩ :: row (start + size) rest

end Part

/-- The parts that a header announces, one after another behind the header. -/
def Header.parts (header : Header) : List Part :=
  Part.row size
    [("swap", 4 * header.swap.toNat), ("fail", 4), ("in_file", header.inFile.toNat),
      ("out_name", header.outName.toNat), ("msg", header.msg.toNat),
      ("file_content", header.fileContent.toNat),
      ("server_file_path", header.serverFilePath.toNat)]

/-- Where the last part that a header announces ends. -/
def Header.stop (header : Header) : Nat :=
  size + 4 * header.swap.toNat + 4 + header.inFile.toNat + header.outName.toNat + header.msg.toNat
    + header.fileContent.toNat + header.serverFilePath.toNat

/-- What a payload holds for each part, in the order of the parts. -/
def contents (payload : Payload) : List Bytes :=
  [payload.call.swap.flatMap fun value => Bytes.ofWord value.bits,
    Bytes.ofWord payload.call.fail.toUInt32, payload.call.inFile, payload.call.outName,
    payload.call.msg, payload.fileContent, payload.serverFilePath]

variable {header : Header} {bytes : Bytes} {start : Nat}

/-- The parts of an encoding are the segments that are received. -/
theorem parts_eq (header : Header) :
    header.parts =
      Part.row Header.size (segments.map fun segment => (segment.name, segment.size header)) := rfl

/-- Payloads that hold the same for each part are the same, bit for bit. -/
theorem contents_injective {payload other : Payload} (hsame : payload.contents = other.contents) :
    payload = other := by
  have hstored (payload : Payload) : (segments.zip payload.contents).foldl
      (fun target part => part.1.store part.2 target) {} = payload := foldl_store payload {}
  rw [← hstored payload, hsame, hstored other]

/-- All parts end within the bytes as soon as the last one does. -/
theorem find?_parts_eq_none_iff :
    (header.parts.find? fun part => !part.endsWithin bytes) = none ↔
      header.stop ≤ bytes.length := by
  simp only [Header.parts, Part.row, Part.endsWithin, Header.stop, List.find?_eq_none,
    List.mem_cons, List.not_mem_nil, or_false, forall_eq_or_imp, forall_eq,
    Bool.not_eq_eq_eq_not, Bool.not_true, decide_eq_false_iff_not, Nat.not_le, Nat.not_lt]
  omega

/-! ### Receiving -/

/-- Receiving segments fails at the first that does not end within the bytes. -/
theorem result_receive (list : List Segment) (target : Payload) (hstart : start ≤ bytes.length) :
    (receive header list target (bytes.drop start)).2 =
      ((Part.row start (list.map fun segment => (segment.name, segment.size header))).find?
        fun part => !part.endsWithin bytes).elim (.ok ()) fun part =>
          .error (.truncated part.name part.size (bytes.drop part.start).length) := by
  -- on the segments, each of which moves the place where the next one begins
  induction list generalizing target start with
  | nil => rfl
  | cons segment list ih =>
    rw [receive, List.map_cons, Part.row, List.length_drop, List.drop_drop]
    by_cases hshort : bytes.length - start < segment.size header
    · have hends : ¬ start + segment.size header ≤ bytes.length := by omega
      rw [if_pos hshort, List.find?_cons_of_pos (by simp [Part.endsWithin, hends])]
      simp
    · have hends : start + segment.size header ≤ bytes.length := by omega
      rw [if_neg hshort, List.find?_cons_of_neg (by simp [Part.endsWithin, hends])]
      exact ih _ hends

/-- Receiving a segment leaves the segments after it as they are. -/
theorem pairwise_bytes_store_earlier : segments.Pairwise fun earlier later =>
    ∀ bytes payload, later.bytes (earlier.store bytes payload) = later.bytes payload := by
  simp [segments]

/-- Receiving segments stores those that end within the bytes, and keeps what there was for all
others. -/
theorem contents_receive {list : List Segment} (hlist : list <:+ segments) (target : Payload)
    (hstart : start ≤ bytes.length) :
    let parts := Part.row start (list.map fun segment => (segment.name, segment.size header))
    let complete := parts.takeWhile fun part => part.endsWithin bytes
    (list.map fun segment =>
        segment.bytes (receive header list target (bytes.drop start)).1) =
      complete.map (fun part => part.cut bytes)
        ++ (list.map fun segment => segment.bytes target).drop complete.length := by
  induction list generalizing target start with
  | nil => rfl
  | cons segment list ih =>
    simp only [receive, List.map_cons, Part.row, List.length_drop, List.drop_drop]
    by_cases hshort : bytes.length - start < segment.size header
    · have hends : ¬ start + segment.size header ≤ bytes.length := by omega
      simp [hshort, Part.endsWithin, hends]
    · have hends : start + segment.size header ≤ bytes.length := by omega
      let stored := segment.store ((bytes.drop start).take (segment.size header)) target
      -- the segment's bytes stay in the payload, since none of the later ones touches them
      have hfront : segment.bytes
          (receive header list stored (bytes.drop (start + segment.size header))).1 =
            (bytes.drop start).take (segment.size header) := by
        rw [bytes_receive (List.pairwise_cons.1 (pairwise_bytes_store.sublist hlist.sublist)).1]
        apply bytes_store (hlist.subset (List.mem_cons_self ..))
        apply List.length_take_of_le
        rw [List.length_drop]
        omega
      -- and the later ones have nothing of it
      have hlater : (list.map fun later => later.bytes stored) =
          list.map fun later => later.bytes target := by
        apply List.map_congr_left
        intro later hmem
        exact (List.pairwise_cons.1 (pairwise_bytes_store_earlier.sublist hlist.sublist)).1
          later hmem _ _
      have hrest := ih ((List.suffix_cons _ _).trans hlist) stored hends
      simp only [hlater] at hrest
      simp only [if_neg hshort]
      simp [Part.endsWithin, hends, hfront, hrest, stored, Part.cut]

/-! ### Decoding -/

/-- A header is there as soon as its bytes are. -/
theorem exists_header (hlength : Header.size ≤ bytes.length) :
    ∃ header : Header, bytes.take Header.size = header.bytes
      ∧ Header.ofWords? (words (bytes.take Header.size)) = some header := by
  have htake : (bytes.take Header.size).length = 4 * 6 := List.length_take_of_le hlength
  have hsix := (flatMap_ofWord_words htake).2
  obtain ⟨header, hheader⟩ : ∃ header, Header.ofWords? (words (bytes.take Header.size)) =
      some header := by
    match hwords : words (bytes.take Header.size), hsix with
    | [swap, inFile, outName, msg, fileContent, serverFilePath], _ => exact ⟨_, rfl⟩
  exact ⟨header, Header.eq_bytes_of_ofWords? (List.length_take_le ..) hheader, hheader⟩

theorem decode_of_short (target : Payload) (hlength : bytes.length < Header.size) :
    target.decode bytes =
      (target, .error (.truncated "header" Header.size bytes.length)) := by
  unfold decode
  split
  case h_1 => rfl
  case h_2 header hheader =>
    -- six words take all the bytes of a header
    have hbytes := Header.eq_bytes_of_ofWords? (List.length_take_le ..) hheader
    have htotal := congrArg List.length hbytes
    rw [List.length_take] at htotal
    change min Header.size bytes.length = Header.size at htotal
    omega

/-- **Decoding goes as far as the bytes do.** Without a whole header nothing is decoded. Behind a
header, decoding succeeds exactly if the last part that the header announces ends within the bytes.
Otherwise the first part that does not is named, with its size and the number of bytes that are
left for it. All parts before that one are stored, and for it and all later ones the payload holds
what it held. Nothing else is in a payload than what it holds for its parts. -/
theorem decode_until_end (target : Payload) (bytes : Bytes) :
    (bytes.length < Header.size →
        target.decode bytes = (target, .error (.truncated "header" Header.size bytes.length)))
      ∧ (Header.size ≤ bytes.length →
        ∃ header : Header, bytes.take Header.size = header.bytes
          ∧ ((target.decode bytes).2 = .ok () ↔ header.stop ≤ bytes.length)
          ∧ (target.decode bytes).2 =
            (header.parts.find? fun part => !part.endsWithin bytes).elim (.ok ())
              (fun part =>
                .error (.truncated part.name part.size (bytes.drop part.start).length))
          ∧ let complete := header.parts.takeWhile fun part => part.endsWithin bytes
            (target.decode bytes).1.contents =
              complete.map (fun part => part.cut bytes)
                ++ target.contents.drop complete.length)
      ∧ ∀ payload other : Payload, payload.contents = other.contents → payload = other := by
  refine ⟨decode_of_short target, fun hlength => ?_, fun _ _ => contents_injective⟩
  obtain ⟨header, hbytes, hheader⟩ := exists_header hlength
  have hdecode : target.decode bytes = receive header segments target (bytes.drop Header.size) := by
    rw [decode, hheader]
  have hresult : (receive header segments target (bytes.drop Header.size)).2 = _ :=
    result_receive segments target hlength
  refine ⟨header, hbytes, ?_, hdecode ▸ hresult,
    hdecode ▸ contents_receive (List.suffix_refl _) target hlength⟩
  rw [hdecode, hresult, ← parts_eq, ← find?_parts_eq_none_iff]
  cases header.parts.find? fun part => !part.endsWithin bytes <;> simp

/-- Bytes that end within the message: one of its three bytes is there. The swap array, the flag,
the input file's name and the empty stem are stored before that is found out. -/
theorem decode_until_end_msg :
    let bytes : Bytes :=
      [1, 0, 0, 0, 2, 0, 0, 0, 0, 0, 0, 0, 3, 0, 0, 0, 1, 0, 0, 0, 0, 0, 0, 0]
        ++ [0, 0, 0x80, 0x3F, 7, 0, 0, 0, 0x61, 0x62, 0x63]
    let target : Payload :=
      { call := { inFile := [9], outName := [8], msg := [7] }
        fileContent := [6], serverFilePath := [5] }
    Header.size ≤ bytes.length
      ∧ (∃ header : Header, bytes.take Header.size = header.bytes
        ∧ ((target.decode bytes).2 = .ok () ↔ header.stop ≤ bytes.length))
      ∧ target.decode bytes =
        ({ call :=
            { swap := [⟨0x3F800000⟩], fail := 7, inFile := [0x61, 0x62], outName := [],
              msg := [7] }
           fileContent := [6], serverFilePath := [5] }, .error (.truncated "msg" 3 1)) := by
  intro bytes target
  have hlength : Header.size ≤ bytes.length := by decide
  obtain ⟨header, hbytes, hresult, -⟩ := (decode_until_end target bytes).2.1 hlength
  exact ⟨hlength, ⟨header, hbytes, hresult⟩, rfl⟩

end ControllerHost.Payload
