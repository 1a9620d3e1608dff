import ControllerHost.Payload.Encoding

/-!
# Encoding and decoding payloads

What is encoded is decoded again, whatever the receiving payload held before and whatever bytes come
after it. The other way round, nothing is accepted but an encoding with more bytes behind it, so
that no encoding begins another one and payloads can be sent one after another without a mark
between them.

- `Payload.Fits`, `Payload.code`: the payloads that can be encoded, and their encoding
  (`Payload.encode_eq_ok_iff`).
- `Payload.bytes_store`, `Payload.pairwise_bytes_store`: what receiving a segment does to the
  segments.
- `Payload.receive_concat`: receiving segments in two goes.
- `Payload.receive_append`, `Payload.eq_append_of_receive`: receiving several segments.
- `Payload.decode_encode_append`: what was encoded is decoded.
- `Payload.ofStream`: the payloads in a byte string, one after another.
- `Payload.ofBytes_canonical`: what is decoded was encoded.
-/

namespace ControllerHost.Payload

/-! ### Words -/

/-- Words written one after another are read back as they were. -/
theorem words_flatMap_ofWord (list : List UInt32) : words (list.flatMap Bytes.ofWord) = list := by
  induction list with
  | nil => rfl
  | cons word rest ih =>
    rw [List.flatMap_cons, Bytes.ofWord]
    simp only [List.cons_append, List.nil_append, words]
    rw [ih, Bytes.toWord_ofWord]

/-- The four bytes of one word are read back as that word. -/
theorem words_ofWord (word : UInt32) : words (Bytes.ofWord word) = [word] := by
  have hwords := words_flatMap_ofWord [word]
  rwa [List.flatMap_singleton] at hwords

/-- The words take the bytes four at a time, and leave a rest that is too short for one more. -/
theorem eq_flatMap_words_append (bytes : Bytes) :
    ∃ rest, rest.length < 4 ∧ bytes = (words bytes).flatMap Bytes.ofWord ++ rest := by
  fun_induction words bytes with
  | case1 a b c d rest ih =>
    obtain ⟨left, hleft, hrest⟩ := ih
    refine ⟨left, hleft, ?_⟩
    rw [List.flatMap_cons, Bytes.ofWord_toWord, List.append_assoc, ← hrest]
    rfl
  | case2 bytes hshort =>
    refine ⟨bytes, ?_, rfl⟩
    -- four bytes would be one more word
    obtain _ | ⟨a, _ | ⟨b, _ | ⟨c, _ | ⟨d, rest⟩⟩⟩⟩ := bytes
    case cons.cons.cons.cons => exact absurd rfl (hshort a b c d rest)
    all_goals simp

/-- Every word takes four bytes. -/
theorem length_flatMap_ofWord (list : List UInt32) :
    (list.flatMap Bytes.ofWord).length = 4 * list.length := by
  simp [List.length_flatMap, List.map_const', Nat.mul_comm]

/-- Every swap value takes four bytes. -/
theorem length_flatMap_bits (swap : List Single) :
    (swap.flatMap fun value => Bytes.ofWord value.bits).length = 4 * swap.length := by
  have hlength := length_flatMap_ofWord (swap.map Single.bits)
  rwa [List.flatMap_map, List.length_map] at hlength

/-- Bytes that are whole words are made of them. -/
theorem flatMap_ofWord_words {bytes : Bytes} {count : Nat} (hlength : bytes.length = 4 * count) :
    (words bytes).flatMap Bytes.ofWord = bytes ∧ (words bytes).length = count := by
  obtain ⟨rest, hrest, hbytes⟩ := eq_flatMap_words_append bytes
  have htotal := congrArg List.length hbytes
  rw [List.length_append, length_flatMap_ofWord, hlength] at htotal
  have hnil : rest = [] := List.length_eq_zero_iff.1 (by omega)
  rw [hnil, List.append_nil] at hbytes
  exact ⟨hbytes.symm, by omega⟩

/-! ### Headers -/

/-- The header's bytes are those of its six lengths, in order. -/
theorem Header.bytes_eq (header : Header) :
    header.bytes =
      [header.swap, header.inFile, header.outName, header.msg, header.fileContent,
        header.serverFilePath].flatMap Bytes.ofWord := by
  simp [Header.bytes]

/-- A header is read back from its own bytes. -/
theorem Header.ofWords?_bytes (header : Header) : ofWords? (words header.bytes) = some header := by
  rw [bytes_eq, words_flatMap_ofWord]
  rfl

/-- A header is read from its own bytes only. -/
theorem Header.eq_bytes_of_ofWords? {bytes : Bytes} {header : Header}
    (hlength : bytes.length ≤ size) (hheader : ofWords? (words bytes) = some header) :
    bytes = header.bytes := by
  obtain ⟨rest, -, hbytes⟩ := eq_flatMap_words_append bytes
  unfold ofWords? at hheader
  split at hheader
  case h_1 hwords =>
    cases hheader
    rw [hwords, ← bytes_eq ⟨_, _, _, _, _, _⟩] at hbytes
    have htotal := congrArg List.length hbytes
    rw [List.length_append] at htotal
    -- the header alone takes all the bytes that there are
    have hnil : rest = [] := by
      apply List.length_eq_zero_iff.1
      change bytes.length = size + rest.length at htotal
      omega
    rwa [hnil, List.append_nil] at hbytes
  case h_2 => cases hheader

/-! ### The encoding -/

/-- A payload can be encoded if a word can count each of its lengths. -/
def Fits (payload : Payload) : Prop :=
  ∀ field ∈ payload.lengths, field.2 < 0x100000000

instance (payload : Payload) : Decidable payload.Fits :=
  inferInstanceAs (Decidable (∀ field ∈ payload.lengths, field.2 < 0x100000000))

/-- The header and the segments of a payload. -/
def code (payload : Payload) : Bytes :=
  payload.header.bytes ++ segments.flatMap fun segment => segment.bytes payload

variable {payload target : Payload} {header : Header} {bytes rest : Bytes}

/-- A payload encodes just when it fits, and then to its code. -/
theorem encode_eq_ok_iff : payload.encode = .ok bytes ↔ payload.Fits ∧ payload.code = bytes := by
  unfold encode
  split
  case h_1 field length hfind =>
    have hmem := List.mem_of_find?_eq_some hfind
    have hlong := List.find?_some hfind
    constructor
    · rintro ⟨⟩
    · rintro ⟨hfits, -⟩
      have hshort : length < 0x100000000 := hfits _ hmem
      simp only [ge_iff_le, decide_eq_true_eq] at hlong
      omega
  case h_2 hfind =>
    rw [List.find?_eq_none] at hfind
    have hfits : payload.Fits := by
      intro field hfield
      have hlong := hfind field hfield
      simp only [ge_iff_le, decide_eq_true_eq] at hlong
      omega
    rw [Except.ok.injEq, code, and_iff_right hfits]

/-- The code has the length that the payload announces. -/
theorem length_code (payload : Payload) : payload.code.length = payload.encodedLength := by
  have hheader : payload.header.bytes.length = Header.size := rfl
  simp only [code, segments, List.flatMap_cons, List.flatMap_nil, List.length_append,
    length_flatMap_bits, hheader, Bytes.length_ofWord, List.length_nil, encodedLength]
  omega

/-! ### Segments -/

/-- A segment that has been received is in the payload. -/
theorem bytes_store {segment : Segment} (hsegment : segment ∈ segments)
    (hlength : bytes.length = segment.size header) :
    segment.bytes (segment.store bytes payload) = bytes := by
  simp only [segments, List.mem_cons, List.not_mem_nil, or_false] at hsegment
  obtain rfl | rfl | rfl | rfl | rfl | rfl | rfl := hsegment
  -- the swap array and the flag are made of words, and the rest are the bytes themselves
  · have hwords := (flatMap_ofWord_words hlength).1
    simpa [List.flatMap_map] using hwords
  · have hfour : bytes.length = 4 * 1 := hlength
    obtain ⟨hwords, hone⟩ := flatMap_ofWord_words hfour
    obtain ⟨word, hword⟩ := List.length_eq_one_iff.1 hone
    rw [hword, List.flatMap_singleton] at hwords
    simp [hword, hwords]
  all_goals rfl

/-- Receiving a segment leaves the segments before it as they are. -/
theorem pairwise_bytes_store : segments.Pairwise fun earlier later =>
    ∀ bytes payload, earlier.bytes (later.store bytes payload) = earlier.bytes payload := by
  simp [segments]

/-- A payload's header announces the segments of the payload. -/
theorem length_bytes_of_fits (hfits : payload.Fits) {segment : Segment}
    (hsegment : segment ∈ segments) :
    (segment.bytes payload).length = segment.size payload.header := by
  have hword {name : String} {length : Nat} (hfield : (name, length) ∈ payload.lengths) :
      (UInt32.ofNat length).toNat = length := by
    rw [UInt32.toNat_ofNat']
    exact Nat.mod_eq_of_lt (hfits _ hfield)
  simp only [lengths, List.mem_cons, List.not_mem_nil, or_false] at hword
  simp only [segments, List.mem_cons, List.not_mem_nil, or_false] at hsegment
  obtain rfl | rfl | rfl | rfl | rfl | rfl | rfl := hsegment
  · rw [length_flatMap_bits]
    exact congrArg (4 * ·) (hword (.inl rfl)).symm
  · rfl
  · exact (hword (.inr (.inl rfl))).symm
  · exact (hword (.inr (.inr (.inl rfl)))).symm
  · exact (hword (.inr (.inr (.inr (.inl rfl))))).symm
  · exact (hword (.inr (.inr (.inr (.inr (.inl rfl)))))).symm
  · exact (hword (.inr (.inr (.inr (.inr (.inr rfl)))))).symm

/-- A header that announces the segments of a payload is the payload's own. -/
theorem header_eq_of_length_bytes
    (hsizes : ∀ segment ∈ segments, (segment.bytes payload).length = segment.size header) :
    payload.Fits ∧ payload.header = header := by
  simp only [segments, List.forall_mem_cons] at hsizes
  obtain ⟨hswap, -, hinFile, houtName, hmsg, hfileContent, hserverFilePath, -⟩ := hsizes
  have hcount : payload.call.swap.length = header.swap.toNat := by
    rw [length_flatMap_bits] at hswap
    omega
  constructor
  · have hbound (word : UInt32) : word.toNat < 0x100000000 := word.toNat_lt
    simp only [Fits, lengths, List.forall_mem_cons, hcount, hinFile, houtName, hmsg, hfileContent,
      hserverFilePath, hbound, true_and]
    exact List.forall_mem_nil _
  · simp only [Payload.header, hcount, hinFile, houtName, hmsg, hfileContent, hserverFilePath,
      UInt32.ofNat_toNat]

/-! ### Receiving -/

/-- The number of bytes that a header announces for some segments. -/
def total (header : Header) (list : List Segment) : Nat :=
  (list.map fun segment => segment.size header).foldr (· + ·) 0

/-- Receiving segments in two goes. -/
theorem receive_concat (first second : List Segment) (target : Payload) (bytes : Bytes) :
    receive header (first ++ second) target bytes =
      match receive header first target bytes with
      | (payload, .ok ()) => receive header second payload (bytes.drop (total header first))
      | (payload, .error error) => (payload, .error error) := by
  induction first generalizing target bytes with
  | nil => rfl
  | cons segment first ih =>
    rw [List.cons_append, receive, receive]
    split
    · rfl
    · rw [ih, List.drop_drop]
      rfl

/-- Received from the bytes of a payload, each segment is stored as it was there. -/
theorem receive_append {list : List Segment}
    (hsizes : ∀ segment ∈ list, (segment.bytes payload).length = segment.size header)
    (target : Payload) (rest : Bytes) :
    receive header list target (list.flatMap (fun segment => segment.bytes payload) ++ rest) =
      (list.foldl (fun target segment => segment.store (segment.bytes payload) target) target,
        .ok ()) := by
  induction list generalizing target with
  | nil => rfl
  | cons segment list ih =>
    rw [List.forall_mem_cons] at hsizes
    rw [List.flatMap_cons, List.append_assoc, receive, if_neg (by simp [hsizes.1]), ← hsizes.1,
      List.take_left, List.drop_left, ih hsizes.2, List.foldl_cons]

/-- All segments together are the whole payload, so nothing is left of what was there before. -/
theorem foldl_store (payload target : Payload) :
    segments.foldl (fun target segment => segment.store (segment.bytes payload) target) target =
      payload := by
  have hswap : words (payload.call.swap.flatMap fun value => Bytes.ofWord value.bits) =
      payload.call.swap.map Single.bits := by
    have hwords := words_flatMap_ofWord (payload.call.swap.map Single.bits)
    rwa [List.flatMap_map] at hwords
  have hmk : payload.call.swap.map (fun value => Single.mk value.bits) = payload.call.swap :=
    List.map_id _
  simp [segments, hswap, words_ofWord, Function.comp_def, hmk]

/-- Segments received later leave a segment alone that none of them stores. -/
theorem bytes_receive {segment : Segment} {list : List Segment}
    (hlater : ∀ later ∈ list, ∀ bytes payload,
      segment.bytes (later.store bytes payload) = segment.bytes payload) (header : Header)
    (target : Payload) (bytes : Bytes) :
    segment.bytes (receive header list target bytes).1 = segment.bytes target := by
  induction list generalizing target bytes with
  | nil => rfl
  | cons later list ih =>
    rw [List.forall_mem_cons] at hlater
    rw [receive]
    split
    · rfl
    · rw [ih hlater.2, hlater.1]

/-- Segments that have been received are where they came from: one after another at the front of the
bytes, each with the size that the header announces. -/
theorem eq_append_of_receive {list : List Segment} (hlist : list <:+ segments)
    (hreceive : receive header list target bytes = (payload, .ok ())) :
    (∀ segment ∈ list, (segment.bytes payload).length = segment.size header)
      ∧ ∃ rest, bytes = list.flatMap (fun segment => segment.bytes payload) ++ rest := by
  induction list generalizing target bytes with
  | nil => exact ⟨List.forall_mem_nil _, bytes, rfl⟩
  | cons segment list ih =>
    rw [receive] at hreceive
    split at hreceive
    · cases hreceive
    · rename_i hlength
      obtain ⟨hsizes, rest, hrest⟩ := ih ((List.suffix_cons _ _).trans hlist) hreceive
      -- what follows the segment's bytes no longer changes what was stored
      have hlater := (List.pairwise_cons.1 (pairwise_bytes_store.sublist hlist.sublist)).1
      have htake : (bytes.take (segment.size header)).length = segment.size header :=
        List.length_take_of_le (Nat.le_of_not_lt hlength)
      have hbytes : segment.bytes payload = bytes.take (segment.size header) := by
        have hkept := bytes_receive hlater header
          (segment.store (bytes.take (segment.size header)) target)
          (bytes.drop (segment.size header))
        rwa [hreceive, bytes_store (hlist.subset (List.mem_cons_self ..)) htake] at hkept
      refine ⟨List.forall_mem_cons.2 ⟨hbytes ▸ htake, hsizes⟩, rest, ?_⟩
      rw [List.flatMap_cons, List.append_assoc, ← hrest, hbytes, List.take_append_drop]

/-- The code of a payload that fits decodes to that payload, whatever is behind it and whatever the
buffers held. -/
theorem decode_code_append (hfits : payload.Fits) (target : Payload) (rest : Bytes) :
    target.decode (payload.code ++ rest) = (payload, .ok ()) := by
  have hlength : Header.size = payload.header.bytes.length := rfl
  have hheader : (payload.code ++ rest).take Header.size = payload.header.bytes := by
    rw [code, List.append_assoc, hlength, List.take_left]
  have hsegments : (payload.code ++ rest).drop Header.size =
      segments.flatMap (fun segment => segment.bytes payload) ++ rest := by
    rw [code, List.append_assoc, hlength, List.drop_left]
  rw [decode, hheader, Header.ofWords?_bytes]
  simp only
  rw [hsegments, receive_append fun segment => length_bytes_of_fits hfits, foldl_store]

/-- Bytes that decode to a payload begin with that payload's code. -/
theorem eq_code_append_of_decode (hdecode : target.decode bytes = (payload, .ok ())) :
    payload.Fits ∧ ∃ rest, bytes = payload.code ++ rest := by
  unfold decode at hdecode
  split at hdecode
  case h_1 => cases hdecode
  case h_2 header hheader =>
    obtain ⟨hsizes, rest, hrest⟩ := eq_append_of_receive (List.suffix_refl _) hdecode
    obtain ⟨hfits, rfl⟩ := header_eq_of_length_bytes hsizes
    have hfront := Header.eq_bytes_of_ofWords? (List.length_take_le ..) hheader
    refine ⟨hfits, rest, ?_⟩
    rw [code, List.append_assoc, ← hrest, ← hfront, List.take_append_drop]

/-- **What was encoded is decoded.** A payload whose lengths a word can count has an encoding of
the announced length. Any payload that receives it, with any bytes behind it, becomes the encoded
one. -/
theorem decode_encode_append (payload target : Payload) (rest : Bytes) (hfits : payload.Fits) :
    ∃ bytes, payload.encode = .ok bytes ∧ bytes.length = payload.encodedLength
      ∧ target.decode (bytes ++ rest) = (payload, .ok ()) :=
  ⟨payload.code, encode_eq_ok_iff.2 ⟨hfits, rfl⟩, payload.length_code,
    decode_code_append hfits target rest⟩

/-- A NaN, a negative zero and the least flag arrive in a payload whose buffers had other
lengths. -/
theorem decode_encode_append_not_a_number :
    let payload : Payload :=
      { call :=
          { swap := [⟨0x7FC00001⟩, ⟨0x80000000⟩], fail := -0x80000000, inFile := [0x61, 0],
            outName := [], msg := [0] }
        fileContent := [0xFF], serverFilePath := [] }
    let target : Payload :=
      { call :=
          { swap := [⟨1⟩, ⟨2⟩, ⟨3⟩], fail := 7, inFile := [0x62], outName := [0x63], msg := [] }
        fileContent := [1, 2, 3], serverFilePath := [4] }
    payload.Fits ∧ ∃ bytes, payload.encode = .ok bytes ∧ bytes.length = payload.encodedLength
      ∧ target.decode (bytes ++ [9, 9]) = (payload, .ok ()) := by
  intro payload target
  have hfits : payload.Fits := by decide
  exact ⟨hfits, decode_encode_append payload target [9, 9] hfits⟩

/-! ### Streams -/

/-- Bytes are read as a payload just when it fits and its code stands at their front. -/
theorem ofBytes_eq_ok_iff :
    ofBytes bytes = .ok payload ↔ payload.Fits ∧ ∃ rest, bytes = payload.code ++ rest := by
  constructor
  · intro hbytes
    unfold ofBytes at hbytes
    split at hbytes
    case h_1 received hdecode =>
      cases hbytes
      exact eq_code_append_of_decode hdecode
    case h_2 => cases hbytes
  · rintro ⟨hfits, rest, rfl⟩
    rw [ofBytes, decode_code_append hfits]

/-- Even the empty payload has a header. -/
theorem encodedLength_pos (payload : Payload) : 0 < payload.encodedLength := by
  unfold encodedLength
  omega

/-- The payloads that a byte string holds one after another. Each is decoded from the front, and as
many bytes are skipped as its encoding has. -/
def ofStream (bytes : Bytes) : Except Error (List Payload) :=
  if bytes = [] then .ok []
  else match ofBytes bytes with
    | .error error => .error error
    | .ok payload => (ofStream (bytes.drop payload.encodedLength)).map (payload :: ·)
termination_by bytes.length
decreasing_by
  have hpositive := payload.encodedLength_pos
  have hlength := List.length_pos_iff.2 ‹¬bytes = []›
  rw [List.length_drop]
  omega

theorem code_ne_nil (payload : Payload) : payload.code ≠ [] := by
  rw [← List.length_pos_iff, length_code]
  exact payload.encodedLength_pos

/-- A stream that begins with a payload's code is that payload and the stream of what is behind
it. -/
theorem ofStream_code_append (hfits : payload.Fits) (rest : Bytes) :
    ofStream (payload.code ++ rest) = (ofStream rest).map (payload :: ·) := by
  have hbytes : ofBytes (payload.code ++ rest) = .ok payload :=
    ofBytes_eq_ok_iff.2 ⟨hfits, rest, rfl⟩
  rw [ofStream, if_neg (by simp [code_ne_nil]), hbytes]
  simp only
  rw [← length_code, List.drop_left]

/-- Payloads encoded one after another are read back in order. -/
theorem ofStream_flatten {payloads : List Payload} {encodings : List Bytes}
    (hencode : payloads.mapM encode = .ok encodings) :
    ofStream encodings.flatten = .ok payloads := by
  induction payloads generalizing encodings with
  | nil =>
    rw [List.mapM_nil] at hencode
    cases hencode
    rw [List.flatten_nil, ofStream, if_pos rfl]
  | cons payload payloads ih =>
    rw [List.mapM_cons] at hencode
    cases hfirst : payload.encode with
    | error error =>
      rw [hfirst] at hencode
      cases hencode
    | ok first =>
      cases hrest : payloads.mapM encode with
      | error error =>
        rw [hfirst, hrest] at hencode
        cases hencode
      | ok rest =>
        rw [hfirst, hrest] at hencode
        cases hencode
        -- the first encoding is the code of a payload that fits, and the rest stands behind it
        obtain ⟨hfits, rfl⟩ := encode_eq_ok_iff.1 hfirst
        rw [List.flatten_cons, ofStream_code_append hfits, ih hrest]
        rfl

/-- **What is decoded was encoded.** The payload that is read from a byte string has an encoding,
and the byte string begins with it. So encodings with any bytes behind them are all that is
accepted, no encoding is accepted in part, no two payloads have one encoding, and from encodings in
a row the payloads are read one after another. -/
theorem ofBytes_canonical :
    (∀ bytes payload, ofBytes bytes = .ok payload →
        payload.encodedLength ≤ bytes.length
          ∧ payload.encode = .ok (bytes.take payload.encodedLength))
      ∧ (∀ bytes, (∃ payload, ofBytes bytes = .ok payload) ↔
        ∃ payload encoding rest, encode payload = .ok encoding ∧ bytes = encoding ++ rest)
      ∧ (∀ payload encoding bytes, encode payload = .ok encoding → bytes <+: encoding →
        bytes ≠ encoding → ∀ other, ofBytes bytes ≠ .ok other)
      ∧ (∀ payload other encoding, encode payload = .ok encoding → encode other = .ok encoding →
        payload = other)
      ∧ ∀ payloads encodings, payloads.mapM encode = .ok encodings →
        ofStream encodings.flatten = .ok payloads := by
  -- a payload is read back from its encoding with anything behind it
  have hread {payload : Payload} {encoding : Bytes} (hencode : payload.encode = .ok encoding)
      (rest : Bytes) : ofBytes (encoding ++ rest) = .ok payload := by
    obtain ⟨hfits, rfl⟩ := encode_eq_ok_iff.1 hencode
    exact ofBytes_eq_ok_iff.2 ⟨hfits, rest, rfl⟩
  refine ⟨?_, ?_, ?_, ?_, fun payloads encodings => ofStream_flatten⟩
  · intro bytes payload hbytes
    obtain ⟨hfits, rest, rfl⟩ := ofBytes_eq_ok_iff.1 hbytes
    rw [← length_code, List.take_left, List.length_append]
    exact ⟨Nat.le_add_right _ _, encode_eq_ok_iff.2 ⟨hfits, rfl⟩⟩
  · intro bytes
    constructor
    · rintro ⟨payload, hbytes⟩
      obtain ⟨hfits, rest, rfl⟩ := ofBytes_eq_ok_iff.1 hbytes
      exact ⟨payload, payload.code, rest, encode_eq_ok_iff.2 ⟨hfits, rfl⟩, rfl⟩
    · rintro ⟨payload, encoding, rest, hencode, rfl⟩
      exact ⟨payload, hread hencode rest⟩
  · rintro payload encoding bytes hencode ⟨rest, rfl⟩ hne other hother
    -- what a part of the encoding holds, the whole encoding holds too, and so it is the payload
    obtain ⟨hfits, front, rfl⟩ := ofBytes_eq_ok_iff.1 hother
    have hwhole := hread hencode []
    rw [List.append_nil, List.append_assoc,
      ofBytes_eq_ok_iff.2 ⟨hfits, front ++ rest, rfl⟩, Except.ok.injEq] at hwhole
    subst hwhole
    have hencoding := (encode_eq_ok_iff.1 hencode).2
    have htotal := congrArg List.length hencoding
    simp only [List.length_append] at htotal
    have hrest : rest = [] := List.length_eq_zero_iff.1 (by omega)
    rw [hrest, List.append_nil] at hne
    exact hne rfl
  · intro payload other encoding hpayload hother
    have hsame := (hread hpayload []).symm.trans (hread hother [])
    exact Except.ok.inj hsame

/-- The bytes of a payload are accepted with one byte behind them, and it is not part of what is
encoded. Of two payloads that are sent one after the other, both are read back. -/
theorem ofBytes_canonical_trailing :
    let first : Payload :=
      { call :=
          { swap := [Single.ofNat 1, Single.ofNat 2]
            fail := -1
            inFile := Bytes.ofText "DISCON.IN"
            outName := Bytes.ofText "sim"
            msg := [0, 0, 0] }
        fileContent := Bytes.ofText "gain: 1"
        serverFilePath := Bytes.ofText "/srv/DISCON.IN" }
    let second : Payload :=
      { first with call := { first.call with swap := [Single.ofNat 3], fail := 7 } }
    let bytes := first.code ++ [7]
    ofBytes bytes = .ok first ∧ first.encodedLength ≤ bytes.length
      ∧ first.encode = .ok (bytes.take first.encodedLength)
      ∧ ofStream [first.code, second.code].flatten = .ok [first, second] := by
  intro first second bytes
  have hfits : first.Fits := by decide +kernel
  have hfits' : second.Fits := by decide +kernel
  have hbytes : ofBytes bytes = .ok first := ofBytes_eq_ok_iff.2 ⟨hfits, [7], rfl⟩
  have hencode : [first, second].mapM encode = .ok [first.code, second.code] := by
    simp only [List.mapM_cons, List.mapM_nil, encode_eq_ok_iff.2 ⟨hfits, rfl⟩,
      encode_eq_ok_iff.2 ⟨hfits', rfl⟩]
    rfl
  obtain ⟨haccepted, -, -, -, hstream⟩ := ofBytes_canonical
  obtain ⟨hlength, hprefix⟩ := haccepted bytes first hbytes
  exact ⟨hbytes, hlength, hprefix, hstream [first, second] [first.code, second.code] hencode⟩

end ControllerHost.Payload
