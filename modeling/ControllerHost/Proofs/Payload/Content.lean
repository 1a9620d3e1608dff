import ControllerHost.Payload.Report
import ControllerHost.Proofs.Payload.Truncation

/-!
# The contents of a shipped file

A payload carries the contents of a file for whoever receives it, and does nothing else with them.
Two payloads that differ in the bytes of the contents, of which they have as many, cannot be told
apart by their reports, by the buffers of a call, or by what is decoded into them. Their encodings
differ where the contents are, and so does what is decoded from these, even if they are cut off and
go on in some other way.

- `Payload.Alike`: payloads that differ in the bytes of their contents alone.
- `Payload.Alike.report`, `Payload.Alike.encode`: what the log shows of them, and their encodings.
- `Payload.AgreeOutsideContent`: byte strings that differ where their header puts the contents.
- `Payload.Alike.agree_cut`: such encodings, cut off and with bytes behind them.
- `Payload.Alike.decode`: decoding such byte strings into such payloads.
-/

namespace ControllerHost.Payload

/-- Two payloads are the same but for the bytes of their files' contents, of which they have as
many. -/
structure Alike (payload other : Payload) : Prop where
  /-- The buffers. -/
  call : payload.call = other.call
  /-- Where the contents belong. -/
  serverFilePath : payload.serverFilePath = other.serverFilePath
  /-- The number of bytes of the contents. -/
  length : payload.fileContent.length = other.fileContent.length

/-- The same comes of decoding, into payloads that are the same but for their contents. -/
def DecodedAlike (first second : Payload × Except Error Unit) : Prop :=
  first.1.Alike second.1 ∧ first.2 = second.2

namespace Header

/-- The number of bytes before the contents of the file. -/
def contentStart (header : Header) : Nat :=
  size + 4 * header.swap.toNat + 4 + header.inFile.toNat + header.outName.toNat + header.msg.toNat

/-- The number of bytes up to the end of the contents of the file. -/
def contentStop (header : Header) : Nat := header.contentStart + header.fileContent.toNat

end Header

/-- Two byte strings have one length, and agree but for where their header puts the contents of the
file. -/
structure AgreeOutsideContent (bytes other : Bytes) : Prop where
  /-- The number of bytes. -/
  length : bytes.length = other.length
  /-- The header, as far as it is there. -/
  header : bytes.take Header.size = other.take Header.size
  /-- What is before the contents. -/
  before : ∀ header, Header.ofWords? (words (bytes.take Header.size)) = some header →
    bytes.take header.contentStart = other.take header.contentStart
  /-- What is behind the contents. -/
  behind : ∀ header, Header.ofWords? (words (bytes.take Header.size)) = some header →
    bytes.drop header.contentStop = other.drop header.contentStop

theorem AgreeOutsideContent.refl (bytes : Bytes) : AgreeOutsideContent bytes bytes :=
  ⟨rfl, rfl, fun _ _ => rfl, fun _ _ => rfl⟩

variable {payload other target target' : Payload} {bytes bytes' : Bytes}

namespace Alike

theorem refl (payload : Payload) : payload.Alike payload := ⟨rfl, rfl, rfl⟩

/-- The call's own buffers are set alike on both. -/
theorem withCall (halike : payload.Alike other) (call : CallBuffers) :
    { payload with call }.Alike { other with call } :=
  { halike with call := rfl }

/-- Writing one swap value keeps two payloads alike. -/
theorem poke (halike : payload.Alike other) (index : Nat) (value : Single) :
    (payload.poke index value).Alike (other.poke index value) := by
  unfold Payload.poke
  rw [halike.call]
  exact halike.withCall _

/-- The log shows how many bytes of contents there are, and not which. -/
theorem report (halike : payload.Alike other) : payload.report = other.report := by
  simp only [Payload.report, halike.call, halike.serverFilePath, halike.length]

/-- Payloads that differ in the content's bytes only have the same lengths. -/
theorem lengths (halike : payload.Alike other) : payload.lengths = other.lengths := by
  simp only [Payload.lengths, halike.call, halike.serverFilePath, halike.length]

/-- Payloads that differ in the content's bytes only have the same header. -/
theorem header (halike : payload.Alike other) : payload.header = other.header := by
  simp only [Payload.header, halike.call, halike.serverFilePath, halike.length]

/-- Payloads that differ in the content's bytes only encode to the same length. -/
theorem encodedLength (halike : payload.Alike other) :
    payload.encodedLength = other.encodedLength := by
  simp only [Payload.encodedLength, halike.call, halike.serverFilePath, halike.length]

end Alike

/-! ### Encodings -/

/-- The content starts behind the header and the five segments before it. -/
theorem contentStart_eq (header : Header) :
    header.contentStart = Header.size + total header (segments.take 5) := by
  simp only [Header.contentStart, total, segments, List.take_succ_cons, List.take_zero,
    List.map_cons, List.map_nil, List.foldr_cons, List.foldr_nil]
  omega

/-- What is before the contents in the encoding of a payload. -/
def front (payload : Payload) : Bytes :=
  payload.header.bytes ++ (segments.take 5).flatMap fun segment => segment.bytes payload

/-- The code is what stands before the content, the content, and the server's path. -/
theorem code_eq_front_append (payload : Payload) :
    payload.code = payload.front ++ (payload.fileContent ++ payload.serverFilePath) := by
  simp [code, front, segments]

/-- Alike payloads have the same bytes before the content. -/
theorem Alike.front (halike : payload.Alike other) : payload.front = other.front := by
  unfold Payload.front
  rw [halike.header]
  simp [segments, halike.call]

/-- What stands before the content ends where the header says the content starts. -/
theorem length_front (hfits : payload.Fits) :
    payload.front.length = payload.header.contentStart := by
  have hsizes : ((segments.take 5).map fun segment => (segment.bytes payload).length) =
      (segments.take 5).map fun segment => segment.size payload.header :=
    List.map_congr_left fun segment hsegment =>
      length_bytes_of_fits hfits (List.mem_of_mem_take hsegment)
  have hheader : payload.header.bytes.length = Header.size := rfl
  rw [contentStart_eq, Payload.front, List.length_append, hheader, List.length_flatMap, hsizes,
    List.sum_eq_foldr, total]

/-- In a payload that fits, the header's length of the content is its length. -/
theorem length_content (hfits : payload.Fits) :
    payload.fileContent.length = payload.header.fileContent.toNat :=
  length_bytes_of_fits hfits (List.getElem_mem (by decide : 5 < segments.length))

/-- Behind the place of the contents nothing of them is left, wherever the bytes are cut off. -/
theorem drop_cut_append {first second : Bytes} (hlength : first.length = second.length)
    (back rest : Bytes) (count : Nat) :
    ((first ++ back).take count ++ rest).drop first.length =
      ((second ++ back).take count ++ rest).drop second.length := by
  have hfront (content : Bytes) : (content.take count).drop content.length = [] :=
    List.drop_eq_nil_of_le (List.length_take_le' ..)
  simp only [List.take_append, List.append_assoc, List.drop_append, hfront, List.nil_append,
    List.length_take]
  rw [hlength]

/-- The encodings of such payloads, cut off somewhere and with bytes behind them, agree outside the
contents. -/
theorem Alike.agree_cut (halike : payload.Alike other) (hfits : payload.Fits) (count : Nat)
    (rest : Bytes) :
    AgreeOutsideContent (payload.code.take count ++ rest) (other.code.take count ++ rest) := by
  rw [code_eq_front_append, code_eq_front_append, ← halike.front, ← halike.serverFilePath]
  have hfront := length_front hfits
  by_cases hcount : count ≤ payload.front.length
  -- nothing is left of the contents
  · rw [List.take_append_of_le_length hcount, List.take_append_of_le_length hcount]
    exact .refl _
  · obtain ⟨more, rfl⟩ := Nat.exists_eq_add_of_le (Nat.le_of_not_le hcount)
    rw [List.take_length_add_append, List.take_length_add_append, List.append_assoc,
      List.append_assoc]
    have hheader (left : Bytes) :
        (payload.front ++ left).take Header.size = payload.header.bytes := by
      rw [Payload.front, List.append_assoc]
      exact List.take_left' rfl
    have honly {header : Header} {left : Bytes}
        (hread : Header.ofWords? (words ((payload.front ++ left).take Header.size)) = some header) :
        header = payload.header := by
      rw [hheader, Header.ofWords?_bytes] at hread
      exact (Option.some.inj hread).symm
    refine ⟨?_, by rw [hheader, hheader], ?_, ?_⟩
    · simp [halike.length]
    · intro header hread
      rw [honly hread, ← hfront, List.take_left, List.take_left]
    · intro header hread
      rw [honly hread, Header.contentStop, ← hfront, ← length_content hfits,
        List.drop_length_add_append, List.drop_length_add_append]
      conv => rhs; rw [halike.length]
      exact drop_cut_append halike.length _ _ _

/-- The codes of alike payloads agree outside the content, whatever is behind them. -/
theorem Alike.agree_code_append (halike : payload.Alike other) (hfits : payload.Fits)
    (rest : Bytes) :
    AgreeOutsideContent (payload.code ++ rest) (other.code ++ rest) := by
  have hagree := halike.agree_cut hfits payload.code.length rest
  rwa [List.take_length, length_code, halike.encodedLength, ← length_code, List.take_length]
    at hagree

/-- The codes of alike payloads agree outside the content. -/
theorem Alike.agree_code (halike : payload.Alike other) (hfits : payload.Fits) :
    AgreeOutsideContent payload.code other.code := by
  have hagree := halike.agree_code_append hfits []
  rwa [List.append_nil, List.append_nil] at hagree

/-- Such payloads have encodings that agree outside the contents, or cannot be encoded for the same
reason. -/
theorem Alike.encode (halike : payload.Alike other) :
    (∃ error, payload.encode = .error error ∧ other.encode = .error error)
      ∨ payload.Fits ∧ payload.encode = .ok payload.code ∧ other.encode = .ok other.code := by
  unfold Payload.encode
  rw [← halike.lengths]
  cases hfind : payload.lengths.find? fun field => field.2 ≥ 0x100000000 with
  | some field => exact .inl ⟨_, rfl, rfl⟩
  | none =>
    have hcode : payload.encode = .ok payload.code := by
      unfold Payload.encode
      rw [hfind]
      rfl
    exact .inr ⟨(encode_eq_ok_iff.1 hcode).1, rfl, rfl⟩

/-! ### Decoding -/

variable {header : Header}

/-- A segment other than the contents is stored alike. -/
theorem Alike.store (htarget : target.Alike target') {segment : Segment}
    (hsegment : segment ∈ segments.take 5 ++ segments.drop 6) (bytes : Bytes) :
    (segment.store bytes target).Alike (segment.store bytes target') := by
  simp only [segments, List.take_succ_cons, List.take_zero, List.drop_succ_cons, List.drop_zero,
    List.cons_append, List.nil_append, List.mem_cons, List.not_mem_nil, or_false] at hsegment
  obtain rfl | rfl | rfl | rfl | rfl | rfl := hsegment
  all_goals exact ⟨by simp [htarget.call], by simp [htarget.serverFilePath], htarget.length⟩

/-- Contents of one length are stored alike. -/
theorem Alike.storeContent (htarget : target.Alike target')
    (hlength : bytes.length = bytes'.length) :
    (segments[5].store bytes target).Alike (segments[5].store bytes' target') :=
  ⟨htarget.call, htarget.serverFilePath, hlength⟩

/-- Receiving such segments from bytes that agree as far as the segments go comes to the same. -/
theorem Alike.receive (htarget : target.Alike target') {list : List Segment}
    (hlist : ∀ segment ∈ list, segment ∈ segments.take 5 ++ segments.drop 6)
    (hlength : bytes.length = bytes'.length)
    (hsame : bytes.take (total header list) = bytes'.take (total header list)) :
    DecodedAlike (receive header list target bytes) (receive header list target' bytes') := by
  induction list generalizing target target' bytes bytes' with
  | nil => exact ⟨htarget, rfl⟩
  | cons segment list ih =>
    rw [List.forall_mem_cons] at hlist
    have htotal : total header (segment :: list) = segment.size header + total header list := rfl
    have hfirst : bytes.take (segment.size header) = bytes'.take (segment.size header) := by
      have hcut := congrArg (List.take (segment.size header)) hsame
      rwa [List.take_take, List.take_take, htotal, Nat.min_eq_left (Nat.le_add_right _ _)] at hcut
    have hrest := congrArg (List.drop (segment.size header)) hsame
    rw [List.drop_take, List.drop_take, htotal, Nat.add_sub_cancel_left] at hrest
    rw [Payload.receive, Payload.receive, ← hlength, ← hfirst]
    split
    · exact ⟨htarget, rfl⟩
    · exact ih (htarget.store hlist.1 _) hlist.2 (by simp [hlength]) hrest

/-- Decoding bytes that agree outside the contents comes to the same. -/
theorem Alike.decode (htarget : target.Alike target') (hbytes : AgreeOutsideContent bytes bytes') :
    DecodedAlike (target.decode bytes) (target'.decode bytes') := by
  unfold Payload.decode
  rw [← hbytes.header]
  cases hread : Header.ofWords? (words (bytes.take Header.size)) with
  | none => exact ⟨htarget, by rw [hbytes.length]⟩
  | some header =>
    -- five segments before the contents, the contents, and one segment behind them
    have hsegments : segments = segments.take 5 ++ segments[5] :: segments.drop 6 := rfl
    simp only
    rw [hsegments, receive_concat, receive_concat]
    have hlength : (bytes.drop Header.size).length = (bytes'.drop Header.size).length := by
      simp only [List.length_drop, hbytes.length]
    have hbefore : (bytes.drop Header.size).take (total header (segments.take 5)) =
        (bytes'.drop Header.size).take (total header (segments.take 5)) := by
      have hsame := congrArg (List.drop Header.size) (hbytes.before header hread)
      rwa [List.drop_take, List.drop_take, contentStart_eq, Nat.add_sub_cancel_left] at hsame
    obtain ⟨hstored, hresult⟩ := htarget.receive
      (fun segment hsegment => List.mem_append_left (segments.drop 6) hsegment) hlength hbefore
    generalize Payload.receive header (segments.take 5) target _ = first at hstored hresult ⊢
    generalize Payload.receive header (segments.take 5) target' _ = second at hstored hresult ⊢
    obtain ⟨stored, result⟩ := first
    obtain ⟨stored', result'⟩ := second
    cases (hresult : result = result')
    cases result with
    | error error => exact ⟨hstored, rfl⟩
    | ok _ =>
      simp only [List.drop_drop, Payload.receive]
      rw [List.length_drop, List.length_drop, hbytes.length]
      split
      · exact ⟨hstored, rfl⟩
      · have hbehind := hbytes.behind header hread
        rw [Header.contentStop, contentStart_eq] at hbehind
        exact (hstored.storeContent (by simp [hbytes.length])).receive
          (fun segment hsegment => List.mem_append_right (segments.take 5) hsegment)
          (congrArg List.length hbehind) (congrArg (List.take _) hbehind)

end ControllerHost.Payload
