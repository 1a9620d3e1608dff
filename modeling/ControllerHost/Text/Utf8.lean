import ControllerHost.Bytes

/-!
# Reading bytes as UTF-8

A byte string is cut into well-formed characters and broken runs. A broken run is a longest start
of a well-formed sequence that the next byte does not continue, or a single byte that can start
none. The reader is a state machine that takes one byte per step.

- `Utf8.segments`: the characters and broken runs of a byte string.
- `Utf8.lossy`: its text, with one replacement character for each broken run.
- `Utf8.lossy_ofText`: the text of a UTF-8 form is the text it was made from.
-/

namespace ControllerHost.Utf8

/-- A piece of a byte string: a well-formed character, or bytes that are part of none. -/
inductive Segment where
  /-- A well-formed character. -/
  | char (c : Char)
  /-- A longest start of a well-formed sequence, or a byte that starts none. -/
  | broken (bytes : Bytes)

/-- A sequence that has begun and is not complete. -/
structure Pending where
  /-- The bytes read so far. -/
  seen : Bytes
  /-- The number that the bytes read so far spell. -/
  value : Nat
  /-- How many bytes are missing after the next one. -/
  missing : Nat
  /-- The least byte that can come next. -/
  least : UInt8 := 0x80
  /-- The greatest byte that can come next. -/
  greatest : UInt8 := 0xBF

/-- What the first byte of a sequence decides. -/
def start (byte : UInt8) : Segment ⊕ Pending :=
  if byte < 0x80 then .inl (.char (Char.ofNat byte.toNat))
  else if byte < 0xC2 then .inl (.broken [byte])
  else if byte < 0xE0 then .inr { seen := [byte], value := byte.toNat - 0xC0, missing := 0 }
  else if byte < 0xF0 then
    .inr { seen := [byte], value := byte.toNat - 0xE0, missing := 1,
           least := if byte = 0xE0 then 0xA0 else 0x80,
           greatest := if byte = 0xED then 0x9F else 0xBF }
  else if byte < 0xF5 then
    .inr { seen := [byte], value := byte.toNat - 0xF0, missing := 2,
           least := if byte = 0xF0 then 0x90 else 0x80,
           greatest := if byte = 0xF4 then 0x8F else 0xBF }
  else .inl (.broken [byte])

/-- The segments of a byte string that follows the sequence begun by `pending`. -/
def segmentsFrom : Option Pending → Bytes → List Segment
  | none, [] => []
  | some pending, [] => [.broken pending.seen]
  | none, byte :: rest =>
    match start byte with
    | .inl segment => segment :: segmentsFrom none rest
    | .inr pending => segmentsFrom (some pending) rest
  | some pending, byte :: rest =>
    if pending.least ≤ byte ∧ byte ≤ pending.greatest then
      let value := pending.value * 0x40 + (byte.toNat - 0x80)
      match pending.missing with
      | 0 => .char (Char.ofNat value) :: segmentsFrom none rest
      | missing + 1 => segmentsFrom (some { seen := pending.seen ++ [byte], value, missing }) rest
    else
      -- the byte that breaks a sequence may begin another one
      .broken pending.seen ::
        match start byte with
        | .inl segment => segment :: segmentsFrom none rest
        | .inr next => segmentsFrom (some next) rest

/-- The characters and broken runs of a byte string, in order. -/
def segments (bytes : Bytes) : List Segment := segmentsFrom none bytes

/-- The character shown for a segment. -/
def Segment.shown : Segment → Char
  | .char c => c
  | .broken _ => '\uFFFD'

/-- The text of a byte string, in which each broken run shows as one replacement character. -/
def lossy (bytes : Bytes) : String :=
  match Bytes.text? bytes with
  | some text => text
  | none => String.ofList ((segments bytes).map Segment.shown)

/-- The text of a UTF-8 form is the text it was made from. -/
@[simp]
theorem lossy_ofText (text : String) : lossy (Bytes.ofText text) = text := by
  simp [lossy, Bytes.text?_ofText]

/-- What has begun is a sequence of several bytes: the number that it spells in the end is no
character of one byte. -/
def Pending.IsLong (pending : Pending) : Prop :=
  2 ≤ if pending.missing = 0 then pending.value
    else pending.value * 0x40 + (pending.least.toNat - 0x80)

/-- A sequence of several bytes begins with a byte that makes it long enough. -/
theorem isLong_of_start {byte : UInt8} {pending : Pending} (hstart : start byte = .inr pending) :
    pending.IsLong := by
  -- one case for each kind of first byte, and the special ones have a greater least second byte
  simp only [start, UInt8.lt_iff_toNat_lt, ← UInt8.toNat_inj] at hstart
  repeat' split at hstart
  all_goals cases hstart
  all_goals simp [Pending.IsLong] at *
  all_goals omega

/-- The number of a character that is made from a number. -/
theorem toNat_char (number : Nat) :
    (Char.ofNat number).toNat = if number.isValidChar then number else 0 := by
  by_cases hvalid : number.isValidChar
  · rw [if_pos hvalid, Char.ofNat, dif_pos hvalid]
    rfl
  · rw [if_neg hvalid, Char.ofNat, dif_neg hvalid]
    rfl

/-- A character that a first byte stands for is the byte's own. -/
theorem char_of_start {byte : UInt8} {char : Char} (hstart : start byte = .inl (.char char)) :
    char.toNat = byte.toNat := by
  unfold start at hstart
  split at hstart
  · rename_i hbyte
    cases hstart
    rw [UInt8.lt_iff_toNat_lt] at hbyte
    have hvalid : byte.toNat.isValidChar := Or.inl (Nat.lt_trans hbyte (by decide))
    rw [toNat_char, if_pos hvalid]
  · repeat' split at hstart
    all_goals cases hstart

/-- Among the characters of a byte string, those of one byte have that byte in the string. -/
theorem mem_of_mem_segmentsFrom {pending? : Option Pending} {bytes : Bytes} {char : Char}
    (hpending : ∀ pending ∈ pending?, pending.IsLong) (hlow : 0 < char.toNat ∧ char.toNat < 0x80)
    (hchar : .char char ∈ segmentsFrom pending? bytes) :
    ∃ byte ∈ bytes, byte.toNat = char.toNat := by
  -- on the bytes, for every sequence that can be under way, as long as it is a long one
  induction bytes generalizing pending? with
  | nil => cases pending? <;> simp [segmentsFrom] at hchar
  | cons byte rest ih =>
    -- what a byte begins is settled by that byte or by the bytes behind it
    have hbegun (hsegment : .char char ∈ match start byte with
        | .inl segment => segment :: segmentsFrom none rest
        | .inr next => segmentsFrom (some next) rest) :
        ∃ byte' ∈ byte :: rest, byte'.toNat = char.toNat := by
      cases hstart : start byte with
      | inl segment =>
        rw [hstart] at hsegment
        rcases List.mem_cons.1 hsegment with rfl | hrest
        · exact ⟨byte, by simp, (char_of_start hstart).symm⟩
        · obtain ⟨byte', hmem, hbyte'⟩ := ih (by simp) hrest
          exact ⟨byte', by simp [hmem], hbyte'⟩
      | inr next =>
        rw [hstart] at hsegment
        obtain ⟨byte', hmem, hbyte'⟩ := ih (by simpa using isLong_of_start hstart) hsegment
        exact ⟨byte', by simp [hmem], hbyte'⟩
    cases pending? with
    | none => exact hbegun hchar
    | some pending =>
      have hlong : pending.IsLong := hpending pending rfl
      rw [segmentsFrom] at hchar
      split at hchar
      · rename_i hrange
        have hleast := UInt8.le_iff_toNat_le.1 hrange.1
        split at hchar
        · rename_i hmissing
          rw [Pending.IsLong, if_pos hmissing] at hlong
          rcases List.mem_cons.1 hchar with hspelled | hrest
          · -- the number spelled in the end is too great
            injection hspelled with hspelled
            rw [hspelled, toNat_char] at hlow
            split at hlow <;> omega
          · obtain ⟨byte', hmem, hbyte'⟩ := ih (by simp) hrest
            exact ⟨byte', by simp [hmem], hbyte'⟩
        · rename_i missing hmissing
          rw [Pending.IsLong, if_neg (by omega)] at hlong
          have hnext : Pending.IsLong
              { seen := pending.seen ++ [byte]
                value := pending.value * 0x40 + (byte.toNat - 0x80)
                missing } := by
            have hvalue : 2 ≤ pending.value * 0x40 + (byte.toNat - 0x80) := by omega
            simp only [Pending.IsLong]
            split <;> omega
          obtain ⟨byte', hmem, hbyte'⟩ := ih (by simpa using hnext) hchar
          exact ⟨byte', by simp [hmem], hbyte'⟩
      · rcases List.mem_cons.1 hchar with hbroken | hsegment
        · cases hbroken
        · exact hbegun hsegment

/-- A character of one byte is in the text of a byte string only if its byte is in the string. -/
theorem mem_of_mem_lossy {bytes : Bytes} {char : Char} (hlow : 0 < char.toNat ∧ char.toNat < 0x80)
    (hchar : char ∈ (lossy bytes).toList) : ∃ byte ∈ bytes, byte.toNat = char.toNat := by
  unfold lossy at hchar
  split at hchar
  · rename_i text htext
    obtain ⟨byte, hbyte⟩ : ∃ byte : UInt8, byte.toNat = char.toNat :=
      ⟨UInt8.ofNat char.toNat, by rw [UInt8.toNat_ofNat']; omega⟩
    refine ⟨byte, ?_, hbyte⟩
    rw [← Bytes.ofText_of_text? htext]
    refine (Bytes.mem_ofText ?_).2 ⟨char, hchar, hbyte.symm⟩
    rw [UInt8.lt_iff_toNat_lt, hbyte]
    exact hlow.2
  · rw [String.toList_ofList] at hchar
    obtain ⟨segment, hsegment, hshown⟩ := List.mem_map.1 hchar
    cases segment with
    | char c =>
      cases hshown
      exact mem_of_mem_segmentsFrom (by simp) hlow hsegment
    | broken run =>
      have hreplacement : '\uFFFD' = char := hshown
      rw [← hreplacement] at hlow
      exact absurd hlow.2 (by decide)

end ControllerHost.Utf8
