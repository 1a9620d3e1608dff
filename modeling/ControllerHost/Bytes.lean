/-!
# Byte strings

Paths, call buffers and files hold bytes that need not be text. This file fixes their type and the
views of them that the library uses:

- `Bytes.ofText` and `Bytes.text?`: the UTF-8 form of a text, and the text a byte string is the
  form of (`Bytes.text?_ofText`, `Bytes.mem_ofText`);
- `Bytes.ofWord` and `Bytes.toWord`: 32-bit words, least significant byte first
  (`Bytes.toWord_ofWord`, `Bytes.ofWord_toWord`);
- `Bytes.untilNul`: what a reader of NUL-terminated buffers sees;
- `Bytes.split`: the pieces between separators (`Bytes.split_append_cons`).
-/

namespace ControllerHost

/-- A byte string. -/
abbrev Bytes := List UInt8

namespace Bytes

/-- The UTF-8 form of a text. -/
def ofText (text : String) : Bytes := text.toUTF8.data.toList

/-- The text whose UTF-8 form `bytes` is, if there is one. -/
def text? (bytes : Bytes) : Option String := String.fromUTF8? ⟨bytes.toArray⟩

theorem text?_ofText (text : String) : text? (ofText text) = some text := by
  have whole : (⟨(ofText text).toArray⟩ : ByteArray) = text.toByteArray := rfl
  have valid : (⟨(ofText text).toArray⟩ : ByteArray).IsValidUTF8 := whole ▸ text.isValidUTF8
  simp only [text?, String.fromUTF8?, dif_pos valid]
  rfl

theorem ofText_of_text? {bytes : Bytes} {text : String} (htext : text? bytes = some text) :
    ofText text = bytes := by
  unfold text? String.fromUTF8? at htext
  split at htext
  · cases htext
    rfl
  · cases htext

/-- The bytes of a text are those of its characters, one after another. -/
theorem ofText_eq (text : String) : ofText text = text.toList.flatMap String.utf8EncodeChar := by
  have hbytes : text.toByteArray = (text.toList.flatMap String.utf8EncodeChar).toByteArray :=
    String.utf8Encode_toList.symm
  have hdata := congrArg (fun bytes => bytes.data.toList) hbytes
  rw [List.toList_data_toByteArray] at hdata
  exact hdata

/-- A byte below 0x80 stands for a character of its own wherever it occurs. -/
theorem mem_utf8EncodeChar {byte : UInt8} (hbyte : byte < 0x80) {char : Char} :
    byte ∈ String.utf8EncodeChar char ↔ char.toNat = byte.toNat := by
  have hvalue (number : Nat) : byte = UInt8.ofNat number ↔ byte.toNat = number % 256 := by
    rw [← UInt8.toNat_inj, UInt8.toNat_ofNat']
  rw [UInt8.lt_iff_toNat_lt] at hbyte
  have hlow : byte.toNat < 128 := hbyte
  change _ ↔ char.val.toNat = byte.toNat
  simp only [String.utf8EncodeChar]
  -- every byte of a longer form is at least 0x80
  split
  · simp only [List.mem_singleton, hvalue]
    omega
  · split
    · simp only [List.mem_cons, List.not_mem_nil, hvalue, or_false]
      constructor <;> omega
    · split
      · simp only [List.mem_cons, List.not_mem_nil, hvalue, or_false]
        constructor <;> omega
      · simp only [List.mem_cons, List.not_mem_nil, hvalue, or_false]
        constructor <;> omega

/-- A character of one byte is in a text exactly if its byte is in the bytes of the text. -/
theorem mem_ofText {byte : UInt8} (hbyte : byte < 0x80) {text : String} :
    byte ∈ ofText text ↔ ∃ char ∈ text.toList, char.toNat = byte.toNat := by
  simp [ofText_eq, List.mem_flatMap, mem_utf8EncodeChar hbyte]

/-- The four bytes of a word, least significant first. -/
def ofWord (word : UInt32) : Bytes :=
  [UInt8.ofNat word.toNat, UInt8.ofNat (word.toNat / 0x100), UInt8.ofNat (word.toNat / 0x10000),
    UInt8.ofNat (word.toNat / 0x1000000)]

/-- The word with the given bytes, least significant first. -/
def toWord (a b c d : UInt8) : UInt32 :=
  UInt32.ofNat (a.toNat + 0x100 * b.toNat + 0x10000 * c.toNat + 0x1000000 * d.toNat)

/-- A word is rebuilt from its four bytes. -/
theorem toWord_ofWord (word : UInt32) :
    toWord (UInt8.ofNat word.toNat) (UInt8.ofNat (word.toNat / 0x100))
      (UInt8.ofNat (word.toNat / 0x10000)) (UInt8.ofNat (word.toNat / 0x1000000)) = word := by
  have bound := word.toNat_lt
  apply UInt32.toNat_inj.1
  simp only [toWord, UInt32.toNat_ofNat', UInt8.toNat_ofNat']
  omega

/-- Four bytes are the bytes of the word that they make. -/
theorem ofWord_toWord (a b c d : UInt8) : ofWord (toWord a b c d) = [a, b, c, d] := by
  have ha := a.toNat_lt
  have hb := b.toNat_lt
  have hc := c.toNat_lt
  have hd := d.toNat_lt
  simp only [ofWord, toWord, UInt32.toNat_ofNat', List.cons.injEq, and_true]
  refine ⟨?_, ?_, ?_, ?_⟩ <;> apply UInt8.toNat_inj.1 <;> simp only [UInt8.toNat_ofNat'] <;> omega

@[simp]
theorem length_ofWord (word : UInt32) : (ofWord word).length = 4 := rfl

/-- The bytes before the first NUL, or all of them. -/
def untilNul (bytes : Bytes) : Bytes := bytes.takeWhile (· != 0)

/-- The pieces of a byte string between the occurrences of `separator`: one more piece than there
are separators. -/
def split (separator : UInt8) : Bytes → List Bytes
  | [] => [[]]
  | byte :: rest =>
    if byte = separator then [] :: split separator rest
    else match split separator rest with
      | [] => [[byte]]
      | piece :: pieces => (byte :: piece) :: pieces

theorem split_ne_nil (separator : UInt8) (bytes : Bytes) : split separator bytes ≠ [] := by
  cases bytes with
  | nil => simp [split]
  | cons byte rest =>
    simp only [split]
    split
    · simp
    · split <;> simp

/-- Splitting at a separator splits what stands before it and what stands after it. -/
theorem split_append_cons (separator : UInt8) (front back : Bytes) :
    split separator (front ++ separator :: back)
      = split separator front ++ split separator back := by
  induction front with
  | nil => simp [split]
  | cons byte rest ih =>
    simp only [List.cons_append, split]
    split
    · rw [ih]
      rfl
    · rw [ih]
      -- the first piece of what stands before the separator gets one byte more
      cases hpieces : split separator rest with
      | nil => exact absurd hpieces (split_ne_nil separator rest)
      | cons piece pieces => rfl

theorem split_of_not_mem {separator : UInt8} {bytes : Bytes} (hbytes : separator ∉ bytes) :
    split separator bytes = [bytes] := by
  induction bytes with
  | nil => rfl
  | cons byte rest ih =>
    rw [List.mem_cons, not_or] at hbytes
    rw [split, if_neg (Ne.symm hbytes.1), ih hbytes.2]

/-- What is in a piece is in the whole. -/
theorem mem_of_mem_split {separator byte : UInt8} {bytes piece : Bytes}
    (hpiece : piece ∈ split separator bytes) (hbyte : byte ∈ piece) : byte ∈ bytes := by
  induction bytes generalizing piece with
  | nil =>
    rw [split, List.mem_singleton] at hpiece
    rwa [hpiece] at hbyte
  | cons first rest ih =>
    rw [split] at hpiece
    split at hpiece
    · rcases List.mem_cons.1 hpiece with rfl | hpiece
      · cases hbyte
      · exact List.mem_cons_of_mem _ (ih hpiece hbyte)
    -- the first byte goes in front of the first piece of the rest
    · cases hpieces : split separator rest with
      | nil => exact absurd hpieces (split_ne_nil separator rest)
      | cons head pieces =>
        rw [hpieces] at hpiece ih
        rcases List.mem_cons.1 hpiece with rfl | hpiece
        · rcases List.mem_cons.1 hbyte with rfl | hbyte
          · exact List.mem_cons_self
          · exact List.mem_cons_of_mem _ (ih List.mem_cons_self hbyte)
        · exact List.mem_cons_of_mem _ (ih (List.mem_cons_of_mem _ hpiece) hbyte)

theorem not_mem_of_mem_split {separator : UInt8} {bytes piece : Bytes}
    (hpiece : piece ∈ split separator bytes) : separator ∉ piece := by
  induction bytes generalizing piece with
  | nil =>
    rw [split, List.mem_singleton] at hpiece
    simp [hpiece]
  | cons byte rest ih =>
    rw [split] at hpiece
    split at hpiece
    · rcases List.mem_cons.1 hpiece with rfl | hpiece
      · simp
      · exact ih hpiece
    · rename_i hbyte
      -- the first byte goes in front of the first piece of the rest, and is no separator
      cases hpieces : split separator rest with
      | nil => exact absurd hpieces (split_ne_nil separator rest)
      | cons first pieces =>
        rw [hpieces] at hpiece ih
        rcases List.mem_cons.1 hpiece with rfl | hpiece
        · rw [List.mem_cons, not_or]
          exact ⟨Ne.symm hbyte, ih (by simp)⟩
        · exact ih (by simp [hpiece])

end Bytes

end ControllerHost
