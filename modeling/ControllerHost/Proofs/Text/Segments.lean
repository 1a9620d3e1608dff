import ControllerHost.Text.Quoted

/-!
# Segments of byte strings

A byte below 0x80 is a character of its own, wherever it stands: it ends what has begun before it,
and nothing of it is left for what follows. So a byte string can be taken apart at such bytes, and
shown and quoted part by part.

- `Utf8.segments_ofText`: the segments of a text's UTF-8 form are its characters.
- `Utf8.lossy_eq`: the text of a byte string, segment by segment.
- `Utf8.segments_insert`: the segments of a byte string with one-byte characters inside.
- `Utf8.ofText_lossy_insert`, `Quoted.ofText_quote_insert`: how such a byte string is shown and
  quoted.
-/

namespace ControllerHost

/-- The text of one-byte characters. -/
def Bytes.asText (bytes : Bytes) : String :=
  String.ofList (bytes.map fun byte => Char.ofNat byte.toNat)

theorem Bytes.ofText_append (first second : String) :
    ofText (first ++ second) = ofText first ++ ofText second := by
  rw [ofText_eq, ofText_eq, ofText_eq, String.toList_append, List.flatMap_append]

theorem Bytes.ofText_asText {bytes : Bytes} (hbytes : ∀ byte ∈ bytes, byte < 0x80) :
    ofText bytes.asText = bytes := by
  rw [ofText_eq, asText, String.toList_ofList]
  induction bytes with
  | nil => rfl
  | cons byte rest ih =>
    rw [List.forall_mem_cons, UInt8.lt_iff_toNat_lt] at hbytes
    have hlow : byte.toNat < 128 := hbytes.1
    have hvalue : (Char.ofNat byte.toNat).val.toNat = byte.toNat := by
      have hchar := Utf8.toNat_char byte.toNat
      rwa [if_pos (Or.inl (by omega))] at hchar
    rw [List.map_cons, List.flatMap_cons, ih hbytes.2]
    simp only [String.utf8EncodeChar, hvalue]
    rw [if_pos (by omega), UInt8.ofNat_toNat, List.singleton_append]

namespace Utf8

/-! ### Texts -/

/-- The form of a character is read as that character. -/
theorem segmentsFrom_utf8EncodeChar (char : Char) (rest : Bytes) :
    segmentsFrom none (String.utf8EncodeChar char ++ rest) =
      .char char :: segmentsFrom none rest := by
  have hvalid : char.val.toNat < 0xD800 ∨ 0xDFFF < char.val.toNat ∧ char.val.toNat < 0x110000 :=
    char.valid
  have hchar (number : Nat) (hnumber : number = char.val.toNat) : Char.ofNat number = char := by
    subst hnumber
    exact Char.ofNat_toNat char
  have hbyte (number : Nat) (hnumber : number < 256) : (UInt8.ofNat number).toNat = number := by
    rw [UInt8.toNat_ofNat', Nat.mod_eq_of_lt hnumber]
  simp only [String.utf8EncodeChar]
  generalize char.val.toNat = number at hvalid hchar ⊢
  -- one case for each number of bytes, and the bytes are in the ranges that are asked for
  split
  · simp only [List.cons_append, List.nil_append, segmentsFrom, start, UInt8.lt_iff_toNat_lt,
      hbyte number (by omega), UInt8.reduceToNat]
    rw [if_pos (by omega), hchar number rfl]
  · split
    · simp only [List.cons_append, List.nil_append, segmentsFrom, start, UInt8.lt_iff_toNat_lt,
        UInt8.le_iff_toNat_le, hbyte (number / 64 % 32 + 192) (by omega),
        hbyte (number % 64 + 128) (by omega), UInt8.reduceToNat]
      rw [if_neg (by omega), if_neg (by omega), if_pos (by omega)]
      simp only [UInt8.reduceToNat]
      rw [if_pos (by omega), hchar _ (by omega)]
    · split
      · simp only [List.cons_append, List.nil_append, segmentsFrom, start, UInt8.lt_iff_toNat_lt,
          UInt8.le_iff_toNat_le, hbyte (number / 4096 % 16 + 224) (by omega), ← UInt8.toNat_inj,
          hbyte (number / 64 % 64 + 128) (by omega), hbyte (number % 64 + 128) (by omega),
          UInt8.reduceToNat]
        rw [if_neg (by omega), if_neg (by omega), if_neg (by omega), if_pos (by omega)]
        simp only
        rw [if_pos, if_pos (by omega), hchar _ (by omega)]
        split <;> split <;> simp only [UInt8.reduceToNat] <;> omega
      · simp only [List.cons_append, List.nil_append, segmentsFrom, start, UInt8.lt_iff_toNat_lt,
          UInt8.le_iff_toNat_le, hbyte (number / 262144 % 8 + 240) (by omega), ← UInt8.toNat_inj,
          hbyte (number / 4096 % 64 + 128) (by omega), hbyte (number / 64 % 64 + 128) (by omega),
          hbyte (number % 64 + 128) (by omega), UInt8.reduceToNat]
        rw [if_neg (by omega), if_neg (by omega), if_neg (by omega), if_neg (by omega),
          if_pos (by omega)]
        simp only
        rw [if_pos, if_pos (by omega), if_pos (by omega), hchar _ (by omega)]
        split <;> split <;> simp only [UInt8.reduceToNat] <;> omega

/-- The segments of a text's form are its characters. -/
theorem segments_ofText (text : String) : segments (Bytes.ofText text) = text.toList.map .char := by
  rw [Bytes.ofText_eq, segments]
  induction text.toList with
  | nil => rfl
  | cons char rest ih => rw [List.flatMap_cons, segmentsFrom_utf8EncodeChar, ih, List.map_cons]

/-- Each segment of a byte string shows as one character, whether it is a text's form or not. -/
theorem lossy_eq (bytes : Bytes) :
    lossy bytes = String.ofList ((segments bytes).map Segment.shown) := by
  unfold lossy
  split
  · rename_i text htext
    have hshown : Segment.shown ∘ Segment.char = id := rfl
    rw [← Bytes.ofText_of_text? htext, segments_ofText, List.map_map, hshown, List.map_id,
      String.ofList_toList]
  · rfl

/-! ### One-byte characters inside -/

theorem least_of_start {byte : UInt8} {pending : Pending} (hstart : start byte = .inr pending) :
    0x80 ≤ pending.least := by
  simp only [start] at hstart
  repeat' split at hstart
  all_goals cases hstart
  all_goals simp

/-- A byte below 0x80 ends what has begun, and begins nothing. -/
theorem segmentsFrom_append_cons {pending? : Option Pending}
    (hpending : ∀ pending ∈ pending?, 0x80 ≤ pending.least) (front : Bytes) {byte : UInt8}
    (hbyte : byte < 0x80) (back : Bytes) :
    segmentsFrom pending? (front ++ byte :: back) =
      segmentsFrom pending? front ++ .char (Char.ofNat byte.toNat) :: segmentsFrom none back := by
  have hstart : start byte = .inl (.char (Char.ofNat byte.toNat)) := by
    rw [start, if_pos hbyte]
  -- on what stands before the byte, for every sequence that can be under way
  induction front generalizing pending? with
  | nil =>
    cases pending? with
    | none => simp [segmentsFrom, hstart]
    | some pending =>
      have hleast : 0x80 ≤ pending.least := hpending pending rfl
      have hbreaks : ¬ (pending.least ≤ byte ∧ byte ≤ pending.greatest) := by
        rintro ⟨hle, -⟩
        exact absurd (UInt8.lt_of_lt_of_le hbyte (UInt8.le_trans hleast hle)) (UInt8.lt_irrefl _)
      simp [segmentsFrom, hstart, hbreaks]
  | cons first rest ih =>
    have hbegun : segmentsFrom none (first :: (rest ++ byte :: back)) =
        segmentsFrom none (first :: rest)
          ++ .char (Char.ofNat byte.toNat) :: segmentsFrom none back := by
      simp only [segmentsFrom]
      cases hfirst : start first with
      | inl segment => simp [ih]
      | inr next => exact ih (by simpa using least_of_start hfirst)
    cases pending? with
    | none => exact hbegun
    | some pending =>
      rw [List.cons_append, segmentsFrom, segmentsFrom]
      split
      · split
        · rw [ih (by simp), List.cons_append]
        · exact ih (by simp)
      -- what the first byte breaks it may also begin
      · exact congrArg (.broken pending.seen :: ·) hbegun

theorem segments_append_cons (front : Bytes) {byte : UInt8} (hbyte : byte < 0x80) (back : Bytes) :
    segments (front ++ byte :: back) =
      segments front ++ .char (Char.ofNat byte.toNat) :: segments back :=
  segmentsFrom_append_cons (by simp) front hbyte back

/-- One-byte characters inside a byte string are segments of their own, if there are any. -/
theorem segments_insert (front : Bytes) {middle : Bytes} (hmiddle : ∀ byte ∈ middle, byte < 0x80)
    (hne : middle ≠ []) (back : Bytes) :
    segments (front ++ middle ++ back) =
      segments front ++ middle.map (fun byte => .char (Char.ofNat byte.toNat))
        ++ segments back := by
  induction middle generalizing front with
  | nil => exact absurd rfl hne
  | cons byte rest ih =>
    rw [List.forall_mem_cons] at hmiddle
    rw [List.append_assoc, List.cons_append, segments_append_cons front hmiddle.1]
    cases rest with
    | nil => simp
    | cons next rest =>
      have hrest := ih [] hmiddle.2 (List.cons_ne_nil _ _)
      rw [List.nil_append] at hrest
      rw [hrest]
      simp [segments, segmentsFrom]

theorem ofText_lossy_insert (front : Bytes) {middle : Bytes}
    (hmiddle : ∀ byte ∈ middle, byte < 0x80) (hne : middle ≠ []) (back : Bytes) :
    Bytes.ofText (lossy (front ++ middle ++ back)) =
      Bytes.ofText (lossy front) ++ middle ++ Bytes.ofText (lossy back) := by
  have hshown : lossy (front ++ middle ++ back) = lossy front ++ middle.asText ++ lossy back := by
    rw [lossy_eq, lossy_eq, lossy_eq, segments_insert front hmiddle hne, List.map_append,
      List.map_append, List.map_map, String.ofList_append, String.ofList_append]
    rfl
  rw [hshown, Bytes.ofText_append, Bytes.ofText_append, Bytes.ofText_asText hmiddle]

end Utf8

/-- The characters of one byte but for the controls show as they are. -/
theorem Printable.isPrintable_of_lt {char : Char} (hlow : 0x20 ≤ char.toNat)
    (hhigh : char.toNat < 0x7F) : isPrintable char := by
  have hchanges : changes = 0x0 :: 0x20 :: changes.drop 2 := rfl
  have hlater : ∀ change ∈ changes.drop 2, 0x7F ≤ change := by decide +kernel
  have hnone : (changes.drop 2).countP (· ≤ char.toNat) = 0 := by
    rw [List.countP_eq_zero]
    intro change hchange
    have hle := hlater change hchange
    rw [decide_eq_true_eq]
    omega
  rw [isPrintable, hchanges, List.countP_cons, List.countP_cons, hnone]
  simp [hlow]

namespace Quoted

theorem escape_of_lt {char : Char} (hlow : 0x20 ≤ char.toNat) (hhigh : char.toNat < 0x7F)
    (hmarks : char ≠ '\x27' ∧ char ≠ '"' ∧ char ≠ '\\') : escape char = char.toString := by
  have hcontrol (control : Char) (hcontrol : control.toNat < 0x20) : char ≠ control := by
    rintro rfl
    omega
  unfold escape
  rw [if_neg (hcontrol _ (by decide)), if_neg (hcontrol _ (by decide)),
    if_neg (hcontrol _ (by decide)), if_neg (hcontrol _ (by decide)), if_neg hmarks.1,
    if_neg hmarks.2.1, if_neg hmarks.2.2, if_pos (Printable.isPrintable_of_lt hlow hhigh)]

/-- A byte string as it is written between quotes. -/
def written (bytes : Bytes) : String := String.join ((Utf8.segments bytes).map escapeSegment)

theorem join_plain {bytes : Bytes}
    (hplain : ∀ byte ∈ bytes, escape (Char.ofNat byte.toNat) = (Char.ofNat byte.toNat).toString) :
    String.join (bytes.map fun byte => escape (Char.ofNat byte.toNat)) = bytes.asText := by
  apply String.toList_inj.1
  rw [String.toList_join, List.flatMap_map, Bytes.asText, String.toList_ofList]
  induction bytes with
  | nil => rfl
  | cons byte rest ih =>
    rw [List.forall_mem_cons] at hplain
    rw [List.flatMap_cons, hplain.1, ih hplain.2, List.map_cons, Char.toString_eq_singleton,
      String.toList_singleton, List.singleton_append]

/-- One-byte characters that are written as they are stand between the quotes as they are. -/
theorem ofText_quote_insert (front : Bytes) {middle : Bytes}
    (hmiddle : ∀ byte ∈ middle, byte < 0x80)
    (hplain : ∀ byte ∈ middle, escape (Char.ofNat byte.toNat) = (Char.ofNat byte.toNat).toString)
    (hne : middle ≠ []) (back : Bytes) :
    Bytes.ofText (quote (front ++ middle ++ back)) =
      Bytes.ofText ("\"" ++ written front) ++ middle ++ Bytes.ofText (written back ++ "\"") := by
  have hescape : escapeSegment ∘ (fun byte : UInt8 => Utf8.Segment.char (Char.ofNat byte.toNat)) =
      fun byte => escape (Char.ofNat byte.toNat) := rfl
  have hwritten : written (front ++ middle ++ back) =
      written front ++ middle.asText ++ written back := by
    rw [written, Utf8.segments_insert front hmiddle hne, List.map_append, List.map_append,
      List.map_map, hescape, String.join_append, String.join_append, join_plain hplain]
    rfl
  change Bytes.ofText ("\"" ++ written _ ++ "\"") = _
  rw [hwritten]
  simp only [Bytes.ofText_append, Bytes.ofText_asText hmiddle, List.append_assoc]

end Quoted

end ControllerHost
