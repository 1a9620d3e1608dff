import ControllerHost.Connection
import ControllerHost.Proofs.FileSystem.Copies
import ControllerHost.Proofs.Text.Segments
import Mathlib.Data.List.TakeWhile

/-!
# The names of private copies

Whatever the file is called that a private copy is made of, the connection can be read off the name
of the copy: in front of the extension there are six characters, and between two dashes in front of
these the connection's number. What stands before that is the name of the file, as it is shown. So
no two connections ever want the same name, and what is said about a copy is the same for every
choice of the six characters but for these characters themselves.

- `PrivateCopy.nameOf_eq`, `PrivateCopy.parts_of_nameOf`: the parts of a name, and what they were
  made from.
- `Bytes.Matches`, `Text.Matches`: byte strings and texts that differ in the random characters of
  one name at most.
- `Bytes.Matches.lossy`, `Bytes.Matches.quote`: such byte strings are shown and quoted as such
  texts.
-/

namespace ControllerHost

/-! ### Parts of names -/

/-- The last occurrence of a byte takes a byte string apart in one way. -/
theorem Bytes.eq_of_append_cons {byte : UInt8} {front front' back back' : Bytes}
    (hback : byte ∉ back) (hback' : byte ∉ back')
    (hsame : front ++ byte :: back = front' ++ byte :: back') : front = front' ∧ back = back' := by
  have hend (front back : Bytes) (hback : byte ∉ back) :
      (front ++ byte :: back).reverse.takeWhile (· != byte) = back.reverse := by
    have hall : ∀ other ∈ back.reverse, (other != byte) = true := by
      intro other hother
      rw [bne_iff_ne]
      rintro rfl
      exact hback (List.mem_reverse.1 hother)
    rw [List.reverse_append, List.reverse_cons, List.append_assoc,
      List.takeWhile_append_of_pos hall]
    simp
  have hlast : back = back' := by
    rw [← List.reverse_inj, ← hend front back hback, hsame, hend front' back' hback']
  subst hlast
  exact ⟨List.append_cancel_right hsame, rfl⟩

/-- Different texts have different UTF-8 forms. -/
theorem Bytes.ofText_injective : Function.Injective ofText := by
  intro first second hsame
  have htexts := congrArg text? hsame
  rwa [text?_ofText, text?_ofText, Option.some.injEq] at htexts

/-- A random part is its characters. -/
theorem NamePart.bytes_injective : Function.Injective NamePart.bytes := by
  rintro ⟨bytes, _, _⟩ ⟨bytes', _, _⟩ hsame
  cases (hsame : bytes = bytes')
  rfl

/-- Showing a byte string adds no byte below 0x80 but NUL to it. -/
theorem Utf8.mem_ofText_lossy {byte : UInt8} (hlow : 0 < byte.toNat ∧ byte < 0x80) {bytes : Bytes}
    (hbyte : byte ∈ Bytes.ofText (lossy bytes)) : byte ∈ bytes := by
  obtain ⟨char, hchar, hnumber⟩ := (Bytes.mem_ofText hlow.2).1 hbyte
  have hsmall : char.toNat < 0x80 := by
    rw [hnumber]
    exact UInt8.lt_iff_toNat_lt.1 hlow.2
  obtain ⟨other, hother, hsame⟩ := mem_of_mem_lossy ⟨hnumber ▸ hlow.1, hsmall⟩ hchar
  rwa [← UInt8.toNat_inj.1 (hsame.trans hnumber)]

/-- There is no dot in an extension. -/
theorem Path.dot_not_mem_of_extensionOf? {name extension : Bytes}
    (hextension : extensionOf? name = some extension) : dot ∉ extension := by
  simp only [extensionOf?] at hextension
  split at hextension
  · cases hextension
    intro hmem
    have hne := List.mem_takeWhile_imp (List.mem_reverse.1 hmem)
    simp at hne
  · cases hextension

/-- An extension is the end of a name. -/
theorem Path.mem_of_mem_extension {byte : UInt8} {name extension : Bytes}
    (hextension : extensionOf? name = some extension) (hbyte : byte ∈ extension) : byte ∈ name := by
  simp only [extensionOf?] at hextension
  split at hextension
  · cases hextension
    have hmem := (List.takeWhile_sublist _).subset (List.mem_reverse.1 hbyte)
    exact List.mem_reverse.1 hmem
  · cases hextension

/-- A name without an extension has a dot in front at most. -/
theorem Path.dot_not_mem_tail {name : Bytes} (hextension : extensionOf? name = none) :
    dot ∉ name.tail := by
  simp only [extensionOf?] at hextension
  split at hextension
  · cases hextension
  · rename_i hlength
    -- all but the first byte of the name stands behind its last dot
    have hsplit := List.takeWhile_append_dropWhile (p := (· != dot)) (l := name.reverse)
    have htotal := congrArg List.length hsplit
    rw [List.length_append, List.length_reverse] at htotal
    rw [List.length_reverse] at hlength
    have hname : name = (name.reverse.dropWhile (· != dot)).reverse
        ++ (name.reverse.takeWhile (· != dot)).reverse := by
      rw [← List.reverse_append, hsplit, List.reverse_reverse]
    have hshort : (name.reverse.dropWhile (· != dot)).length ≤ 1 := by omega
    intro hmem
    have htail : dot ∈ (name.reverse.takeWhile (· != dot)).reverse := by
      rw [hname] at hmem
      generalize name.reverse.dropWhile (· != dot) = front at hmem hshort
      match front, hshort with
      | [], _ => exact List.mem_of_mem_tail hmem
      | [byte], _ => simpa using hmem
    have hne := List.mem_takeWhile_imp (List.mem_reverse.1 htail)
    simp at hne

namespace PrivateCopy

/-- What stands in front of the random part of a name: the connection, between dashes. -/
def mark (connection : Int32) : Bytes := Bytes.ofText ("-" ++ paddedNumber connection ++ "-")

/-- What stands behind the random part of a name. -/
def ending (source : Path) : Bytes :=
  match source.extension? with
  | some extension => Bytes.ofText ("." ++ Utf8.lossy extension)
  | none => []

/-- The name of a copy is the shown name of the source, the connection's mark, the random part and
the extension. -/
theorem nameOf_eq (source : Path) (fileName : Bytes) (connection : Int32) (part : NamePart) :
    nameOf source fileName connection part =
      Bytes.ofText (Utf8.lossy fileName) ++ (mark connection ++ part.bytes) ++ ending source := by
  have hfront : Bytes.ofText (Utf8.lossy fileName ++ "-" ++ paddedNumber connection ++ "-") =
      Bytes.ofText (Utf8.lossy fileName) ++ mark connection := by
    rw [mark, String.append_assoc, String.append_assoc, Bytes.ofText_append, String.append_assoc]
  change Bytes.ofText (Utf8.lossy fileName ++ "-" ++ paddedNumber connection ++ "-") ++ part.bytes
    ++ ending source = _
  rw [hfront, List.append_assoc (Bytes.ofText _)]

/-- A mark is the connection's number between dashes. -/
theorem mark_eq (connection : Int32) :
    mark connection = 0x2D :: (Bytes.ofText (paddedNumber connection) ++ [0x2D]) := by
  rw [mark, Bytes.ofText_append, Bytes.ofText_append]
  rfl

/-- A letter, a digit, or a dash. -/
def IsPlain (byte : UInt8) : Prop := isAlphanumeric byte ∨ byte = 0x2D

/-- A number is written in digits, with a dash in front if it is negative. -/
theorem isPlain_of_mem_paddedNumber {connection : Int32} {byte : UInt8}
    (hbyte : byte ∈ Bytes.ofText (paddedNumber connection)) :
    IsPlain byte ∧ (0 ≤ connection.toInt → byte ≠ 0x2D) := by
  rw [Bytes.ofText_eq, List.mem_flatMap] at hbyte
  obtain ⟨char, hchar, hbyte⟩ := hbyte
  -- a character is the sign, a zero in front, or a digit
  have hkind : char = '-' ∧ connection.toInt < 0 ∨ char.isDigit := by
    simp only [paddedNumber, String.toList_ofList, List.mem_append] at hchar
    rcases hchar with (hsign | hzero) | hdigit
    · split at hsign
      · exact .inl ⟨List.mem_singleton.1 hsign, by assumption⟩
      · cases hsign
    · rw [List.eq_of_mem_replicate hzero]
      exact .inr rfl
    · exact .inr (Nat.isDigit_of_mem_toDigits (by decide) (by decide) hdigit)
  rcases hkind with ⟨rfl, hnegative⟩ | hdigit
  · have hdash : byte = 0x2D := List.mem_singleton.1 hbyte
    exact ⟨.inr hdash, fun hnonnegative => absurd hnegative (by omega)⟩
  · rw [Char.isDigit_iff_toNat] at hdigit
    change 48 ≤ char.val.toNat ∧ char.val.toNat ≤ 57 at hdigit
    rw [String.utf8EncodeChar] at hbyte
    rw [if_pos (by omega), List.mem_singleton] at hbyte
    have hvalue : byte.toNat = char.val.toNat := by
      rw [hbyte, UInt8.toNat_ofNat']
      omega
    refine ⟨.inl ?_, ?_⟩
    · simp only [isAlphanumeric, hvalue, Bool.or_eq_true, Bool.and_eq_true, decide_eq_true_eq]
      omega
    · rintro - rfl
      have hdash : (0x2D : UInt8).toNat = 45 := rfl
      omega

/-- A dot is not among the plain bytes. -/
theorem not_mem_of_isPlain {bytes : Bytes} (hbytes : ∀ byte ∈ bytes, IsPlain byte) :
    Path.dot ∉ bytes := by
  intro hdot
  rcases hbytes _ hdot with halphanumeric | hdash
  · exact absurd halphanumeric (by decide)
  · exact absurd hdash (by decide)

/-- Different numbers that are not negative are written differently. -/
theorem paddedNumber_injective {first second : Int32} (hfirst : 0 ≤ first.toInt)
    (hsecond : 0 ≤ second.toInt) (hsame : paddedNumber first = paddedNumber second) :
    first = second := by
  have hvalue {connection : Int32} (hconnection : 0 ≤ connection.toInt) :
      Nat.ofDigitChars 10 (paddedNumber connection).toList 0 = connection.toInt.natAbs := by
    rw [paddedNumber, String.toList_ofList, if_neg (by omega), List.nil_append,
      Nat.ofDigitChars_append, Nat.ofDigitChars_replicate_zero, Nat.mul_zero,
      Nat.ofDigitChars_toDigits (by decide) (by decide)]
  have hnumbers := hvalue hfirst
  rw [hsame, hvalue hsecond] at hnumbers
  apply Int32.toInt_inj.1
  omega

/-- Marks are plain. -/
theorem isPlain_of_mem_mark {connection : Int32} {byte : UInt8} (hbyte : byte ∈ mark connection) :
    IsPlain byte := by
  rw [mark_eq, List.mem_cons, List.mem_append, List.mem_singleton] at hbyte
  rcases hbyte with hdash | hnumber | hdash
  · exact .inr hdash
  · exact (isPlain_of_mem_paddedNumber hnumber).1
  · exact .inr hdash

/-- Marks with their random parts are plain. -/
theorem isPlain_of_mem_tag {connection : Int32} {part : NamePart} {byte : UInt8}
    (hbyte : byte ∈ mark connection ++ part.bytes) : IsPlain byte := by
  rcases List.mem_append.1 hbyte with hmark | hpart
  · exact isPlain_of_mem_mark hmark
  · exact .inl (part.alphanumeric byte hpart)

/-- What stands in front of a name's ending can be taken apart: six characters at the end, a dash, a
number without dashes, one more dash, and the rest. -/
theorem parts_of_front {front front' : Bytes} {first second : Int32} {part part' : NamePart}
    (hfirst : 0 ≤ first.toInt) (hsecond : 0 ≤ second.toInt)
    (hsame : front ++ (mark first ++ part.bytes) = front' ++ (mark second ++ part'.bytes)) :
    front = front' ∧ first = second ∧ part = part' := by
  rw [← List.append_assoc, ← List.append_assoc] at hsame
  obtain ⟨hfronts, hparts⟩ := List.append_inj' hsame (part.length_eq.trans part'.length_eq.symm)
  rw [mark_eq, mark_eq, ← List.cons_append, ← List.cons_append, ← List.append_assoc,
    ← List.append_assoc] at hfronts
  have hdashes := (List.append_inj' hfronts rfl).1
  obtain ⟨hbefore, hnumbers⟩ := Bytes.eq_of_append_cons
    (fun hdash => (isPlain_of_mem_paddedNumber hdash).2 hfirst rfl)
    (fun hdash => (isPlain_of_mem_paddedNumber hdash).2 hsecond rfl) hdashes
  exact ⟨hbefore, paddedNumber_injective hfirst hsecond (Bytes.ofText_injective hnumbers),
    NamePart.bytes_injective hparts⟩

/-- There is no dot between the shown name and the extension. -/
theorem dot_not_mem_tag (connection : Int32) (part : NamePart) :
    Path.dot ∉ mark connection ++ part.bytes :=
  not_mem_of_isPlain fun _ hbyte => isPlain_of_mem_tag hbyte

/-- Without an extension the name of a copy has a dot in front at most. -/
theorem dot_not_mem_tail_front {fileName : Bytes} (hextension : Path.extensionOf? fileName = none)
    (connection : Int32) (part : NamePart) :
    Path.dot ∉ (Bytes.ofText (Utf8.lossy fileName) ++ (mark connection ++ part.bytes)).tail := by
  have hshown {bytes : Bytes} (hbytes : Path.dot ∉ bytes) :
      Path.dot ∉ Bytes.ofText (Utf8.lossy bytes) :=
    fun hdot => hbytes (Utf8.mem_ofText_lossy (by decide) hdot)
  have htail : Path.dot ∉ (Bytes.ofText (Utf8.lossy fileName)).tail := by
    have hrest := Path.dot_not_mem_tail hextension
    cases fileName with
    | nil => exact fun hdot => hshown hrest (List.mem_of_mem_tail hdot)
    | cons byte rest =>
      by_cases hbyte : byte = Path.dot
      · -- the dot in front is shown as itself
        have hshow : Bytes.ofText (Utf8.lossy (Path.dot :: rest)) =
            Path.dot :: Bytes.ofText (Utf8.lossy rest) :=
          Utf8.ofText_lossy_insert [] (List.forall_mem_singleton.2 (by decide : Path.dot < 0x80))
            (List.cons_ne_nil _ _) rest
        rw [hbyte, hshow]
        exact hshown hrest
      · refine fun hdot => hshown ?_ (List.mem_of_mem_tail hdot)
        rw [List.mem_cons, not_or]
        exact ⟨Ne.symm hbyte, hrest⟩
  have htag := dot_not_mem_tag connection part
  cases hfront : Bytes.ofText (Utf8.lossy fileName) with
  | nil => exact fun hdot => htag (List.mem_of_mem_tail hdot)
  | cons byte rest =>
    rw [hfront] at htail
    rw [List.cons_append, List.tail_cons, List.mem_append, not_or]
    exact ⟨htail, htag⟩

/-- A copy's name ends in what follows the last dot of the source's name. -/
theorem ending_eq {source : Path} {fileName : Bytes} (hname : source.fileName? = some fileName) :
    ending source = (Path.extensionOf? fileName).elim []
      fun extension => Path.dot :: Bytes.ofText (Utf8.lossy extension) := by
  rw [ending, Path.extension?, hname, Option.bind_some]
  cases Path.extensionOf? fileName with
  | none => rfl
  | some extension => exact Bytes.ofText_append "." _

/-- There is no dot in an extension, as it is shown. -/
theorem dot_not_mem_ofText_extension {fileName extension : Bytes}
    (hextension : Path.extensionOf? fileName = some extension) :
    Path.dot ∉ Bytes.ofText (Utf8.lossy extension) := fun hdot =>
  Path.dot_not_mem_of_extensionOf? hextension (Utf8.mem_ofText_lossy (by decide) hdot)

/-- What ends with an extension has a dot behind its front, and what has none has no dot there. -/
theorem front_ne_append_dot {fileName : Bytes} (hextension : Path.extensionOf? fileName = none)
    (connection : Int32) (part : NamePart) {front : Bytes} (hfront : front ≠ []) (behind : Bytes) :
    Bytes.ofText (Utf8.lossy fileName) ++ (mark connection ++ part.bytes) ≠
      front ++ Path.dot :: behind := by
  intro hsame
  apply dot_not_mem_tail_front hextension connection part
  rw [hsame, List.tail_append_of_ne_nil hfront, List.mem_append]
  exact .inr (List.mem_cons_self ..)

/-- Something always stands before the extension. -/
theorem front_ne_nil (fileName : Bytes) (connection : Int32) (part : NamePart) :
    Bytes.ofText (Utf8.lossy fileName) ++ (mark connection ++ part.bytes) ≠ [] := by
  simp [mark_eq]

/-- The name of a copy can be taken apart: an extension behind its last dot, if the file has one,
and in front of that what `parts_of_front` takes apart. -/
theorem parts_of_nameOf {source source' : Path} {fileName fileName' : Bytes}
    (hname : source.fileName? = some fileName) (hname' : source'.fileName? = some fileName')
    {first second : Int32} (hfirst : 0 ≤ first.toInt) (hsecond : 0 ≤ second.toInt)
    {part part' : NamePart}
    (hsame : nameOf source fileName first part = nameOf source' fileName' second part') :
    Utf8.lossy fileName = Utf8.lossy fileName' ∧ first = second ∧ part = part' := by
  rw [nameOf_eq, nameOf_eq, ending_eq hname, ending_eq hname'] at hsame
  have hfronts : Bytes.ofText (Utf8.lossy fileName) ++ (mark first ++ part.bytes) =
      Bytes.ofText (Utf8.lossy fileName') ++ (mark second ++ part'.bytes) := by
    -- two files of which one has an extension have no names in common
    cases hextension : Path.extensionOf? fileName with
    | none =>
      rw [hextension, Option.elim_none, List.append_nil] at hsame
      cases hextension' : Path.extensionOf? fileName' with
      | none => rwa [hextension', Option.elim_none, List.append_nil] at hsame
      | some extension' =>
        rw [hextension', Option.elim_some] at hsame
        have hfront := front_ne_nil fileName' second part'
        exact absurd hsame (front_ne_append_dot hextension first part hfront _)
    | some extension =>
      rw [hextension, Option.elim_some] at hsame
      cases hextension' : Path.extensionOf? fileName' with
      | none =>
        rw [hextension', Option.elim_none, List.append_nil] at hsame
        have hfront := front_ne_nil fileName first part
        exact absurd hsame.symm (front_ne_append_dot hextension' second part' hfront _)
      | some extension' =>
        rw [hextension', Option.elim_some] at hsame
        exact (Bytes.eq_of_append_cons (dot_not_mem_ofText_extension hextension)
          (dot_not_mem_ofText_extension hextension') hsame).1
  obtain ⟨hshown, hparts⟩ := parts_of_front hfirst hsecond hfronts
  exact ⟨Bytes.ofText_injective hshown, hparts⟩

/-! ### The random part -/

/-- Plain bytes are below 0x80. -/
theorem lt_of_isPlain {byte : UInt8} (hbyte : IsPlain byte) : byte < 0x80 := by
  rw [UInt8.lt_iff_toNat_lt]
  change byte.toNat < 128
  rcases hbyte with halphanumeric | rfl
  · simp only [isAlphanumeric, Bool.or_eq_true, Bool.and_eq_true, decide_eq_true_eq]
      at halphanumeric
    omega
  · decide

/-- Letters, digits and dashes are written as they are. -/
theorem escape_of_isPlain {byte : UInt8} (hbyte : IsPlain byte) :
    Quoted.escape (Char.ofNat byte.toNat) = (Char.ofNat byte.toNat).toString := by
  have hnumber : 48 ≤ byte.toNat ∧ byte.toNat ≤ 57 ∨ 65 ≤ byte.toNat ∧ byte.toNat ≤ 90
      ∨ 97 ≤ byte.toNat ∧ byte.toNat ≤ 122 ∨ byte.toNat = 45 := by
    rcases hbyte with halphanumeric | rfl
    · simp only [isAlphanumeric, Bool.or_eq_true, Bool.and_eq_true, decide_eq_true_eq]
        at halphanumeric
      omega
    · decide
  have hchar : (Char.ofNat byte.toNat).toNat = byte.toNat := by
    rw [Utf8.toNat_char, if_pos (Or.inl (by omega))]
  have hne (mark : Char) (hmark : mark.toNat ≠ byte.toNat) : Char.ofNat byte.toNat ≠ mark := by
    intro hsame
    exact hmark (hsame ▸ hchar)
  have hquote : '\x27'.toNat = 39 ∧ '"'.toNat = 34 ∧ '\\'.toNat = 92 := by decide
  apply Quoted.escape_of_lt (by omega) (by omega)
  exact ⟨hne _ (by omega), hne _ (by omega), hne _ (by omega)⟩

/-- What the name of a copy has apart from letters, digits, dashes and dots comes from the file's
name. -/
theorem mem_of_mem_nameOf {byte : UInt8} (hlow : 0 < byte.toNat ∧ byte < 0x80)
    (hplain : ¬ IsPlain byte) (hdot : byte ≠ Path.dot) {source : Path} {fileName : Bytes}
    (hname : source.fileName? = some fileName) {connection : Int32} {part : NamePart}
    (hbyte : byte ∈ nameOf source fileName connection part) : byte ∈ fileName := by
  rw [nameOf_eq, List.mem_append, List.mem_append] at hbyte
  rcases hbyte with (hfront | htag) | hending
  · exact Utf8.mem_ofText_lossy hlow hfront
  · exact absurd (isPlain_of_mem_tag htag) hplain
  · rw [ending_eq hname] at hending
    cases hextension : Path.extensionOf? fileName with
    | none =>
      rw [hextension] at hending
      cases hending
    | some extension =>
      rw [hextension] at hending
      rcases List.mem_cons.1 hending with hsame | hrest
      · exact absurd hsame hdot
      · exact Path.mem_of_mem_extension hextension (Utf8.mem_ofText_lossy hlow hrest)

theorem tag_ne_nil (connection : Int32) (part : NamePart) : mark connection ++ part.bytes ≠ [] := by
  simp [mark_eq]

end PrivateCopy

/-- Two byte strings are the same but for the random part of a name that was made for a
connection. -/
def Bytes.Matches (conn : ConnectionId) (first second : Bytes) : Prop :=
  first = second ∨ ∃ (front back : Bytes) (part part' : NamePart),
    first = front ++ (PrivateCopy.mark conn ++ part.bytes) ++ back
      ∧ second = front ++ (PrivateCopy.mark conn ++ part'.bytes) ++ back

/-- Two texts are the same but for the random part of a name that was made for a connection. -/
def Text.Matches (conn : ConnectionId) (first second : String) : Prop :=
  Bytes.Matches conn (Bytes.ofText first) (Bytes.ofText second)

section Matches

variable {conn : ConnectionId} {first second : Bytes}

/-- A text matches itself. -/
theorem Text.matches_self (conn : ConnectionId) (text : String) : Text.Matches conn text text :=
  .inl rfl

/-- With the same bytes around them, matching byte strings match. -/
theorem Bytes.Matches.append (hmatches : Bytes.Matches conn first second) (front back : Bytes) :
    Bytes.Matches conn (front ++ first ++ back) (front ++ second ++ back) := by
  rcases hmatches with rfl | ⟨front', back', part, part', rfl, rfl⟩
  · exact .inl rfl
  · exact .inr ⟨front ++ front', back' ++ back, part, part', by simp, by simp⟩

/-- With the same texts around them, matching texts match. -/
theorem Text.Matches.append {first second : String} (hmatches : Text.Matches conn first second)
    (front back : String) :
    Text.Matches conn (front ++ first ++ back) (front ++ second ++ back) := by
  have hbytes := Bytes.Matches.append hmatches (Bytes.ofText front) (Bytes.ofText back)
  simpa only [Text.Matches, Bytes.ofText_append] using hbytes

theorem Text.Matches.append_left {first second : String} (hmatches : Text.Matches conn first second)
    (front : String) : Text.Matches conn (front ++ first) (front ++ second) := by
  have happend := hmatches.append front ""
  rwa [String.append_empty, String.append_empty] at happend

theorem Text.Matches.append_right {first second : String}
    (hmatches : Text.Matches conn first second) (back : String) :
    Text.Matches conn (first ++ back) (second ++ back) := by
  have happend := hmatches.append "" back
  rwa [String.empty_append, String.empty_append] at happend

/-- Byte strings that match are shown as texts that match. -/
theorem Bytes.Matches.lossy (hmatches : Bytes.Matches conn first second) :
    Text.Matches conn (Utf8.lossy first) (Utf8.lossy second) := by
  rcases hmatches with rfl | ⟨front, back, part, part', rfl, rfl⟩
  · exact .inl rfl
  · have hshown (part : NamePart) := Utf8.ofText_lossy_insert front
      (fun _ hbyte => PrivateCopy.lt_of_isPlain (PrivateCopy.isPlain_of_mem_tag hbyte))
      (PrivateCopy.tag_ne_nil conn part) back
    exact .inr ⟨_, _, part, part', hshown part, hshown part'⟩

/-- Byte strings that match are quoted as texts that match. -/
theorem Bytes.Matches.quote (hmatches : Bytes.Matches conn first second) :
    Text.Matches conn (Quoted.quote first) (Quoted.quote second) := by
  rcases hmatches with rfl | ⟨front, back, part, part', rfl, rfl⟩
  · exact .inl rfl
  · have hquoted (part : NamePart) := Quoted.ofText_quote_insert front
      (fun _ hbyte => PrivateCopy.lt_of_isPlain (PrivateCopy.isPlain_of_mem_tag hbyte))
      (fun _ hbyte => PrivateCopy.escape_of_isPlain (PrivateCopy.isPlain_of_mem_tag hbyte))
      (PrivateCopy.tag_ne_nil conn part) back
    exact .inr ⟨_, _, part, part', hquoted part, hquoted part'⟩

/-- Two names of copies of one file for one connection match. -/
theorem PrivateCopy.nameOf_matches (source : Path) (fileName : Bytes) (conn : ConnectionId)
    (part part' : NamePart) :
    Bytes.Matches conn (nameOf source fileName conn part) (nameOf source fileName conn part') :=
  .inr ⟨_, _, part, part', nameOf_eq .., nameOf_eq ..⟩

end Matches

end ControllerHost
