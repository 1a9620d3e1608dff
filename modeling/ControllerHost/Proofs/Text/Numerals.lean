import ControllerHost.Text.Quoted
import ControllerHost.Yaml.PlainValue
import Mathlib.Data.Nat.Digits.Defs

/-!
# Numbers and their digits

The digits of a number spell that number, in every base up to 16 and with small or capital letters
for digits above nine. Zeros in front change nothing. A decimal number has none in front, so it
reads back as a plain value too.

- `Numeral.spelled?_map_toDigits`: digits spell the number that they are of.
- `Numeral.spelled?_hex`: so do hexadecimal digits with zeros in front.
- `Yaml.PlainValue.unsigned?_toDigits`: decimal digits as a plain value.
-/

namespace ControllerHost.Numeral

/-- The number that some digits spell behind the digits of another number. -/
def spelled? (base number : Nat) (digits : List Char) : Option Nat :=
  digits.foldlM (fun number c => (digit? base c).map (base * number + ·)) number

@[simp]
theorem spelled?_nil (base number : Nat) : spelled? base number [] = some number := rfl

theorem spelled?_cons {base digit : Nat} {c : Char} (hc : digit? base c = some digit)
    (number : Nat) (digits : List Char) :
    spelled? base number (c :: digits) = spelled? base (base * number + digit) digits := by
  simp [spelled?, hc]

theorem spelled?_append (base number : Nat) (first second : List Char) :
    spelled? base number (first ++ second) =
      (spelled? base number first).bind fun number => spelled? base number second :=
  List.foldlM_append

/-- What spells a number are digits. -/
theorem exists_digit?_of_spelled? {base number value : Nat} {digits : List Char}
    (hdigits : spelled? base number digits = some value) {c : Char} (hc : c ∈ digits) :
    ∃ digit, digit? base c = some digit := by
  induction digits generalizing number with
  | nil => cases hc
  | cons first digits ih =>
    cases hfirst : digit? base first with
    | none => simp [spelled?, hfirst] at hdigits
    | some digit =>
      rcases List.mem_cons.1 hc with rfl | hc
      · exact ⟨digit, hfirst⟩
      · exact ih (by rwa [spelled?_cons hfirst] at hdigits) hc

theorem digits?_of_ne_nil {digits : List Char} (hdigits : digits ≠ []) (base : Nat) :
    digits? base digits = spelled? base 0 digits := by
  cases digits with
  | nil => exact absurd rfl hdigits
  | cons c rest => rfl

theorem digit?_digitChar {digit : Nat} (hdigit : digit < 10) :
    digit? 10 digit.digitChar = some digit := by
  have hall : ∀ digit < 10, digit? 10 digit.digitChar = some digit := by decide
  exact hall digit hdigit

theorem digit?_toUpper_digitChar {digit : Nat} (hdigit : digit < 16) :
    digit? 16 digit.digitChar.toUpper = some digit := by
  have hall : ∀ digit < 16, digit? 16 digit.digitChar.toUpper = some digit := by decide
  exact hall digit hdigit

/-- The digits of a number spell it, if each of them is written so that it can be read. -/
theorem spelled?_map_toDigits {base : Nat} (write : Char → Char)
    (hwrite : ∀ digit < base, digit? base (write digit.digitChar) = some digit) (hbase : 1 < base)
    (number : Nat) : spelled? base 0 ((Nat.toDigits base number).map write) = some number := by
  -- the last digit comes behind the digits of a smaller number
  induction number using Nat.strongRecOn with
  | ind number ih =>
    rcases Nat.lt_or_ge number base with hlt | hge
    · rw [Nat.toDigits_of_lt_base hlt, List.map_singleton, spelled?_cons (hwrite number hlt)]
      simp
    · have hsmaller := ih (number / base) (Nat.div_lt_self (by omega) hbase)
      have hlast := hwrite (number % base) (Nat.mod_lt _ (by omega))
      rw [Nat.toDigits_of_base_le hbase hge, List.map_append, spelled?_append, hsmaller,
        Option.bind_some, List.map_singleton, spelled?_cons hlast, spelled?_nil,
        Nat.div_add_mod]

theorem spelled?_replicate_zero (count : Nat) (digits : List Char) :
    spelled? 16 0 (List.replicate count '0' ++ digits) = spelled? 16 0 digits := by
  induction count with
  | zero => rfl
  | succ count ih =>
    have hzero : digit? 16 '0' = some 0 := rfl
    rw [List.replicate_succ, List.cons_append, spelled?_cons hzero, ← ih]

/-- Hexadecimal digits spell the number that they are of. -/
theorem spelled?_hex (number width : Nat) :
    spelled? 16 0 (Quoted.hex number width true).toList = some number := by
  have hdigits := spelled?_map_toDigits Char.toUpper
    (fun digit hdigit => digit?_toUpper_digitChar hdigit) (by decide) number
  rw [Quoted.hex, String.toList_ofList, spelled?_replicate_zero]
  simpa using hdigits

/-- There are as many hexadecimal digits as asked for, if the number has no more. -/
theorem length_hex {number width : Nat} (hnumber : number < 16 ^ width) (hwidth : 0 < width) :
    (Quoted.hex number width true).toList.length = width := by
  have hlength := Nat.toDigits_length 16 number width hwidth hnumber
  rw [Quoted.hex, String.toList_ofList, List.length_append, List.length_replicate, List.length_map]
  omega

/-- A decimal number begins with a zero only if it has no other digit. -/
theorem eq_nil_of_toDigits {number : Nat} {rest : List Char}
    (hdigits : Nat.toDigits 10 number = '0' :: rest) : rest = [] := by
  induction number using Nat.strongRecOn generalizing rest with
  | ind number ih =>
    rcases Nat.lt_or_ge number 10 with hlt | hge
    · rw [Nat.toDigits_of_lt_base hlt, List.cons.injEq] at hdigits
      exact hdigits.2.symm
    · rw [Nat.toDigits_of_base_le (by decide) hge] at hdigits
      obtain ⟨first, others, hfirst⟩ := List.exists_cons_of_ne_nil
        (Nat.toDigits_ne_nil (n := number / 10) (b := 10))
      rw [hfirst, List.cons_append, List.cons.injEq] at hdigits
      obtain ⟨rfl, -⟩ := hdigits
      -- otherwise what is in front of the last digit would be zero
      have hnil := ih (number / 10) (by omega) hfirst
      have hvalue := Nat.ofDigitChars_ten_toDigits (n := number / 10)
      rw [hfirst, hnil] at hvalue
      have hzero : Nat.ofDigitChars 10 ['0'] 0 = 0 := rfl
      omega

end ControllerHost.Numeral

namespace ControllerHost

namespace Yaml.PlainValue

/-- A decimal number reads back as itself. -/
theorem unsigned?_toDigits {number bound : Nat} (hnumber : number < bound) :
    unsigned? bound (Nat.toDigits 10 number) = some number := by
  have hread : Numeral.digits? 10 (Nat.toDigits 10 number) = some number := by
    have hspelled := Numeral.spelled?_map_toDigits id
      (fun digit hdigit => Numeral.digit?_digitChar hdigit) (by decide) number
    rwa [List.map_id, ← Numeral.digits?_of_ne_nil Nat.toDigits_ne_nil] at hspelled
  have hdigit (c : Char) (hc : c ∈ Nat.toDigits 10 number) : c.isDigit :=
    Nat.isDigit_of_mem_toDigits (by decide) (by decide) hc
  have hzero {rest : List Char} (hrest : Nat.toDigits 10 number = '0' :: rest) : rest = [] :=
    Numeral.eq_nil_of_toDigits hrest
  -- of the digits it matters only that they are digits and do not begin with a spare zero
  generalize Nat.toDigits 10 number = digits at hread hdigit hzero
  have hbased : based? digits = none := by
    unfold based?
    split <;> first | rfl | cases hzero rfl
  have hleading : hasLeadingZero digits = false := by
    unfold hasLeadingZero unsigned
    split
    · rename_i hsigned
      split at hsigned
      · cases hdigit '+' (List.mem_cons_self ..)
      · cases hdigit '-' (List.mem_cons_self ..)
      · cases hzero hsigned
    · rfl
  unfold unsigned?
  split
  · cases hdigit '+' (List.mem_cons_self ..)
  · simp [hbased, hleading, hread, hnumber]

end Yaml.PlainValue

end ControllerHost
