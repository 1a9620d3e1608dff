import ControllerHost.Text.Numeral

/-!
# What plain scalars stand for

A plain scalar can stand for nothing, for a truth value or for a number, and otherwise it stands
for its own text. Numbers are decimal, or have a base in front; decimal ones have no leading zeros,
but digits with a leading zero look so much like a number that they are never left plain.

- `PlainValue.isNull`, `PlainValue.bool?`.
- `PlainValue.unsigned?`, `PlainValue.isNegative`, `PlainValue.isDecimalFraction`.
- `PlainValue.isAmbiguous`: whether a text would read back as anything but itself.
-/

namespace ControllerHost.Yaml.PlainValue

open Numeral (digits?)

/-- Whether a scalar stands for nothing when it is not empty. -/
def isNull (text : String) : Bool := ["~", "null", "Null", "NULL"].contains text

/-- The truth value that a scalar stands for. -/
def bool? (text : String) : Option Bool :=
  if ["true", "True", "TRUE"].contains text then some true
  else if ["false", "False", "FALSE"].contains text then some false
  else none

/-- A text without a sign in front. -/
def unsigned : List Char → List Char
  | '+' :: rest => rest
  | '-' :: rest => rest
  | rest => rest

/-- Whether a scalar has several digits of which the first is zero. -/
def hasLeadingZero (text : List Char) : Bool :=
  match unsigned text with
  | '0' :: c :: rest => (c :: rest).all Char.isDigit
  | _ => false

/-- The number that digits with a base in front spell. -/
def based? : List Char → Option Nat
  | '0' :: 'x' :: digits => digits? 16 digits
  | '0' :: 'o' :: digits => digits? 8 digits
  | '0' :: 'b' :: digits => digits? 2 digits
  | _ => none

/-- The number that a scalar stands for, if it needs no minus sign and fits below a bound. -/
def unsigned? (bound : Nat) (text : List Char) : Option Nat :=
  let magnitude := match text with
    | '+' :: rest => rest
    | rest => rest
  let number? := match based? magnitude with
    | some number => some number
    | none => if hasLeadingZero text then none else digits? 10 magnitude
  number?.filter (· < bound)

/-- Whether a scalar stands for a number with a minus sign that fits a signed word of 128 bits. -/
def isNegative (text : List Char) : Bool :=
  match text with
  | '-' :: magnitude =>
    let number? := match based? magnitude with
      | some number => some number
      | none => if hasLeadingZero text then none else digits? 10 magnitude
    number?.any (· ≤ Nat.pow 2 127)
  | _ => false

/-- The least magnitude beyond all double-precision numbers: half a step above the greatest. -/
def tooLarge : Nat := (Nat.pow 2 54 - 1) * Nat.pow 2 970

/-- Whether `digits · 10 ^ exponent` is within the range of double-precision numbers. -/
def isInRange (digits : Nat) (exponent : Int) : Bool :=
  let size : Int := (Nat.toDigits 10 digits).length + exponent
  digits = 0 || size < 300
    || (size < 320 && digits * Nat.pow 10 exponent.toNat
        < tooLarge * Nat.pow 10 (-exponent).toNat)

/-- Whether a scalar stands for a decimal fraction, perhaps with an exponent, or for a number that
is none. -/
def isDecimalFraction (text : List Char) : Bool :=
  let special (names : List String) : Bool := names.contains (String.ofList text)
  let magnitude? := match text with
    | '+' :: '+' :: _ | '+' :: '-' :: _ => none
    | '+' :: rest | '-' :: rest => some rest
    | rest => some rest
  let isNumber := match magnitude? with
    | none => false
    | some magnitude =>
      let whole := magnitude.takeWhile Char.isDigit
      let rest := magnitude.dropWhile Char.isDigit
      let (fraction, rest) := match rest with
        | '.' :: rest => (rest.takeWhile Char.isDigit, rest.dropWhile Char.isDigit)
        | rest => ([], rest)
      let exponent? : Option Int := match rest with
        | [] => some 0
        | 'e' :: rest | 'E' :: rest => Numeral.integer? rest
        | _ => none
      match digits? 10 (whole ++ fraction), exponent? with
      | some digits, some exponent => isInRange digits (exponent - fraction.length)
      | _, _ => false
  isNumber
    || special [".inf", ".Inf", ".INF", "+.inf", "+.Inf", "+.INF", "-.inf", "-.Inf", "-.INF",
      ".nan", ".NaN", ".NAN"]

/-- Whether a text would read back as nothing, a truth value or a number if it were left plain, or
looks like a number with leading zeros. -/
def isAmbiguous (text : String) : Bool :=
  text = "" || isNull text || (bool? text).isSome
    || (unsigned? (Nat.pow 2 128) text.toList).isSome || isNegative text.toList
    || hasLeadingZero text.toList || isDecimalFraction text.toList

end ControllerHost.Yaml.PlainValue
