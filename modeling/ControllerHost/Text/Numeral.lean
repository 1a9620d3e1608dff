/-!
# Numerals

Numbers are spelled with digits of a base, at least one of them, and perhaps a sign in front. Only
ASCII digits count, and leading zeros do no harm.

- `Numeral.digit?`, `Numeral.digits?`: the value of a digit and of several.
- `Numeral.natural?`, `Numeral.integer?`: decimal numbers with a sign that can be left out.
-/

namespace ControllerHost.Numeral

/-- The value of a digit in a base up to 16. -/
def digit? (base : Nat) (c : Char) : Option Nat :=
  let value? : Option Nat :=
    if c.isDigit then some (c.toNat - '0'.toNat)
    else if 'a' ≤ c ∧ c ≤ 'f' then some (c.toNat - 'a'.toNat + 10)
    else if 'A' ≤ c ∧ c ≤ 'F' then some (c.toNat - 'A'.toNat + 10)
    else none
  value?.filter (· < base)

/-- The number that some digits spell, at least one of them. -/
def digits? (base : Nat) : List Char → Option Nat
  | [] => none
  | text => text.foldlM (fun number c => (digit? base c).map (base * number + ·)) 0

/-- The number that decimal digits spell, after an optional plus sign. -/
def natural? : List Char → Option Nat
  | '+' :: digits => digits? 10 digits
  | digits => digits? 10 digits

/-- The number that decimal digits spell, after an optional sign. -/
def integer? : List Char → Option Int
  | '-' :: digits => (digits? 10 digits).map fun number => -(number : Int)
  | text => (natural? text).map Int.ofNat

end ControllerHost.Numeral
