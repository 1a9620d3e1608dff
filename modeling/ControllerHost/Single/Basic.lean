/-!
# Single precision numbers

Swap arrays hold binary32 numbers. Nothing here computes with them beyond converting a count and
flipping a sign, and the bits of a NaN must survive every trip, so a number is its 32 bits.

- `Single.ofInt`: the number nearest to an integer, a tie going to the even significand.
- `Single.negate`: the number with the other sign.
- `Single.eqv`: equality of numbers, for which NaN differs from itself and the zeros agree.
-/

namespace ControllerHost

/-- A binary32 number, given by its bits. -/
structure Single where
  /-- Sign, eight exponent bits and twenty-three fraction bits, from the most significant on. -/
  bits : UInt32
deriving DecidableEq, Repr, Inhabited

namespace Single

/-- Positive zero. -/
def zero : Single := ⟨0⟩

/-- The number with the other sign, NaN included. -/
def negate (x : Single) : Single := ⟨x.bits ^^^ 0x80000000⟩

/-- Whether the sign bit is set. -/
def isNegative (x : Single) : Bool := x.bits.toNat ≥ 0x80000000

/-- The bits without the sign. -/
def unsigned (x : Single) : Nat := x.bits.toNat % 0x80000000

/-- Whether the number is a NaN. -/
def isNaN (x : Single) : Bool := x.unsigned > 0x7F800000

/-- Whether two numbers are equal as numbers. -/
def eqv (x y : Single) : Bool :=
  !x.isNaN && !y.isNaN && (x.bits == y.bits || (x.unsigned == 0 && y.unsigned == 0))

/-- The nearest integer to `number / 2 ^ shift`, the even one of two. -/
def roundShift (number shift : Nat) : Nat :=
  let quotient := number / Nat.pow 2 shift
  let remainder := number % Nat.pow 2 shift
  if 2 * remainder > Nat.pow 2 shift ∨ (2 * remainder = Nat.pow 2 shift ∧ quotient % 2 = 1) then
    quotient + 1
  else quotient

/-- The number nearest to a natural number below `2 ^ 127`, a tie going to the even significand. A
significand that rounds up to `2 ^ 24` carries into the exponent. -/
def ofNat (number : Nat) : Single :=
  if number = 0 then zero
  else
    let exponent := number.log2
    let significand :=
      if exponent ≤ 23 then number * Nat.pow 2 (23 - exponent)
      else roundShift number (exponent - 23)
    ⟨UInt32.ofNat ((exponent + 126) * 0x800000 + significand)⟩

/-- The number nearest to an integer of less than 127 bits. -/
def ofInt : Int → Single
  | .ofNat number => ofNat number
  | .negSucc number => (ofNat (number + 1)).negate

end Single

end ControllerHost
