import ControllerHost.Single.Basic

/-!
# Shortest decimals

A number is shown with the fewest digits that read back as the same number. The numbers that read
back are those between the midpoints to both neighbours, the midpoints included exactly when the
significand is even.

- `Single.Magnitude`: an exact magnitude and the ends of its interval, as multiples of one unit.
- `Single.shortest`: the decimal of fewest digits in the interval; of two, the nearer one, and of
  two equally near ones the greater.
- `Single.text`: its layout, positional when the first digit stands for `10⁻⁴` to `10¹⁵`.
-/

namespace ControllerHost.Single

/-- A positive finite magnitude with the interval of reals that round to it, everything in units
of the positive fraction `unit / scale`. -/
structure Magnitude where
  /-- The lower end. -/
  low : Nat
  /-- The magnitude itself. -/
  value : Nat
  /-- The upper end. -/
  high : Nat
  /-- Whether the ends round to the magnitude too. -/
  closed : Bool
  /-- Numerator of the unit. -/
  unit : Nat
  /-- Denominator of the unit. -/
  scale : Nat

/-- The magnitude of a finite number other than zero. Below a power of two the neighbour is half
as far away as above it, unless both are subnormal or share the least exponent. -/
def magnitude (x : Single) : Magnitude :=
  let field := x.unsigned / 0x800000
  let fraction := x.unsigned % 0x800000
  let significand := if field = 0 then fraction else 0x800000 + fraction
  -- all in quarters of the last place, so that the ends of the interval are whole
  let exponent : Int := ((if field = 0 then 1 else field : Nat) : Int) - 152
  { low := if fraction = 0 ∧ field > 1 then 4 * significand - 1 else 4 * significand - 2
    value := 4 * significand
    high := 4 * significand + 2
    closed := significand % 2 = 0
    unit := Nat.pow 2 exponent.toNat
    scale := Nat.pow 2 (-exponent).toNat }

/-- A decimal `digits · 10 ^ exponent`. -/
structure Decimal where
  /-- The digits, read as one number. -/
  digits : Nat
  /-- The power of ten of the last digit. -/
  exponent : Int
deriving DecidableEq, Repr

/-- The decimal chosen among the multiples of `10 ^ exponent`: of the two neighbours of the
magnitude that lie in its interval the nearer one, and the upper one of two equally near. -/
def onGrid? (m : Magnitude) (exponent : Int) : Option Decimal :=
  -- With both sides over one denominator, `step` is the grid's width and `unit` the magnitude's.
  let step := Nat.pow 10 exponent.toNat * m.scale
  let unit := m.unit * Nat.pow 10 (-exponent).toNat
  let inside (multiple : Nat) : Bool :=
    if m.closed then m.low * unit ≤ multiple * step ∧ multiple * step ≤ m.high * unit
    else m.low * unit < multiple * step ∧ multiple * step < m.high * unit
  let below := m.value * unit / step
  let above := below + 1
  match inside below && below != 0, inside above with
  | false, false => none
  | true, false => some ⟨below, exponent⟩
  | false, true => some ⟨above, exponent⟩
  | true, true =>
    if m.value * unit - below * step < above * step - m.value * unit then some ⟨below, exponent⟩
    else some ⟨above, exponent⟩

/-- The powers of ten of the grids that are tried, the coarsest first. -/
def gridExponents : List Int := (List.range 90).map fun (index : Nat) => 40 - (index : Int)

/-- The decimal of fewest digits that reads back as the magnitude. -/
def shortest (m : Magnitude) : Decimal := (gridExponents.findSome? (onGrid? m)).getD ⟨0, 0⟩

/-- The layout of a decimal: positional with at least one digit on each side of the point when its
first digit stands for `10⁻⁴` to `10¹⁵`, and otherwise one digit before the point. -/
def Decimal.text (decimal : Decimal) : String :=
  let digits := Nat.toDigits 10 decimal.digits
  let leading : Int := decimal.exponent + digits.length - 1
  if leading < -4 ∨ 16 ≤ leading then
    let fraction := digits.drop 1
    String.ofList (digits.take 1 ++ (if fraction.isEmpty then [] else '.' :: fraction))
      ++ "e" ++ toString leading
  else if 0 ≤ decimal.exponent then
    String.ofList (digits ++ List.replicate decimal.exponent.toNat '0') ++ ".0"
  else
    -- a number below one has no digits of its own in front of the point
    let places := (-decimal.exponent).toNat
    let padded := List.replicate (places + 1 - digits.length) '0' ++ digits
    let whole := padded.length - places
    String.ofList (padded.take whole ++ '.' :: padded.drop whole)

/-- The text of a number. -/
def text (x : Single) : String :=
  if x.isNaN then "NaN"
  else
    let sign := if x.isNegative then "-" else ""
    if x.unsigned = 0x7F800000 then sign ++ "inf"
    else if x.unsigned = 0 then sign ++ "0.0"
    else sign ++ (shortest x.magnitude).text

end ControllerHost.Single
