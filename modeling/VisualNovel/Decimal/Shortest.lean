import VisualNovel.Decimal.Binary

/-!
# The shortest decimal of a binary number

`Magnitude.shortest` is the decimal with the fewest digits among those that round to the given
binary magnitude, and of several of that length the one nearest to it; of two equally near ones
it is the one with an even last digit. Everything is computed in exact integers.
-/

namespace VisualNovel.Decimal

/-- The number `digits * 10 ^ exponent`. -/
structure Digits where
  /-- The significant digits as one number. -/
  digits : Nat
  /-- The power of ten that is their unit. -/
  exponent : Int
deriving DecidableEq, Repr

namespace Magnitude

/-! All numbers below are fractions over `scale`, in quarters of the magnitude's unit, so that the
ends of its rounding interval are whole. -/

/-- The numerator of a whole number of quarter units. -/
def quarters (x : Magnitude) (count : Nat) : Nat :=
  count * Nat.pow 2 (x.exponent - 2).toNat

/-- The denominator shared by all quarter units. -/
def scale (x : Magnitude) : Nat :=
  Nat.pow 2 (2 - x.exponent).toNat

/-- The magnitude itself. -/
def middle (x : Magnitude) : Nat :=
  x.quarters (4 * x.significand)

/-- The lower end of the interval that rounds to the magnitude. -/
def lower (x : Magnitude) : Nat :=
  x.quarters (4 * x.significand - if x.isBoundary then 1 else 2)

/-- The upper end of the interval that rounds to the magnitude. -/
def upper (x : Magnitude) : Nat :=
  x.quarters (4 * x.significand + 2)

/-- Whether the decimal rounds to the magnitude. The ends of the interval belong to it when the
significand is even. -/
def accepts (x : Magnitude) (d : Digits) : Bool :=
  let value := d.digits * Nat.pow 10 d.exponent.toNat * x.scale
  let unit := Nat.pow 10 (-d.exponent).toNat
  if x.significand % 2 = 0 then x.lower * unit ≤ value && value ≤ x.upper * unit
  else x.lower * unit < value && value < x.upper * unit

/-- How many digits the magnitude has before the point; zero or less when it is below one. -/
def integerDigits (x : Magnitude) : Int :=
  let shift : Int := (Nat.toDigits 10 x.middle).length - (Nat.toDigits 10 x.scale).length
  if x.scale * Nat.pow 10 shift.toNat ≤ x.middle * Nat.pow 10 (-shift).toNat then shift + 1
  else shift

/-- The greatest multiple of a power of ten that does not exceed the magnitude. -/
def roundDown (x : Magnitude) (exponent : Int) : Digits :=
  ⟨x.middle * Nat.pow 10 (-exponent).toNat / (x.scale * Nat.pow 10 exponent.toNat), exponent⟩

/-- Twice how far the decimal `d`, which does not exceed the magnitude, is below it, measured
against one unit of `d`. -/
def compareToHalf (x : Magnitude) (d : Digits) : Ordering :=
  let unit := x.scale * Nat.pow 10 d.exponent.toNat
  let left := x.middle * Nat.pow 10 (-d.exponent).toNat - d.digits * unit
  compare (2 * left) unit

/-- The accepted neighbour of the magnitude on the grid of a power of ten: the nearer one if both
are accepted. -/
def onGrid? (x : Magnitude) (exponent : Int) : Option Digits :=
  let below := x.roundDown exponent
  let above : Digits := ⟨below.digits + 1, exponent⟩
  match x.accepts below, x.accepts above with
  | false, false => none
  | true, false => some below
  | false, true => some above
  | true, true =>
    match x.compareToHalf below with
    | .lt => some below
    | .gt => some above
    | .eq => some (if below.digits % 2 = 0 then below else above)

/-- The first hit when the grid gets finer by one digit at a time, for at most `count` digits
more. -/
def search (x : Magnitude) (exponent : Int) : Nat → Digits
  | 0 => x.roundDown exponent
  | count + 1 =>
    match x.onGrid? exponent with
    | some d => d
    | none => x.search (exponent - 1) count

/-- The shortest decimal that rounds to the magnitude. Seventeen digits always suffice for the
formats at hand. -/
def shortest (x : Magnitude) : Digits :=
  x.search (x.integerDigits - 1) 17

end Magnitude
end VisualNovel.Decimal
