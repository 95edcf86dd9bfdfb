import VisualNovel.Decimal.Shortest

/-!
# The text of a floating-point number

A finite number is written with its shortest digits. A `Layout` says which decimal exponents are
written positionally; each binary format has its own. Any other number has an exponent with a sign
and as many digits as it needs.
-/

namespace VisualNovel.Decimal

/-- How digits and an exponent become text. -/
structure Layout where
  /-- The least decimal exponent that is written positionally. -/
  leastPlain : Int
  /-- The greatest decimal exponent that is written positionally. -/
  greatestPlain : Int

/-- Binary64 numbers are positional from 10 ^ -5 to below 10 ^ 16. -/
def Layout.binary64 : Layout := ⟨-5, 15⟩

/-- Binary32 numbers are positional from 10 ^ -6 to below 10 ^ 13. -/
def Layout.binary32 : Layout := ⟨-6, 12⟩

/-- The digits without the zeros at their end. -/
def withoutTrailingZeros (digits : List Char) : List Char :=
  (digits.reverse.dropWhile (· == '0')).reverse

/-- A non-zero decimal as text. The exponent of the first digit decides between the two forms;
the positional form has at least one digit after the point. -/
def Layout.chars (layout : Layout) (d : Digits) : List Char :=
  let all := Nat.toDigits 10 d.digits
  let lead : Int := d.exponent + all.length - 1
  let digits := withoutTrailingZeros all
  if layout.leastPlain ≤ lead && lead ≤ layout.greatestPlain then
    if lead < 0 then '0' :: '.' :: List.replicate (-lead - 1).toNat '0' ++ digits
    else
      let whole := lead.toNat + 1
      let fraction := digits.drop whole
      digits.take whole ++ List.replicate (whole - digits.length) '0'
        ++ '.' :: if fraction.isEmpty then ['0'] else fraction
  else
    digits.take 1 ++ (if digits.length = 1 then [] else '.' :: digits.drop 1)
      ++ ['e', if lead < 0 then '-' else '+'] ++ Nat.toDigits 10 lead.natAbs

/-- A finite binary number as text. -/
def Layout.finite (layout : Layout) (negative : Bool) (x : Magnitude) : List Char :=
  (if negative then ['-'] else [])
    ++ if x.significand = 0 then ['0', '.', '0'] else layout.chars x.shortest

/-- A binary number as text; none when it is infinite or not a number. -/
def Layout.binary? (layout : Layout) : Binary → Option (List Char)
  | .finite negative x => some (layout.finite negative x)
  | .infinite _ => none
  | .notANumber => none

/-- The text of a binary64 value. -/
def ofFloat? (x : Float) : Option (List Char) :=
  Layout.binary64.binary? (BinaryFormat.binary64.decode x.toBits.toNat)

/-- The text of a binary32 value. -/
def ofFloat32? (x : Float32) : Option (List Char) :=
  Layout.binary32.binary? (BinaryFormat.binary32.decode x.toBits.toNat)

end VisualNovel.Decimal
