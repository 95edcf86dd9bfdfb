/-!
# Binary floating-point words

A `BinaryFormat` says how a word splits into sign, exponent and fraction. `BinaryFormat.decode`
gives the exact value of a finite word as a whole number of units of a power of two, together
with the interval of numbers that round to it.
-/

namespace VisualNovel.Decimal

/-- The layout of a binary floating-point word. -/
structure BinaryFormat where
  /-- The number of bits of the fraction. -/
  fractionBits : Nat
  /-- The number of bits of the exponent. -/
  exponentBits : Nat

/-- The 32-bit format. -/
def BinaryFormat.binary32 : BinaryFormat := ⟨23, 8⟩

/-- The 64-bit format. -/
def BinaryFormat.binary64 : BinaryFormat := ⟨52, 11⟩

/-- A finite magnitude: `significand * 2 ^ exponent`. -/
structure Magnitude where
  /-- The number of units. -/
  significand : Nat
  /-- The power of two that is the unit. -/
  exponent : Int
  /-- Whether the next smaller magnitude is only half a unit away. -/
  isBoundary : Bool

/-- What a word stands for. -/
inductive Binary where
  | finite (negative : Bool) (magnitude : Magnitude)
  | infinite (negative : Bool)
  | notANumber

namespace BinaryFormat

/-- The first number that does not fit into the fraction. -/
def fractionBound (format : BinaryFormat) : Nat :=
  Nat.pow 2 format.fractionBits

/-- The first number that does not fit into the exponent. -/
def exponentBound (format : BinaryFormat) : Nat :=
  Nat.pow 2 format.exponentBits

/-- The power of two that is the unit of the smallest magnitudes. -/
def leastExponent (format : BinaryFormat) : Int :=
  2 - (format.exponentBound / 2 : Nat) - format.fractionBits

/-- What the word stands for in the format. -/
def decode (format : BinaryFormat) (word : Nat) : Binary :=
  let fraction := word % format.fractionBound
  let exponent := word / format.fractionBound % format.exponentBound
  let negative := word / format.fractionBound / format.exponentBound % 2 == 1
  if exponent = format.exponentBound - 1 then
    if fraction = 0 then .infinite negative else .notANumber
  else if exponent = 0 then
    .finite negative ⟨fraction, format.leastExponent, false⟩
  else
    .finite negative
      ⟨format.fractionBound + fraction, format.leastExponent + (exponent - 1),
        fraction = 0 && exponent ≠ 1⟩

end BinaryFormat
end VisualNovel.Decimal
