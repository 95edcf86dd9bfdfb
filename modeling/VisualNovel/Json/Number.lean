/-!
# JSON numbers

A number literal keeps the digits it was written with. `Number.numeric?` says what it counts as:
an integer of 64 bits, a binary64 value, or nothing when it lies beyond binary64.
-/

namespace VisualNovel.Json

/-- The exponent of a number literal, with its digits as they are written. -/
structure Exponent where
  /-- Whether the exponent has a minus sign. -/
  negative : Bool := false
  /-- The decimal digits of the exponent. -/
  digits : List Char
deriving DecidableEq, Repr

/-- The value of an exponent. -/
def Exponent.value (e : Exponent) : Int :=
  let n : Int := Nat.ofDigitChars 10 e.digits 0
  if e.negative then -n else n

/-- A number literal: its sign, the digits before and after the point, and its exponent. -/
structure Number where
  /-- Whether a minus sign stands in front. -/
  negative : Bool := false
  /-- The decimal digits before the point. -/
  whole : List Char
  /-- The decimal digits after the point, none when there is no point. -/
  fraction : List Char := []
  /-- The exponent, if one is written. -/
  exponent : Option Exponent := none
deriving DecidableEq, Repr

/-- The literal of a natural number. -/
def Number.ofNat (n : Nat) : Number :=
  { whole := Nat.toDigits 10 n }

/-- The literal of an integer. -/
def Number.ofInt (n : Int) : Number :=
  { negative := decide (n < 0), whole := Nat.toDigits 10 n.natAbs }

/-- What a number literal counts as. -/
inductive Numeric where
  /-- A natural number of 64 bits. -/
  | natural (n : Nat)
  /-- A negative integer of 64 bits, one of which is the sign. -/
  | negative (n : Int)
  /-- A binary64 value. -/
  | float (x : Float)

/-- The first natural number that does not fit into 64 bits. -/
def naturalBound : Nat := 18446744073709551616

/-- How far negative integers reach. -/
def negativeBound : Nat := 9223372036854775808

/-! ## Reading the digits

Digits are taken into a 64-bit significand as long as they fit. A digit before the point that
no longer fits counts as a factor of ten, one after the point is dropped.
-/

/-- Appends digits to the significand while the result has 64 bits, and counts those left. -/
def takeFitting (significand : Nat) : List Char → Nat × Nat
  | [] => (significand, 0)
  | d :: ds =>
    let next := 10 * significand + (d.toNat - '0'.toNat)
    if next < naturalBound then takeFitting next ds else (significand, ds.length + 1)

/-- The power of ten nearest to 10 ^ k. -/
def powerOfTen (k : Nat) : Float :=
  Float.ofScientific 1 false k

/-- Divides by 10 ^ 308 until the exponent that is left is in reach of one power of ten. -/
def shrink (x : Float) (e : Nat) : Float :=
  if e ≤ 308 then x / powerOfTen e
  else if x == 0 then x
  else shrink (x / powerOfTen 308) (e - 308)
termination_by e
decreasing_by omega

/-- Scales by a power of ten; nothing when the result is beyond binary64. -/
def scale? (x : Float) (e : Int) : Option Float :=
  if e < 0 then some (shrink x e.natAbs)
  else if e ≤ 308 then
    let y := x * powerOfTen e.natAbs
    if y.isInf then none else some y
  else if x == 0 then some x
  else none

/-- The binary64 value of a literal, by one rounding of its significand and one of the scaling. -/
def Number.float? (n : Number) : Option Float :=
  let (high, dropped) := takeFitting 0 n.whole
  let (significand, left) := takeFitting high n.fraction
  let shift : Int := dropped - (n.fraction.length - left : Nat)
  (scale? (Float.ofNat significand) (shift + (n.exponent.map Exponent.value).getD 0)).map fun x =>
    if n.negative then -x else x

/-- Whether the literal is written without point and exponent. -/
def Number.isInteger (n : Number) : Bool :=
  n.fraction.isEmpty && n.exponent.isNone

/-- What the literal counts as: integers need to be written without point and exponent and to
fit into 64 bits, and a negative zero is a binary64 value. -/
def Number.numeric? (n : Number) : Option Numeric :=
  let value := Nat.ofDigitChars 10 n.whole 0
  if n.isInteger && !n.negative && value < naturalBound then
    some (.natural value)
  else if n.isInteger && n.negative && 0 < value && value ≤ negativeBound then
    some (.negative (-value))
  else
    n.float?.map .float

/-! ## The written form -/

/-- The literal as text. An exponent always has a sign. -/
def Number.chars (n : Number) : List Char :=
  (if n.negative then ['-'] else []) ++ n.whole
    ++ (if n.fraction.isEmpty then [] else '.' :: n.fraction)
    ++ match n.exponent with
      | none => []
      | some e => ['e', if e.negative then '-' else '+'] ++ e.digits

/-- The decimal digits at the front, at least one of them, and the rest. -/
def digits? (cs : List Char) : Option (List Char × List Char) :=
  let ds := cs.takeWhile Char.isDigit
  if ds.isEmpty then none else some (ds, cs.dropWhile Char.isDigit)

/-- An optional sign, then digits to the end. -/
def exponent? (cs : List Char) : Option Exponent :=
  let (negative, cs) := match cs with
    | '-' :: rest => (true, rest)
    | '+' :: rest => (false, rest)
    | rest => (false, rest)
  match digits? cs with
  | some (digits, []) => some { negative, digits }
  | _ => none

/-- The fraction and the exponent that end a literal. -/
def tail? (cs : List Char) : Option (List Char × Option Exponent) := do
  let (fraction, cs) ← match cs with
    | '.' :: rest => digits? rest
    | rest => some ([], rest)
  match cs with
  | [] => some (fraction, none)
  | 'e' :: rest | 'E' :: rest => do
    let e ← exponent? rest
    some (fraction, some e)
  | _ => none

/-- Reads a whole literal: an optional minus sign, digits without a leading zero unless it is
the only digit, an optional fraction and an optional exponent. -/
def Number.ofChars? (cs : List Char) : Option Number := do
  let (negative, cs) := match cs with
    | '-' :: rest => (true, rest)
    | rest => (false, rest)
  let (whole, cs) ← digits? cs
  if whole.head? == some '0' && whole != ['0'] then none
  else
    let (fraction, exponent) ← tail? cs
    some { negative, whole, fraction, exponent }

end VisualNovel.Json
