import VisualNovel.Schema.Codec

/-!
# Numbers of 32 bits as JSON

A binary32 number is read from any number literal: an integer is rounded once, and any other
literal is a binary64 value that is rounded again. It is written with its shortest digits, and as
null when it is not finite.
-/

namespace VisualNovel.Codec

open Float.Model (UnpackedFloat)

/-- The binary32 number nearest to an integer. -/
def float32OfInt (n : Int) : Float32 :=
  if n < 0 then -Float32.ofNat n.natAbs else Float32.ofNat n.natAbs

/-- Rounds a finite number to binary32. -/
def narrowed : UnpackedFloat → UnpackedFloat
  | .finite sign mantissa exponent _ => .round .binary32 sign mantissa exponent
  | other => other

/-- The binary32 number nearest to a binary64 one. -/
def float32OfFloat (x : Float) : Float32 :=
  .ofBits ⟨(narrowed (.unpack .binary64 x.toBits.toBitVec)).pack .binary32⟩

/-- A binary32 number. -/
def float32 : Codec Float32 where
  read _ json :=
    match json with
    | .number n =>
      match n.numeric? with
      | some (.natural n) => .ok (Float32.ofNat n)
      | some (.negative n) => .ok (float32OfInt n)
      | some (.float x) => .ok (float32OfFloat x)
      | none => .error .malformed
    | _ => .error (.mismatch json (.number "f32"))
  write x :=
    match (Decimal.ofFloat32? x).bind Json.Number.ofChars? with
    | some n => .number n
    | none => .null

end VisualNovel.Codec
