import VisualNovel.Proofs.Decimal.Gap
import VisualNovel.Proofs.Decimal.Literal
import VisualNovel.Proofs.Schema.Faithful
import VisualNovel.Schema.Float

/-!
# Binary32 numbers are read back

A positive binary32 number is written as its shortest decimal. That is read in two steps, first as
a binary64 number, which need not be the nearest one, and then as the binary32 number nearest to
that. The binary64 number is still in the interval of the number that was written
(`Decimal.Magnitude.covers_reading`): a decimal of many digits is far from the ends of the interval
because it was chosen near its middle, and one of few digits is not so close to an end that reading
could take it across. So the codec is faithful to all finite numbers above zero
(`Codec.faithful_float32`). An infinite one is written as null, which is no number
(`Codec.write_float32_of_isInf`).
-/

namespace VisualNovel

namespace Decimal

open Float.Model Float.Model.UnpackedFloat

/-! ## The closest decimal -/

/-- Whether an unpacked number is below a fraction. -/
def isBelow (num den : ℕ) : UnpackedFloat → Bool
  | .finite .positive m e _ => m * 2 ^ e.toNat * den < num * 2 ^ (-e).toNat
  | _ => false

theorem lt_of_isBelow {x : Float} {w : ℚ} {num den : ℕ} (hx : HasValue x w) (hden : 0 < den)
    (h : isBelow num den x.toModel.unpack = true) : w < num / den := by
  obtain ⟨m, e, hm, hunpack, -, -, rfl⟩ := hx
  rw [hunpack, isBelow, decide_eq_true_eq] at h
  have hpos : (0 : ℚ) < 2 ^ (-e).toNat := by positivity
  have hden' : (0 : ℚ) < den := by exact_mod_cast hden
  have h' : (m : ℚ) * 2 ^ e.toNat * den < num * 2 ^ (-e).toNat := by exact_mod_cast h
  rw [← zpow_mul_toNat two_ne_zero, ← mul_assoc, mul_right_comm] at h'
  rw [lt_div_iff₀ hden']
  exact lt_of_mul_lt_mul_right h' hpos.le

/-- The one decimal that is close to an end of an interval is below that end, and reading takes it
further down. -/
theorem lt_of_isClosest {m : ℕ} {k : ℤ} {y : Float} {w : ℚ} (hclosest : IsClosest m k)
    (hy : Json.scale? (Float.ofNat m) k = some y) (hw : HasValue y w) : w < m * 10 ^ k := by
  obtain ⟨rfl, i, hi⟩ := hclosest
  have hdiv : Json.scale? (Float.ofNat m) (-32) = some (Float.ofNat m / Json.powerOfTen 32) := by
    rw [Json.scale?, if_pos (by decide), Json.shrink, if_pos (by decide)]
    rfl
  rw [hdiv] at hy
  cases hy
  have hm : m = 14077062 ∨ m = 7038531 := by
    rcases i with _ | _ | i
    · omega
    · omega
    · rw [add_assoc, pow_add, ← mul_assoc] at hi
      omega
  have hvalue : (m : ℚ) * 10 ^ (-32 : ℤ) = m / (10 ^ 32 : ℕ) := by
    rw [zpow_neg, div_eq_mul_inv]
    norm_cast
  rw [hvalue]
  refine lt_of_isBelow hw (by decide) ?_
  rcases hm with rfl | rfl <;> decide +kernel

namespace Magnitude

variable {x : Magnitude} {d w : ℚ}

/-- What is on the same side of both ends as a number of the interval is in the interval too. -/
theorem covers_of_sides (hd : x.Covers d) (hlow : x.lowEnd < d → x.lowEnd < w)
    (hlow' : d = x.lowEnd → w = x.lowEnd) (hhigh : d < x.highEnd → w < x.highEnd)
    (hhigh' : d = x.highEnd → w = x.highEnd) : x.Covers w := by
  rw [Covers] at hd ⊢
  split at hd
  · next heven =>
    rw [if_pos heven]
    constructor
    · rcases hd.1.lt_or_eq with h | h
      · exact (hlow h).le
      · exact (hlow' h.symm).ge
    · rcases hd.2.lt_or_eq with h | h
      · exact (hhigh h).le
      · exact (hhigh' h).le
  · next hodd =>
    rw [if_neg hodd]
    exact ⟨hlow hd.1, hhigh hd.2⟩

/-- A reading of a decimal that keeps away from an end stays on the same side of the end. -/
theorem sides_of_keepsAway {k : ℤ} {closest : Prop} {c : ℚ} (h : KeepsAway k closest d c)
    (hw : |w - d| ≤ allowance k / 2 ^ 60 * d) (hclosest : closest → w < d)
    (hexact : k.natAbs ≤ 22 → d = c → w = d) :
    (c < d → c < w) ∧ (d = c → w = c) ∧ (d < c → w < c) := by
  obtain ⟨h1, h2⟩ := abs_sub_le_iff.1 hw
  refine ⟨fun hlt => ?_, fun heq => (hexact (h.eq heq) heq).trans heq, fun hlt => ?_⟩
  · have := h.lt hlt
    linarith
  · by_cases hc : closest
    · exact (hclosest hc).trans hlt
    · have := h.gt hlt hc
      linarith

/-- The digits of a literal and their exponent stand for the decimal, and are small enough to be
read with at most two roundings. -/
theorem significand_bounds {n : Json.Number} {text : List Char} {m : ℕ} {k : ℤ}
    (hn : IsSpelled n text m k) (hm : 0 < m) (hbits : m < 2 ^ 53) :
    0 < n.significand ∧ n.significand < 2 ^ 53 ∧
      (m : ℚ) * 10 ^ k = n.significand * 10 ^ n.shift ∧
      (n.shift = k ∧ n.significand = m ∨ n.shift = -1 ∧ 0 ≤ k ∧ k ≤ 12) := by
  rcases hn.digits with ⟨hsig, hshift⟩ | ⟨hsig, hshift, hk, hk', hlt⟩
  · rw [hsig, hshift]
    exact ⟨hm, hbits, rfl, .inl ⟨rfl, rfl⟩⟩
  · have hpos : 0 < n.significand := by
      rw [hsig]
      positivity
    refine ⟨hpos, by omega, ?_, .inr ⟨hshift, hk, hk'⟩⟩
    have hpower : (10 : ℚ) ^ (k + 1).toNat = 10 ^ k * 10 := by
      rw [← zpow_natCast, Int.toNat_of_nonneg (by omega), zpow_add_one₀ (by norm_num)]
    rw [hsig, hshift, Nat.cast_mul, Nat.cast_pow, Nat.cast_ofNat, hpower, zpow_neg_one]
    field_simp

/-- A decimal in an interval is not much greater than the greatest binary32 number. -/
theorem exponent_le_of_le {m : ℕ} {k : ℤ} (hx : x.IsSingle) (hm : 0 < m)
    (h : m * 10 ^ k ≤ x.highEnd) : k ≤ 38 := by
  have hone : (1 : ℚ) ≤ m := by exact_mod_cast hm
  have hexponent : (2 : ℚ) ^ x.exponent ≤ 2 ^ (104 : ℤ) :=
    zpow_le_zpow_right₀ one_le_two hx.greatest
  have hpower : (10 : ℚ) ^ k < 10 ^ (39 : ℤ) := by
    calc (10 : ℚ) ^ k ≤ m * 10 ^ k := le_mul_of_one_le_left (by positivity) hone
      _ ≤ x.highEnd := h
      _ ≤ (2 ^ 24 - 1 / 2) * 2 ^ x.exponent := hx.highEnd_le_units
      _ ≤ (2 ^ 24 - 1 / 2) * 2 ^ (104 : ℤ) := by gcongr
      _ < 10 ^ (39 : ℤ) := by norm_num
  exact Int.lt_add_one_iff.1 ((zpow_lt_zpow_iff_right₀ (by norm_num)).1 hpower)

/-- The shortest decimal of a binary32 magnitude is read as a binary64 number that the magnitude
covers. -/
theorem covers_reading (hx : x.IsSingle) {n : Json.Number} {text : List Char} {m z : ℕ}
    (hdigits : x.shortest.digits = m * 10 ^ z)
    (hn : IsSpelled n text m (x.shortest.exponent + z)) :
    n.significand < Json.naturalBound ∧
      ∃ y w, Json.scale? (Float.ofNat n.significand) n.shift = some y ∧ HasValue y w ∧
        x.Covers w := by
  obtain ⟨hcovers, hfrom, hpos, hbits⟩ := x.shortest_bounds hx
  have hm : 0 < m := Nat.pos_of_ne_zero fun h => by simp [h] at hdigits; omega
  have hmD : m ≤ x.shortest.digits := by
    rw [hdigits]
    exact Nat.le_mul_of_pos_right m (by positivity)
  have hvalue : x.shortest.value = m * 10 ^ (x.shortest.exponent + z) := by
    rw [Digits.value, hdigits, zpow_add₀ (by norm_num), zpow_natCast]
    push_cast
    ring
  have hk : -55 ≤ x.shortest.exponent + z := by omega
  generalize x.shortest.exponent + z = k at hn hvalue hk
  have hk' : k ≤ 38 := exponent_le_of_le hx hm (hvalue ▸ hcovers.le.2)
  obtain ⟨hsig, hsig', hscaled, hform⟩ := significand_bounds hn hm (by omega)
  have hsmall : n.shift.natAbs ≤ 22 ↔ k.natAbs ≤ 22 := by omega
  obtain ⟨y, w, hy, hw, hnear, hexact⟩ :=
    exists_scale? hsig hsig' (by omega) (hvalue.trans hscaled)
  refine ⟨hsig'.trans (by decide), y, w, hy, hw, ?_⟩
  have hdpos : 0 < x.shortest.value := hx.lowEnd_pos.trans_le hcovers.le.1
  rcases le_or_gt (2 ^ 24 + 2) m with hlong | hshort
  · obtain ⟨hlow, hhigh⟩ := x.margins_shortest hx (hlong.trans hmD)
    have herror : (allowance n.shift : ℚ) / 2 ^ 60 * x.shortest.value
        ≤ 258 / 2 ^ 60 * x.shortest.value := by
      gcongr
      exact_mod_cast allowance_le n.shift
    obtain ⟨h1, h2⟩ := abs_sub_le_iff.1 hnear
    exact covers_of_lt (by linarith) (by linarith)
  · have hallowance : allowance n.shift = allowance k := by
      simp only [allowance, hsmall]
    rw [hallowance] at hnear
    have hclosest : IsClosest m k → w < x.shortest.value := by
      intro h
      obtain ⟨hshift, hsignificand⟩ : n.shift = k ∧ n.significand = m :=
        hform.resolve_right (by have := h.1; omega)
      rw [hshift, hsignificand] at hy
      rw [hvalue]
      exact lt_of_isClosest h hy hw
    have hsides : ∀ {c : ℚ}, (∃ (a : ℕ) (e : ℤ), 0 < a ∧ a < 2 ^ 25 ∧ c = a * 2 ^ e) →
        (c < x.shortest.value → c < w) ∧ (x.shortest.value = c → w = c) ∧
          (x.shortest.value < c → w < c) := by
      rintro c ⟨a, e, ha, ha', rfl⟩
      have hkeeps := keepsAway e hk hk' hm (by omega) ha ha'
      rw [← hvalue] at hkeeps
      exact sides_of_keepsAway hkeeps hnear hclosest fun hsmall' heq =>
        hexact (hsmall.2 hsmall') a e (by omega) heq
    obtain ⟨hlow, hlow', -⟩ := hsides hx.exists_lowEnd_eq
    obtain ⟨-, hhigh', hhigh⟩ := hsides hx.exists_highEnd_eq
    exact covers_of_sides hcovers hlow hlow' hhigh hhigh'

end Magnitude

end Decimal

/-! ## The codec -/

namespace Codec

open Decimal Float.Model

variable {x : Float32}

/-- A binary64 number is narrowed to the binary32 number whose magnitude covers it. -/
theorem float32OfFloat_eq {m : Magnitude} (hm : m.IsSingle)
    (hunpack : x.toModel.unpack = .finite .positive m.significand m.exponent hm.pos) {y : Float}
    {w : ℚ} (hy : HasValue y w) (hw : m.Covers w) : float32OfFloat y = x := by
  obtain ⟨n, e, hn, hy, -, -, rfl⟩ := hy
  have hround : UnpackedFloat.round .binary32 .positive n e = x.toModel.unpack :=
    (Magnitude.eq_of_isRounded hm hw (isRounded_round .binary32 .positive hn e)).trans
      hunpack.symm
  have hbits : UnpackedFloat.unpack .binary64 y.toBits.toBitVec = .finite .positive n e hn := hy
  have hpack : UnpackedFloat.pack .binary32 x.toModel.unpack = x.toBits.toBitVec :=
    UnpackedFloat.pack_unpack_of_valid x.toModel.valid
  rw [float32OfFloat, hbits, narrowed, hround, hpack, UInt32.ofBitVec_toBitVec,
    Float32.ofBits_toBits]

/-- A finite number above zero is read back from its shortest decimal. -/
theorem faithful_float32 (hpos : 0 < x) (hfinite : x.isInf = false) (n : ℕ) :
    float32.Faithful n x := by
  rcases infinite_or_exists_isSingle hpos with ⟨hinf, -⟩ | ⟨-, m, hm, hdecode, hunpack⟩
  · rw [hfinite] at hinf
    cases hinf
  have hdigits : m.shortest.digits ≠ 0 := (m.shortest_bounds hm).2.2.1.ne'
  obtain ⟨literal, k, z, hk, hspelled⟩ := exists_literal hdigits
  obtain ⟨hfits, y, w, hscale, hy, hw⟩ := m.covers_reading hm hk hspelled
  have hchars : ofFloat32? x = some literal.chars := by
    rw [ofFloat32?, hdecode, Layout.binary?, Layout.finite, if_neg hm.pos.ne', hspelled.chars]
    rfl
  have hwrite : float32.write x = .number literal := by
    simp only [float32, hchars, Option.bind_some, Json.Number.ofChars?_chars hspelled.isLiteral]
  have hnumeric : literal.numeric? = some (.float y) := by
    rw [Json.Number.numeric?_of_significand_lt hspelled.negative hspelled.isInteger hfits, hscale]
    rfl
  refine ⟨fun _ => ?_, ?_⟩
  · rw [hwrite]
    simp only [float32, hnumeric, float32OfFloat_eq hm hunpack hy hw]
  · rw [hwrite]
    exact .number n hspelled.isLiteral (by rw [hnumeric]; rfl)

/-- An infinite number has no decimal. -/
theorem write_float32_of_isInf (hpos : 0 < x) (hinf : x.isInf = true) :
    float32.write x = .null := by
  rcases infinite_or_exists_isSingle hpos with ⟨-, hdecode⟩ | ⟨hfinite, -⟩
  · have hchars : ofFloat32? x = none := by
      rw [ofFloat32?, hdecode]
      rfl
    simp only [float32, hchars, Option.bind_none]
  · rw [hinf] at hfinite
    cases hfinite

end Codec
end VisualNovel
