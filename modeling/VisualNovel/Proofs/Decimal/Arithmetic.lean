import VisualNovel.Json.Number
import VisualNovel.Proofs.Decimal.Rounding

/-!
# Binary64 arithmetic on exact values

A positive normal number has an exact value (`HasValue`). A product or a quotient of two such
numbers has a value near the exact one, and no other than that if it has few enough bits
(`IsClose`), as long as the exact one is in the middle of the range of exponents
(`exists_hasValue_mul`, `exists_hasValue_div`). What is read of a literal is a whole number, which
is its own value, times or over a power of ten from a table, of which the first twenty-two are
exact. So scaling comes as near to the exact number as `allowance` says (`exists_scale?`).
-/

namespace VisualNovel.Decimal

open Float.Model Float.Model.UnpackedFloat

/-! ## Values -/

/-- The number is positive, is no smaller than the least normal one, and has the value `v`. -/
def HasValue (x : Float) (v : ℚ) : Prop :=
  ∃ (m : ℕ) (e : ℤ) (hm : 0 < m), x.toModel.unpack = .finite .positive m e hm ∧
    2 ^ 52 ≤ m ∧ m < 2 ^ 53 ∧ v = m * 2 ^ e

/-- The significand of a normal number has fifty-three bits. -/
theorem log2_of_normal {m : ℕ} (hlow : 2 ^ 52 ≤ m) (hhigh : m < 2 ^ 53) : m.log2 = 52 :=
  (Nat.log2_eq_iff (by omega)).2 ⟨hlow, hhigh⟩

/-- The bit in front of the fraction counts. -/
theorem toNat_one_append {n : ℕ} (fraction : BitVec n) :
    (1#1 ++ fraction).toNat = 2 ^ n + fraction.toNat := by
  rw [BitVec.toNat_append, ← Nat.shiftLeft_add_eq_or_of_lt fraction.isLt]
  simp [Nat.shiftLeft_eq]

/-- The sign is the first bit of a word. -/
theorem unpackSign_packComponents (format : Format) (sign : Sign)
    (exponent : BitVec format.exponentBits) (mantissa : BitVec format.mantissaBitsWithoutImplicit) :
    unpackSign (packComponents format sign exponent mantissa) = sign.toBitVec := by
  refine BitVec.eq_of_getLsbD_eq fun i hi => ?_
  obtain rfl : i = 0 := by omega
  simp [unpackSign, packComponents, BitVec.getLsbD_append, BitVec.getElem_append]

/-- A normal magnitude is unpacked from what it is packed into. -/
theorem unpack_pack {m : ℕ} {e : ℤ} (hm : 0 < m) (hlow : 2 ^ 52 ≤ m) (hhigh : m < 2 ^ 53)
    (he : -1074 ≤ e) (he' : e ≤ 971) :
    (Float.Model.pack (.finite .positive m e hm)).unpack = .finite .positive m e hm := by
  have hlog : m.log2 + 1 = 53 := congrArg (· + 1) (log2_of_normal hlow hhigh)
  obtain ⟨b, hb⟩ : ∃ b : ℕ, (e + 1075).toNat = b := ⟨_, rfl⟩
  have hbits : (e + (Format.binary64.exponentBias : ℤ) + (52 : ℕ)).toNat = b := by
    rw [← hb]
    congr 1
    show e + (1023 : ℕ) + (52 : ℕ) = _
    omega
  have hnat : (BitVec.ofNat 11 b).toNat = b := by
    rw [BitVec.toNat_ofNat]
    omega
  have hzero : BitVec.ofNat 11 b ≠ 0#11 := fun h => by
    have := congrArg BitVec.toNat h
    rw [hnat, BitVec.toNat_ofNat] at this
    omega
  have hones : BitVec.ofNat 11 b ≠ -1#11 := fun h => by
    have := congrArg BitVec.toNat h
    rw [hnat] at this
    have hall : (-1#11).toNat = 2047 := rfl
    omega
  have hmantissa : (1#1 ++ BitVec.ofNat 52 m).toNat = m := by
    rw [toNat_one_append, BitVec.toNat_ofNat]
    omega
  have hpack : UnpackedFloat.pack .binary64 (.finite .positive m e hm)
      = packComponents .binary64 .positive (BitVec.ofNat 11 b) (BitVec.ofNat 52 m) := by
    show (if 2 ^ 11 ≤ (e + (Format.binary64.exponentBias : ℤ) + (52 : ℕ)).toNat + 1 then _
      else if m.log2 + 1 = 53 then _ else _) = _
    rw [hbits, if_neg (by omega), if_pos hlog]
  show UnpackedFloat.unpack .binary64 (UnpackedFloat.pack .binary64 _) = _
  rw [hpack, UnpackedFloat.unpack]
  simp only [unpackMantissa_packComponents, unpackExponent_packComponents]
  rw [if_neg hones, if_neg hzero]
  simp only [hmantissa, hnat]
  have hexponent : (b : ℤ) - ((Format.binary64.exponentBias : ℤ) + (52 : ℕ)) = e := by
    show (b : ℤ) - ((1023 : ℕ) + (52 : ℕ)) = e
    omega
  simp only [hexponent, unpackSign_packComponents]
  rfl

/-- `w` is what a number `v` is rounded to: it is near, and no different from `v` if that has
few enough bits. -/
structure IsClose (w v : ℚ) : Prop where
  near : |w - v| ≤ v / 2 ^ 53
  exact : ∀ (c : ℕ) (f : ℤ), c < 2 ^ 53 → v = c * 2 ^ f → w = v

/-- A result of rounding has the value of its mantissa and exponent, also when it has one bit too
many. -/
theorem hasValue_carried {m : ℕ} {e : ℤ} (hm : 2 ^ 52 ≤ m) (hm' : m ≤ 2 ^ 53) (he : -1074 ≤ e)
    (he' : e < 971) :
    HasValue ⟨Float.Model.pack (carried .binary64 .positive m e)⟩ (m * 2 ^ e) := by
  rcases Nat.lt_or_eq_of_le hm' with hlt | rfl
  · refine ⟨m, e, by omega, ?_, hm, hlt, rfl⟩
    rw [carried_of_lt .positive e (by omega) hlt]
    exact unpack_pack _ hm hlt he he'.le
  · refine ⟨2 ^ 52, e + 1, by decide, ?_, le_rfl, by decide, ?_⟩
    · refine (congrArg (fun r => (Float.Model.pack r).unpack)
        (carried_two_pow .binary64 .positive e)).trans ?_
      exact unpack_pack _ le_rfl (by decide) (by omega) he'
    · rw [zpow_add₀ two_ne_zero]
      push_cast
      ring

/-- A number of few bits is whole in the units in which a number of its size is rounded. -/
theorem exists_natCast_of_bits {v : ℚ} {c : ℕ} {e f : ℤ} (hc : c < 2 ^ 53) (hv : v = c * 2 ^ f)
    (hnormal : (2 : ℚ) ^ (e + 52) ≤ v) : ∃ n : ℕ, v / 2 ^ e = n := by
  have hwhole : e ≤ f := by
    have hbits : (c : ℚ) < 2 ^ (53 : ℤ) := by exact_mod_cast hc
    have hpower : (2 : ℚ) ^ (e + 52) < 2 ^ (53 + f) := by
      calc (2 : ℚ) ^ (e + 52) ≤ c * 2 ^ f := hnormal.trans_eq hv
        _ < 2 ^ (53 : ℤ) * 2 ^ f := by gcongr
        _ = 2 ^ (53 + f) := (zpow_add₀ two_ne_zero ..).symm
    have := (zpow_lt_zpow_iff_right₀ (one_lt_two (α := ℚ))).1 hpower
    omega
  obtain ⟨k, rfl⟩ : ∃ k : ℕ, f = e + k := ⟨(f - e).toNat, by omega⟩
  refine ⟨c * 2 ^ k, ?_⟩
  rw [hv, zpow_add₀ two_ne_zero, zpow_natCast]
  push_cast
  field_simp

/-- A number in the middle of the range of exponents is rounded to one with its own value. -/
theorem exists_hasValue_of_isRounded {v : ℚ} {r : UnpackedFloat}
    (h : IsRounded .binary64 .positive v r) (hlow : 2 ^ (-250 : ℤ) ≤ v)
    (hhigh : v < 2 ^ (250 : ℤ)) : ∃ w, HasValue ⟨Float.Model.pack r⟩ w ∧ IsClose w v := by
  obtain ⟨e, m, hmin, hbelow, habove, hnear, rfl⟩ := h
  change v < 2 ^ (e + 53) at hbelow
  change e = -1074 ∨ 2 ^ (e + 53 - 1) ≤ v at habove
  rw [add_sub_assoc, show (53 : ℤ) - 1 = 52 from rfl] at habove
  have hfrom : -250 < e + 53 := (zpow_lt_zpow_iff_right₀ one_lt_two).1 (hlow.trans_lt hbelow)
  have hnormal : (2 : ℚ) ^ (e + 52) ≤ v := habove.resolve_left (by omega)
  have hto : e + 52 < 250 := (zpow_lt_zpow_iff_right₀ one_lt_two).1 (hnormal.trans_lt hhigh)
  have hunit : (0 : ℚ) < 2 ^ e := by positivity
  have hleast : 2 ^ 52 ≤ v / 2 ^ e := by
    rw [le_div_iff₀' hunit]
    exact_mod_cast (zpow_add₀ (two_ne_zero (α := ℚ)) e 52).symm.trans_le hnormal
  have hmost : v / 2 ^ e < 2 ^ 53 := by
    rw [div_lt_iff₀' hunit]
    exact_mod_cast hbelow.trans_eq (zpow_add₀ (two_ne_zero (α := ℚ)) e 53)
  have hm : 2 ^ 52 ≤ m := by
    have : ((2 ^ 52 : ℕ) : ℚ) < m + 1 := by
      have := (abs_le.1 hnear.near).2
      push_cast
      linarith
    exact Nat.lt_succ_iff.1 (by exact_mod_cast this)
  have hscaled : v = v / 2 ^ e * 2 ^ e := by field_simp
  refine ⟨m * 2 ^ e, hasValue_carried hm (hnear.le_of_lt hmost) (by omega) (by omega),
    ?_, fun c f hc hv => ?_⟩
  · have hhalf := mul_le_mul_of_nonneg_right hnear.near hunit.le
    rw [← abs_of_pos hunit, ← abs_mul, abs_of_pos hunit, sub_mul, ← hscaled, abs_sub_comm] at hhalf
    refine hhalf.trans ?_
    rw [le_div_iff₀ (by positivity)]
    rw [le_div_iff₀ hunit] at hleast
    linarith
  · obtain ⟨n, hn⟩ := exists_natCast_of_bits hc hv hnormal
    rw [hn] at hnear hscaled
    rw [hnear.unique (isNearest_natCast n), ← hscaled]

/-! ## Operations -/

variable {x y : Float} {v w : ℚ}

theorem exists_hasValue_mul (hx : HasValue x v) (hy : HasValue y w)
    (hlow : 2 ^ (-250 : ℤ) ≤ v * w) (hhigh : v * w < 2 ^ (250 : ℤ)) :
    ∃ z, HasValue (x * y) z ∧ IsClose z (v * w) := by
  obtain ⟨m, e, hm, hunpack, hleast, -, rfl⟩ := hx
  obtain ⟨n, f, hn, hunpack', hleast', -, rfl⟩ := hy
  have hproduct : (m : ℚ) * 2 ^ e * (n * 2 ^ f) = (m * n : ℕ) * 2 ^ (e + f) := by
    rw [zpow_add₀ two_ne_zero]
    push_cast
    ring
  have hlog : 104 ≤ (m * n).log2 := by
    refine (Nat.le_log2 (by positivity)).2 ?_
    calc 2 ^ 104 = 2 ^ 52 * 2 ^ 52 := by norm_num
      _ ≤ m * n := Nat.mul_le_mul hleast hleast'
  have htarget : e + f ≤ Format.binary64.targetExponent (totalExponent (m * n) (e + f)) := by
    refine le_trans ?_ (le_max_left _ _)
    show e + f ≤ ((m * n).log2 : ℤ) + 1 + (e + f) - (53 : ℕ)
    omega
  rw [hproduct] at hlow hhigh ⊢
  refine exists_hasValue_of_isRounded ?_ hlow hhigh
  show IsRounded _ _ _ (UnpackedFloat.mul .binary64 x.toModel.unpack y.toModel.unpack)
  rw [hunpack, hunpack']
  exact isRounded_roundWithAccuracy .positive (represents_exact _) (by positivity) htarget

/-- A quotient is cut off after fifty-three bits more than the significands have. -/
theorem divCore_of_normal {m n : ℕ} {e f : ℤ} (hm : m.log2 = 52) (hn : n.log2 = 52)
    (hfrom : -1021 ≤ e - f) :
    divCore .binary64 m e n f
      = (m * 2 ^ 53 / n, e - f - 53, accuracyOfFraction (m * 2 ^ 53 % n) n) := by
  have htotal : totalExponent m e - totalExponent n f = e - f := by
    simp only [totalExponent, hm, hn]
    omega
  have htarget : min (e - f) (Format.binary64.targetExponent (e - f)) = e - f - 53 := by
    show min (e - f) (max (e - f - (53 : ℕ)) (-1074)) = _
    omega
  have hshift : (e - f - (e - f - 53)).toNat = 53 := by omega
  simp only [divCore, htotal, htarget, hshift, Nat.shiftLeft_eq]

theorem exists_hasValue_div (hx : HasValue x v) (hy : HasValue y w)
    (hlow : 2 ^ (-250 : ℤ) ≤ v / w) (hhigh : v / w < 2 ^ (250 : ℤ)) :
    ∃ z, HasValue (x / y) z ∧ IsClose z (v / w) := by
  obtain ⟨m, e, hm, hunpack, hleast, hmost, rfl⟩ := hx
  obtain ⟨n, f, hn, hunpack', hleast', hmost', rfl⟩ := hy
  have hquotient : (m : ℚ) * 2 ^ e / (n * 2 ^ f)
      = (m * 2 ^ 53 : ℕ) / (n : ℕ) * 2 ^ (e - f - 53) := by
    rw [zpow_sub₀ two_ne_zero, zpow_sub₀ two_ne_zero]
    push_cast
    field_simp
  have hfrom : -1021 ≤ e - f := by
    have hratio : (m : ℚ) * 2 ^ e / (n * 2 ^ f) < 2 ^ (e - f + 1) := by
      rw [div_lt_iff₀ (by positivity), zpow_add₀ two_ne_zero, zpow_sub₀ two_ne_zero]
      have : (m : ℚ) < 2 * n := by exact_mod_cast (by omega : m < 2 * n)
      field_simp
      linarith
    have := (zpow_lt_zpow_iff_right₀ (one_lt_two (α := ℚ))).1 (hlow.trans_lt hratio)
    omega
  have hwhole : 2 ^ 52 ≤ m * 2 ^ 53 / n := by
    rw [Nat.le_div_iff_mul_le hn]
    omega
  have htarget : e - f - 53
      ≤ Format.binary64.targetExponent (totalExponent (m * 2 ^ 53 / n) (e - f - 53)) := by
    have hlog : 52 ≤ (m * 2 ^ 53 / n).log2 := (Nat.le_log2 (by omega)).2 hwhole
    refine le_trans ?_ (le_max_left _ _)
    show e - f - 53 ≤ ((m * 2 ^ 53 / n).log2 : ℤ) + 1 + (e - f - 53) - (53 : ℕ)
    omega
  rw [hquotient] at hlow hhigh ⊢
  refine exists_hasValue_of_isRounded ?_ hlow hhigh
  show IsRounded _ _ _ (UnpackedFloat.div .binary64 x.toModel.unpack y.toModel.unpack)
  rw [hunpack, hunpack']
  simp only [UnpackedFloat.div,
    divCore_of_normal (log2_of_normal hleast hmost) (log2_of_normal hleast' hmost') hfrom]
  exact isRounded_roundWithAccuracy .positive (represents_fraction _ hn) (by omega) htarget

/-! ## Whole numbers and powers of ten -/

/-- A whole number of fifty-three bits is its own binary64 value. -/
theorem hasValue_ofNat {n : ℕ} (hn : 0 < n) (hbits : n < 2 ^ 53) :
    HasValue (Float.ofNat n) n := by
  have hone : HasValue Float.exactlyRepresentablePowersOfTen[0] 1 :=
    ⟨2 ^ 52, -52, by decide, rfl, le_rfl, by decide, by norm_num⟩
  have hlow : (2 : ℚ) ^ (-250 : ℤ) ≤ n :=
    (zpow_le_one_of_nonpos₀ one_le_two (by decide)).trans (by exact_mod_cast hn)
  have hhigh : (n : ℚ) < 2 ^ (250 : ℤ) := by
    refine lt_trans (b := 2 ^ (53 : ℤ)) ?_ (zpow_lt_zpow_right₀ one_lt_two (by decide))
    exact_mod_cast hbits
  have hself : (n : ℚ) = n * 2 ^ (0 : ℤ) := by rw [zpow_zero, mul_one]
  have hword : HasValue n.toUInt64.toFloat n := by
    have hround : IsRounded .binary64 .positive n
        (UnpackedFloat.ofUInt64 .binary64 n.toUInt64) := by
      have htoNat : n.toUInt64.toNat = n := UInt64.toNat_ofNat_of_lt' (by show n < 2 ^ 64; omega)
      rw [UnpackedFloat.ofUInt64, htoNat, UnpackedFloat.ofNat, UnpackedFloat.ofInt,
        UnpackedFloat.normalize, Int.compare_eq_gt.2 (by omega)]
      show IsRounded _ _ _ (UnpackedFloat.round .binary64 .positive n 0)
      have h := isRounded_round .binary64 .positive hn 0
      rwa [← hself] at h
    obtain ⟨w, hw, hclose⟩ := exists_hasValue_of_isRounded hround hlow hhigh
    rwa [hclose.exact n 0 hbits hself] at hw
  obtain ⟨w, hw, hclose⟩ := exists_hasValue_mul hword hone (by rwa [mul_one]) (by rwa [mul_one])
  rw [mul_one] at hclose
  rw [hclose.exact n 0 hbits hself] at hw
  have hnat : Float.ofNat n
      = n.toUInt64.toFloat * Float.exactlyRepresentablePowersOfTen[0] := by
    show Float.ofScientific n false 0 = _
    rw [Float.ofScientific, dif_pos ⟨hbits, by decide⟩]
    rfl
  rwa [hnat]

/-- Whether an unpacked number is normal and equal to a power of ten, or for the higher powers
within half a unit of its last bit. -/
def isPowerOfTen (j : ℕ) : UnpackedFloat → Bool
  | .finite .positive m e _ =>
    let value := m * 2 ^ e.toNat
    let power := 10 ^ j * 2 ^ (-e).toNat
    2 ^ 52 ≤ m && m < 2 ^ 53 && 2 ^ 53 * value ≤ 2 ^ 53 * power + power &&
      2 ^ 53 * power ≤ 2 ^ 53 * value + power && (value = power || 22 < j)
  | _ => false

theorem isPowerOfTen_powerOfTen :
    ∀ j < 56, isPowerOfTen j (Json.powerOfTen j).toModel.unpack = true := by
  decide +kernel

/-- The powers of ten are the nearest numbers to themselves, and the first ones are exact. -/
theorem exists_hasValue_powerOfTen {j : ℕ} (hj : j < 56) :
    ∃ p, HasValue (Json.powerOfTen j) p ∧ |p - 10 ^ j| ≤ 10 ^ j / 2 ^ 53 ∧
      (j ≤ 22 → p = 10 ^ j) := by
  have h := isPowerOfTen_powerOfTen j hj
  cases hunpack : (Json.powerOfTen j).toModel.unpack with
  | infinity | notANumber | zero => rw [hunpack] at h; cases h
  | finite sign m e hm =>
    cases sign with
    | negative => rw [hunpack] at h; cases h
    | positive =>
      simp only [hunpack, isPowerOfTen, Bool.and_eq_true, Bool.or_eq_true, decide_eq_true_eq] at h
      obtain ⟨⟨⟨⟨hlow, hhigh⟩, habove⟩, hbelow⟩, hexact⟩ := h
      obtain ⟨s, hs⟩ : ∃ s : ℕ, 2 ^ (-e).toNat = s := ⟨_, rfl⟩
      have hpos : (0 : ℚ) < s := by
        rw [← hs]
        positivity
      have hvalue : (m * 2 ^ e.toNat : ℕ) = (m : ℚ) * 2 ^ e * s := by
        rw [← hs, mul_assoc]
        push_cast
        rw [zpow_mul_toNat two_ne_zero]
      rw [hs] at habove hbelow hexact
      refine ⟨m * 2 ^ e, ⟨m, e, hm, hunpack, hlow, hhigh, rfl⟩, ?_, fun hj => ?_⟩
      · have habove' : ((2 ^ 53 * (m * 2 ^ e.toNat) : ℕ) : ℚ)
            ≤ (2 ^ 53 * (10 ^ j * s) + 10 ^ j * s : ℕ) := by exact_mod_cast habove
        have hbelow' : ((2 ^ 53 * (10 ^ j * s) : ℕ) : ℚ)
            ≤ (2 ^ 53 * (m * 2 ^ e.toNat) + 10 ^ j * s : ℕ) := by exact_mod_cast hbelow
        rw [Nat.cast_mul, hvalue] at habove'
        rw [Nat.cast_add, Nat.cast_mul (2 ^ 53) (m * 2 ^ e.toNat), hvalue] at hbelow'
        push_cast at habove' hbelow'
        rw [abs_sub_le_iff, le_div_iff₀ (by positivity), le_div_iff₀ (by positivity)]
        constructor
        · refine le_of_mul_le_mul_right ?_ hpos
          linarith
        · refine le_of_mul_le_mul_right ?_ hpos
          linarith
      · refine mul_right_cancel₀ hpos.ne' (hvalue.symm.trans ?_)
        rw [hexact.resolve_right (by omega)]
        push_cast
        rfl

/-! ## Scaling -/

/-- How far a number with the given decimal exponent may be off after it is scaled, in units of
`2 ^ -60` of itself: half a unit of the last bit if the power of ten is exact, and about twice as
much if it is rounded itself. -/
def allowance (shift : ℤ) : ℕ :=
  if shift.natAbs ≤ 22 then 128 else 258

/-- Two roundings after each other. -/
theorem IsClose.near_of_near {w v d : ℚ} (h : IsClose w v) (hnear : |v - d| ≤ 129 / 2 ^ 60 * d) :
    |w - d| ≤ 258 / 2 ^ 60 * d := by
  obtain ⟨h1, h2⟩ := abs_sub_le_iff.1 h.near
  obtain ⟨h3, h4⟩ := abs_sub_le_iff.1 hnear
  rw [abs_sub_le_iff]
  constructor <;> linarith

theorem HasValue.isInf_eq_false (h : HasValue x v) : x.isInf = false := by
  obtain ⟨m, e, hm, hunpack, -⟩ := h
  show x.toModel.unpack.isInf = false
  rw [hunpack]
  rfl

/-- A quotient by a number near a power of ten. -/
theorem abs_div_sub_div_le {n p d : ℚ} (hn : 0 ≤ n) (hd : 0 < d) (hp : |p - d| ≤ d / 2 ^ 53) :
    |n / p - n / d| ≤ 129 / 2 ^ 60 * (n / d) := by
  obtain ⟨h1, h2⟩ := abs_sub_le_iff.1 hp
  have hpos : 0 < p := by linarith
  have hratio : |d / p - 1| ≤ 129 / 2 ^ 60 := by
    rw [abs_sub_le_iff, sub_le_iff_le_add, sub_le_comm, div_le_iff₀ hpos, le_div_iff₀ hpos]
    constructor <;> linarith
  have hsplit : n / p - n / d = (d / p - 1) * (n / d) := by field_simp
  rw [hsplit, abs_mul, abs_of_nonneg (div_nonneg hn hd.le)]
  exact mul_le_mul_of_nonneg_right hratio (div_nonneg hn hd.le)

/-- Scaling rounds the exact result of one operation, in which only the power of ten may be off. -/
theorem exists_isClose_scale? {n : ℕ} {shift : ℤ} {d : ℚ} (hn : 0 < n) (hbits : n < 2 ^ 53)
    (hshift : shift.natAbs < 56) (hd : d = n * 10 ^ shift) (hlow : 2 ^ (-249 : ℤ) ≤ d)
    (hhigh : d < 2 ^ (249 : ℤ)) :
    ∃ x v w, Json.scale? (Float.ofNat n) shift = some x ∧ HasValue x w ∧ IsClose w v ∧
      |v - d| ≤ 129 / 2 ^ 60 * d ∧ (shift.natAbs ≤ 22 → v = d) := by
  obtain ⟨p, hp, hnear, hexact⟩ := exists_hasValue_powerOfTen hshift
  have hnat := hasValue_ofNat hn hbits
  have hrange : ∀ {v : ℚ}, |v - d| ≤ 129 / 2 ^ 60 * d →
      2 ^ (-250 : ℤ) ≤ v ∧ v < 2 ^ (250 : ℤ) := by
    intro v hv
    obtain ⟨h1, h2⟩ := abs_sub_le_iff.1 hv
    have hless : (2 : ℚ) ^ (-250 : ℤ) = 2 ^ (-249 : ℤ) / 2 := by norm_num
    have hmore : (2 : ℚ) ^ (250 : ℤ) = 2 ^ (249 : ℤ) * 2 := by norm_num
    have hpos : (0 : ℚ) < d := lt_of_lt_of_le (by positivity) hlow
    rw [hless, hmore]
    generalize (2 : ℚ) ^ (-249 : ℤ) = low at hlow
    generalize (2 : ℚ) ^ (249 : ℤ) = high at hhigh
    constructor <;> linarith
  rw [Json.scale?]
  split
  · next hneg =>
    have hquotient : d = n / 10 ^ shift.natAbs := by
      rw [hd, ← zpow_natCast, Int.ofNat_natAbs_of_nonpos (by omega), zpow_neg, div_inv_eq_mul]
    have hdiv := abs_div_sub_div_le (Nat.cast_nonneg n) (by positivity) hnear
    rw [← hquotient] at hdiv
    obtain ⟨w, hw, hclose⟩ := exists_hasValue_div hnat hp (hrange hdiv).1 (hrange hdiv).2
    refine ⟨_, n / p, w, ?_, hw, hclose, hdiv, fun hsmall => by rw [hexact hsmall, hquotient]⟩
    rw [Json.shrink, if_pos (by omega)]
  · next hpos =>
    have hproduct : d = n * 10 ^ shift.natAbs := by
      rw [hd, ← zpow_natCast, Int.natAbs_of_nonneg (by omega)]
    have hmul : |n * p - d| ≤ 129 / 2 ^ 60 * d := by
      rw [hproduct, ← mul_sub, abs_mul, Nat.abs_cast, mul_left_comm]
      refine mul_le_mul_of_nonneg_left (hnear.trans ?_) (Nat.cast_nonneg n)
      rw [div_eq_inv_mul]
      exact mul_le_mul_of_nonneg_right (by norm_num) (by positivity)
    obtain ⟨w, hw, hclose⟩ := exists_hasValue_mul hnat hp (hrange hmul).1 (hrange hmul).2
    refine ⟨_, n * p, w, ?_, hw, hclose, hmul, fun hsmall => by rw [hexact hsmall, hproduct]⟩
    rw [if_pos (by omega)]
    dsimp only
    rw [hw.isInf_eq_false]
    rfl

/-- A number of fifty-three bits is scaled by a power of ten to a number near the exact product
`d`, and to `d` itself where nothing has to be rounded. -/
theorem exists_scale? {n : ℕ} {shift : ℤ} {d : ℚ} (hn : 0 < n) (hbits : n < 2 ^ 53)
    (hshift : shift.natAbs < 56) (hd : d = n * 10 ^ shift) :
    ∃ x w, Json.scale? (Float.ofNat n) shift = some x ∧ HasValue x w ∧
      |w - d| ≤ allowance shift / 2 ^ 60 * d ∧
      (shift.natAbs ≤ 22 → ∀ (c : ℕ) (f : ℤ), c < 2 ^ 53 → d = c * 2 ^ f → w = d) := by
  have hlow : (2 : ℚ) ^ (-249 : ℤ) ≤ d := by
    have h1 : (10 : ℚ) ^ (-55 : ℤ) ≤ 10 ^ shift := zpow_le_zpow_right₀ (by norm_num) (by omega)
    have h2 : (1 : ℚ) ≤ n := by exact_mod_cast hn
    calc (2 : ℚ) ^ (-249 : ℤ) ≤ 1 * 10 ^ (-55 : ℤ) := by norm_num
      _ ≤ n * 10 ^ shift := mul_le_mul h2 h1 (by positivity) (by positivity)
      _ = d := hd.symm
  have hhigh : d < 2 ^ (249 : ℤ) := by
    have h1 : (10 : ℚ) ^ shift ≤ 10 ^ (55 : ℤ) := zpow_le_zpow_right₀ (by norm_num) (by omega)
    have h2 : (n : ℚ) ≤ 2 ^ 53 := by exact_mod_cast hbits.le
    calc d = n * 10 ^ shift := hd
      _ ≤ 2 ^ 53 * 10 ^ (55 : ℤ) := mul_le_mul h2 h1 (by positivity) (by positivity)
      _ < 2 ^ (249 : ℤ) := by norm_num
  obtain ⟨x, v, w, hx, hw, hclose, hnear, hexact⟩ :=
    exists_isClose_scale? hn hbits hshift hd hlow hhigh
  refine ⟨x, w, hx, hw, ?_, fun hsmall c f hc hcf => ?_⟩
  · rw [allowance]
    split
    · next hsmall =>
      have h := hclose.near
      rw [hexact hsmall] at h
      refine h.trans (le_of_eq ?_)
      push_cast
      ring
    · exact_mod_cast hclose.near_of_near hnear
  · have hv := hexact hsmall
    rw [← hv]
    exact hclose.exact c f hc (hv.trans hcf)

end VisualNovel.Decimal
