import VisualNovel.Proofs.Decimal.Arithmetic

/-!
# Decimals of few digits keep away from the ends of intervals

The end of an interval of binary32 numbers is a number of twenty-five bits times a power of two. A
decimal of about as many bits that is no such end is further from it than reading the decimal can
miss it, so reading does not take it across the end (`keepsAway`). Only one decimal, `7038531e-32`,
is closer to an end than that.

Which numbers come close to each other is a question about the fractions `m / n` near a ratio
`p / q` of the two units. Two adjacent fractions that enclose the ratio (`Enclosure`) bound how
near any other one with a small denominator can come to it (`Enclosure.Encloses.far_of_lt`,
`Enclosure.Encloses.far_of_gt`). So one enclosure for each of the pairs of units that matter
settles them all, and these are found and checked by computation (`isApart_units`).
-/

namespace VisualNovel.Decimal

/-! ## Fractions around a ratio -/

/-- Two fractions, a lower and an upper one. -/
structure Enclosure where
  lowNum : ℕ
  lowDen : ℕ
  highNum : ℕ
  highDen : ℕ

namespace Enclosure

/-- How far the lower fraction is below `p / q`, over the product of the denominators. -/
def below (s : Enclosure) (p q : ℕ) : ℕ :=
  s.lowDen * p - s.lowNum * q

/-- How far the upper fraction is above `p / q`, over the product of the denominators. -/
def above (s : Enclosure) (p q : ℕ) : ℕ :=
  s.highNum * q - s.highDen * p

/-- The fractions are adjacent and enclose `p / q`. -/
structure Encloses (s : Enclosure) (p q : ℕ) : Prop where
  low : s.lowNum * q ≤ s.lowDen * p
  high : s.highDen * p < s.highNum * q
  adjacent : s.lowDen * s.highNum = s.lowNum * s.highDen + 1

/-- Moves the fractions towards `p / q` as long as a denominator up to `bound` can come closer. -/
def refine (p q bound : ℕ) : ℕ → Enclosure → Enclosure
  | 0, s => s
  | fuel + 1, s =>
    let u := s.below p q
    let v := s.above p q
    if bound < s.lowDen + s.highDen ∨ u = 0 then s
    else if v ≤ u ∧ 0 < s.highDen then
      let times := max 1 (min (u / v) ((bound - s.lowDen) / s.highDen))
      refine p q bound fuel
        { s with lowNum := s.lowNum + times * s.highNum, lowDen := s.lowDen + times * s.highDen }
    else
      let times := max 1 (min ((v - 1) / u) ((bound - s.highDen) / s.lowDen))
      refine p q bound fuel
        { s with highNum := s.highNum + times * s.lowNum, highDen := s.highDen + times * s.lowDen }

variable {s : Enclosure} {p q m n : ℕ}

/-- Every fraction is made of the two adjacent ones. -/
theorem Encloses.exists_combination (h : s.Encloses p q) (m n : ℕ) :
    ∃ i j : ℤ, n = i * s.lowDen + j * s.highDen ∧ m = i * s.lowNum + j * s.highNum ∧
      (n : ℤ) * p - m * q = i * s.below p q - j * s.above p q := by
  have hadjacent : (s.lowDen : ℤ) * s.highNum = s.lowNum * s.highDen + 1 := by
    exact_mod_cast h.adjacent
  have hbelow : (s.below p q : ℤ) = s.lowDen * p - s.lowNum * q := by
    rw [below, Nat.cast_sub h.low]
    push_cast
    rfl
  have habove : (s.above p q : ℤ) = s.highNum * q - s.highDen * p := by
    rw [above, Nat.cast_sub h.high.le]
    push_cast
    rfl
  have hn : (n : ℤ) = (n * s.highNum - m * s.highDen) * s.lowDen
      + (m * s.lowDen - n * s.lowNum) * s.highDen := by
    linear_combination (-(n : ℤ)) * hadjacent
  have hm : (m : ℤ) = (n * s.highNum - m * s.highDen) * s.lowNum
      + (m * s.lowDen - n * s.lowNum) * s.highNum := by
    linear_combination (-(m : ℤ)) * hadjacent
  refine ⟨n * s.highNum - m * s.highDen, m * s.lowDen - n * s.lowNum, hn, hm, ?_⟩
  rw [hbelow, habove]
  linear_combination p * hn - q * hm

/-- The upper fraction is not the ratio itself. -/
theorem Encloses.above_pos (h : s.Encloses p q) : 0 < s.above p q :=
  Nat.sub_pos_of_lt h.high

/-- A fraction of a small denominator is made of the adjacent ones with opposite signs. -/
theorem opposite_of_lt {i j : ℤ} (hn : 0 < n) (hbound : n < s.lowDen + s.highDen)
    (hij : n = i * s.lowDen + j * s.highDen) : 0 < i ∧ j ≤ 0 ∨ i ≤ 0 ∧ 0 < j := by
  have hlow : (0 : ℤ) ≤ s.lowDen := Int.natCast_nonneg _
  have hhigh : (0 : ℤ) ≤ s.highDen := Int.natCast_nonneg _
  rcases le_or_gt i 0 with hi | hi <;> rcases le_or_gt j 0 with hj | hj
  · have hi' := Int.mul_nonpos_of_nonpos_of_nonneg hi hlow
    have hj' := Int.mul_nonpos_of_nonpos_of_nonneg hj hhigh
    omega
  · exact .inr ⟨hi, hj⟩
  · exact .inl ⟨hi, hj⟩
  · have hi' : (s.lowDen : ℤ) ≤ i * s.lowDen := le_mul_of_one_le_left hlow hi
    have hj' : (s.highDen : ℤ) ≤ j * s.highDen := le_mul_of_one_le_left hhigh hj
    omega

section
variable (h : s.Encloses p q) (hn : 0 < n) (hbound : n < s.lowDen + s.highDen ∨ s.below p q = 0)
include h hn hbound

/-- Below the ratio no fraction of a small denominator is closer than the lower one, or than the
upper one is above it if the lower one is the ratio itself. -/
theorem Encloses.far_of_lt (hlt : m * q < n * p) :
    s.below p q + m * q ≤ n * p ∧ (s.below p q = 0 → s.above p q + m * q ≤ n * p) := by
  obtain ⟨i, j, hij, -, hdiff⟩ := h.exists_combination m n
  have hlt' : (m * q : ℤ) < n * p := by exact_mod_cast hlt
  have habove : (0 : ℤ) < s.above p q := by exact_mod_cast h.above_pos
  suffices hfar : (s.below p q : ℤ) + m * q ≤ n * p ∧
      (s.below p q = 0 → (s.above p q : ℤ) + m * q ≤ n * p) by exact_mod_cast hfar
  rcases Nat.eq_zero_or_pos (s.below p q) with hzero | hbelow
  · rw [hzero, Nat.cast_zero, mul_zero] at hdiff
    have hj : j < 0 := by
      by_contra hj
      have := Int.mul_nonneg (not_lt.1 hj) habove.le
      omega
    have hle : (s.above p q : ℤ) ≤ -j * s.above p q := le_mul_of_one_le_left habove.le (by omega)
    rw [neg_mul] at hle
    rw [hzero]
    exact ⟨by push_cast; omega, fun _ => by omega⟩
  · have hbelow' : (0 : ℤ) < s.below p q := by exact_mod_cast hbelow
    rcases opposite_of_lt hn (hbound.resolve_right hbelow.ne') hij with ⟨hi, hj⟩ | ⟨hi, hj⟩
    · have hi' : (s.below p q : ℤ) ≤ i * s.below p q := le_mul_of_one_le_left hbelow'.le hi
      have hj' := Int.mul_nonpos_of_nonpos_of_nonneg hj habove.le
      exact ⟨by omega, fun hzero => absurd hzero hbelow.ne'⟩
    · have hi' := Int.mul_nonpos_of_nonpos_of_nonneg hi hbelow'.le
      have hj' := Int.mul_pos hj habove
      omega

/-- Above the ratio no fraction of a small denominator is closer than the upper one, and those with
other small denominators are further by as much as the lower one is below it. -/
theorem Encloses.far_of_gt (hlt : n * p < m * q) :
    s.above p q + n * p ≤ m * q ∧ (n < 2 * s.highDen → n ≠ s.highDen →
      s.below p q + s.above p q + n * p ≤ m * q) := by
  obtain ⟨i, j, hij, -, hdiff⟩ := h.exists_combination m n
  have hlt' : (n * p : ℤ) < m * q := by exact_mod_cast hlt
  have habove : (0 : ℤ) < s.above p q := by exact_mod_cast h.above_pos
  suffices hfar : (s.above p q : ℤ) + n * p ≤ m * q ∧ (n < 2 * s.highDen → n ≠ s.highDen →
      (s.below p q : ℤ) + s.above p q + n * p ≤ m * q) by exact_mod_cast hfar
  rcases Nat.eq_zero_or_pos (s.below p q) with hzero | hbelow
  · rw [hzero, Nat.cast_zero, mul_zero] at hdiff
    have hj : 0 < j := by
      by_contra hj
      have := Int.mul_nonpos_of_nonpos_of_nonneg (not_lt.1 hj) habove.le
      omega
    have hle : (s.above p q : ℤ) ≤ j * s.above p q := le_mul_of_one_le_left habove.le hj
    rw [hzero]
    exact ⟨by omega, fun _ _ => by push_cast; omega⟩
  · have hbelow' : (0 : ℤ) < s.below p q := by exact_mod_cast hbelow
    rcases opposite_of_lt hn (hbound.resolve_right hbelow.ne') hij with ⟨hi, hj⟩ | ⟨hi, hj⟩
    · have hi' := Int.mul_pos hi hbelow'
      have hj' := Int.mul_nonpos_of_nonpos_of_nonneg hj habove.le
      omega
    · have hj' : (s.above p q : ℤ) ≤ j * s.above p q := le_mul_of_one_le_left habove.le hj
      have hi' := Int.mul_nonpos_of_nonpos_of_nonneg hi hbelow'.le
      refine ⟨by omega, fun hsmall hne => ?_⟩
      have hi : i < 0 := by
        refine lt_of_le_of_ne hi ?_
        rintro rfl
        have hj' : j = 1 := by
          by_contra hj'
          have : (2 * s.highDen : ℤ) ≤ j * s.highDen :=
            mul_le_mul_of_nonneg_right (by omega) (Int.natCast_nonneg _)
          omega
        rw [hj'] at hij
        omega
      have hi' : (s.below p q : ℤ) ≤ -i * s.below p q :=
        le_mul_of_one_le_left hbelow'.le (by omega)
      rw [neg_mul] at hi'
      omega

/-- Only the lower fraction can be the ratio itself. -/
theorem Encloses.below_eq_zero (heq : n * p = m * q) : s.below p q = 0 := by
  by_contra hne
  obtain ⟨i, j, hij, -, hdiff⟩ := h.exists_combination m n
  have habove : (0 : ℤ) < s.above p q := by exact_mod_cast h.above_pos
  have hbelow : (0 : ℤ) < s.below p q := by exact_mod_cast Nat.pos_of_ne_zero hne
  have heq' : (n * p : ℤ) = m * q := by exact_mod_cast heq
  rcases opposite_of_lt hn (hbound.resolve_right hne) hij with ⟨hi, hj⟩ | ⟨hi, hj⟩
  · have hi' := Int.mul_pos hi hbelow
    have hj' := Int.mul_nonpos_of_nonpos_of_nonneg hj habove.le
    omega
  · have hi' := Int.mul_nonpos_of_nonpos_of_nonneg hi hbelow.le
    have hj' := Int.mul_pos hj habove
    omega

end

end Enclosure

/-! ## Pairs of units -/

/-- The ratio of a power of ten to a power of two has this numerator and this denominator. -/
def unitNum (k e : ℤ) : ℕ :=
  10 ^ k.toNat * 2 ^ (-e).toNat

@[inherit_doc unitNum]
def unitDen (k e : ℤ) : ℕ :=
  10 ^ (-k).toNat * 2 ^ e.toNat

/-- The decimals with the given count of the power of ten are the only ones that are closer to an
end of an interval than reading may miss them. -/
def IsClosest (n : ℕ) (k : ℤ) : Prop :=
  k = -32 ∧ ∃ i, n * 2 ^ i = 14077062

/-- Whether an enclosure of the ratio of the two units shows that reading does not cross an end. -/
def isApart (k e : ℤ) : Bool :=
  let p := unitNum k e
  let q := unitDen k e
  let bound := min (2 ^ 24 + 1) (2 ^ 25 * q / p)
  let s := Enclosure.refine p q bound 64 ⟨p / q, 1, 1, 0⟩
  let error := allowance k * (bound * p)
  s.lowNum * q ≤ s.lowDen * p && s.highDen * p < s.highNum * q &&
    s.lowDen * s.highNum == s.lowNum * s.highDen + 1 &&
    (bound < s.lowDen + s.highDen && error < 2 ^ 60 * s.below p q ||
      s.below p q == 0 && k.natAbs ≤ 22) &&
    (error < 2 ^ 60 * s.above p q ||
      k == -32 && (s.highDen == 7038531 || s.highDen == 14077062) && bound < 2 * s.highDen &&
        error < 2 ^ 60 * (s.below p q + s.above p q))

/-- A decimal of a count `n` and an end of a count `m` in the two units: the decimal is further
from the end than reading may miss it, or is the end itself. -/
structure IsApart (k e : ℤ) (n m : ℕ) : Prop where
  lt : m * unitDen k e < n * unitNum k e →
    allowance k * (n * unitNum k e) + 2 ^ 60 * (m * unitDen k e) < 2 ^ 60 * (n * unitNum k e)
  gt : n * unitNum k e < m * unitDen k e → ¬IsClosest n k →
    allowance k * (n * unitNum k e) + 2 ^ 60 * (n * unitNum k e) < 2 ^ 60 * (m * unitDen k e)
  eq : n * unitNum k e = m * unitDen k e → k.natAbs ≤ 22

/-- The unit of the decimal is positive. -/
theorem unitNum_pos (k e : ℤ) : 0 < unitNum k e := by
  rw [unitNum]
  positivity

/-- Reading misses a number by a small share of it. -/
theorem allowance_le (k : ℤ) : allowance k ≤ 258 := by
  rw [allowance]
  split <;> decide

/-- The unit of the decimal is so large that all ends of twenty-five bits are far below it. -/
theorem isApart_of_beyond {k e : ℤ} {n m : ℕ} (hbeyond : 2 ^ 25 * unitDen k e < n * unitNum k e)
    (hm : m < 2 ^ 25) : IsApart k e n m := by
  have hend : 2 ^ 25 * (m * unitDen k e) ≤ (2 ^ 25 - 1) * (2 ^ 25 * unitDen k e) := by
    have : m * unitDen k e ≤ (2 ^ 25 - 1) * unitDen k e := Nat.mul_le_mul_right _ (by omega)
    omega
  have herror : allowance k * (n * unitNum k e) ≤ 258 * (n * unitNum k e) :=
    Nat.mul_le_mul_right _ (allowance_le k)
  constructor <;> omega

/-- What the enclosure shows of counts up to its bound holds of all, since greater ones are beyond
all ends. -/
theorem isApart_spec {k e : ℤ} (h : isApart k e = true) {n m : ℕ} (hn : 0 < n)
    (hn' : n ≤ 2 ^ 24 + 1) (hm : m < 2 ^ 25) : IsApart k e n m := by
  have hp := unitNum_pos k e
  rw [isApart] at h
  obtain ⟨p, hpq⟩ : ∃ p, unitNum k e = p := ⟨_, rfl⟩
  obtain ⟨q, hqp⟩ : ∃ q, unitDen k e = q := ⟨_, rfl⟩
  obtain ⟨bound, hbound⟩ : ∃ bound, min (2 ^ 24 + 1) (2 ^ 25 * q / p) = bound := ⟨_, rfl⟩
  obtain ⟨s, hs⟩ : ∃ s, Enclosure.refine p q bound 64 ⟨p / q, 1, 1, 0⟩ = s := ⟨_, rfl⟩
  simp only [hpq, hqp, hbound, hs, Bool.and_eq_true, Bool.or_eq_true, decide_eq_true_eq,
    beq_iff_eq] at h
  obtain ⟨⟨⟨⟨hlow, hhigh⟩, hadjacent⟩, hbelow⟩, habove⟩ := h
  have hs : s.Encloses p q := ⟨hlow, hhigh, hadjacent⟩
  rw [hpq] at hp
  rcases le_or_gt n bound with hsmall | hlarge
  · have hstop : n < s.lowDen + s.highDen ∨ s.below p q = 0 :=
      hbelow.imp (fun h => hsmall.trans_lt h.1) (·.1)
    have herror : allowance k * (n * p) ≤ allowance k * (bound * p) :=
      Nat.mul_le_mul_left _ (Nat.mul_le_mul_right _ hsmall)
    constructor <;> rw [hpq, hqp]
    · intro hlt
      obtain ⟨hfar, hfar'⟩ := hs.far_of_lt hn hstop hlt
      rcases hbelow with ⟨-, hbelow⟩ | ⟨hzero, hk⟩
      · omega
      · have := hfar' hzero
        rcases habove with habove | ⟨⟨⟨hk', -⟩, -⟩, -⟩ <;> omega
    · intro hgt hclosest
      obtain ⟨hfar, hfar'⟩ := hs.far_of_gt hn hstop hgt
      rcases habove with habove | ⟨⟨⟨hk, hdigits⟩, hdouble⟩, habove⟩
      · omega
      · have hne : n ≠ s.highDen := by
          rintro rfl
          rcases hdigits with hdigits | hdigits <;> rw [hdigits] at hclosest
          · exact hclosest ⟨hk, 1, rfl⟩
          · exact hclosest ⟨hk, 0, rfl⟩
        have := hfar' (by omega) hne
        omega
    · intro heq
      have hzero := hs.below_eq_zero hn hstop heq
      rcases hbelow with ⟨-, hbelow⟩ | ⟨-, hk⟩
      · rw [hzero] at hbelow
        omega
      · exact hk
  · refine isApart_of_beyond ?_ hm
    rw [hpq, hqp, ← Nat.div_lt_iff_lt_mul hp]
    omega

/-- The exponent of the power of two up to a power of ten. -/
def binade (k : ℤ) : ℤ :=
  if 0 ≤ k then Nat.log2 (10 ^ k.toNat) else -(Nat.log2 (10 ^ (-k).toNat) + 1)

/-- A power of ten lies between the power of two of its binade and the next. -/
theorem binade_bounds (k : ℤ) :
    (2 : ℚ) ^ binade k ≤ 10 ^ k ∧ (10 : ℚ) ^ k ≤ 2 ^ (binade k + 1) := by
  have hbounds : ∀ n : ℕ, (2 : ℚ) ^ ((10 ^ n).log2 : ℤ) ≤ 10 ^ n ∧
      (10 : ℚ) ^ n ≤ 2 ^ ((10 ^ n).log2 + 1 : ℤ) := by
    intro n
    constructor
    · rw [zpow_natCast]
      exact_mod_cast Nat.log2_self_le (by positivity)
    · exact_mod_cast (Nat.lt_log2_self (n := 10 ^ n)).le
  rw [binade]
  split
  · next hk =>
    obtain ⟨n, rfl⟩ := Int.eq_ofNat_of_zero_le hk
    rw [Int.toNat_natCast, zpow_natCast]
    exact hbounds n
  · next hk =>
    obtain ⟨n, rfl⟩ : ∃ n : ℕ, k = -n := ⟨(-k).toNat, by omega⟩
    obtain ⟨hlow, hhigh⟩ := hbounds n
    rw [neg_neg, Int.toNat_natCast, zpow_neg, zpow_neg, zpow_natCast, neg_add, neg_add_cancel_right,
      zpow_neg]
    exact ⟨inv_anti₀ (by positivity) hhigh, inv_anti₀ (by positivity) hlow⟩

/-- The units of a decimal and of an end near it, each scaled to a count of about as many bits, are
those of one of these pairs. -/
theorem isApart_units :
    ∀ i < 94, ∀ j < 4, isApart ((i : ℕ) - 55) (binade ((i : ℕ) - 55) - 2 + (j : ℕ)) = true := by
  decide +kernel

/-! ## Decimals and ends -/

/-- The unit of the decimal over the shared denominator. -/
theorem unitNum_eq (k e : ℤ) :
    (unitNum k e : ℚ) = 10 ^ k * (10 ^ (-k).toNat * 2 ^ (-e).toNat) := by
  rw [unitNum, ← mul_assoc, zpow_mul_toNat (by norm_num)]
  push_cast
  rfl

/-- The unit of the end over the shared denominator. -/
theorem unitDen_eq (k e : ℤ) :
    (unitDen k e : ℚ) = 2 ^ e * (10 ^ (-k).toNat * 2 ^ (-e).toNat) := by
  rw [unitDen, mul_left_comm, zpow_mul_toNat two_ne_zero]
  push_cast
  rfl

/-- The decimal `d` is further from the end `c` than reading may miss it, or is the end itself. -/
structure KeepsAway (k : ℤ) (closest : Prop) (d c : ℚ) : Prop where
  lt : c < d → allowance k / 2 ^ 60 * d < d - c
  gt : d < c → ¬closest → allowance k / 2 ^ 60 * d < c - d
  eq : d = c → k.natAbs ≤ 22

/-- What is apart in whole numbers is as far apart as numbers. -/
theorem IsApart.keepsAway {k e : ℤ} {n m : ℕ} (h : IsApart k e n m) :
    KeepsAway k (IsClosest n k) (n * 10 ^ k) (m * 2 ^ e) := by
  obtain ⟨w, hw⟩ : ∃ w : ℚ, 10 ^ (-k).toNat * 2 ^ (-e).toNat = w := ⟨_, rfl⟩
  have hpos : 0 < w := by
    rw [← hw]
    positivity
  have hd : ((n * unitNum k e : ℕ) : ℚ) = n * 10 ^ k * w := by
    rw [Nat.cast_mul, unitNum_eq, hw, mul_assoc]
  have hc : ((m * unitDen k e : ℕ) : ℚ) = m * 2 ^ e * w := by
    rw [Nat.cast_mul, unitDen_eq, hw, mul_assoc]
  obtain ⟨hlt, hgt, heq⟩ := h
  generalize n * unitNum k e = num at hd hlt hgt heq
  generalize m * unitDen k e = den at hc hlt hgt heq
  generalize (n : ℚ) * 10 ^ k = d at hd ⊢
  generalize (m : ℚ) * 2 ^ e = c at hc ⊢
  constructor
  · intro hcd
    have hnat : (den : ℚ) < num := by
      rw [hd, hc]
      exact mul_lt_mul_of_pos_right hcd hpos
    have hfar : ((allowance k * num + 2 ^ 60 * den : ℕ) : ℚ) < (2 ^ 60 * num : ℕ) := by
      exact_mod_cast hlt (by exact_mod_cast hnat)
    push_cast at hfar
    rw [hd, hc] at hfar
    have := lt_of_mul_lt_mul_right (a := w) (b := allowance k * d + 2 ^ 60 * c) (c := 2 ^ 60 * d)
      (by linarith) hpos.le
    linarith
  · intro hdc hclosest
    have hnat : (num : ℚ) < den := by
      rw [hd, hc]
      exact mul_lt_mul_of_pos_right hdc hpos
    have hfar : ((allowance k * num + 2 ^ 60 * num : ℕ) : ℚ) < (2 ^ 60 * den : ℕ) := by
      exact_mod_cast hgt (by exact_mod_cast hnat) hclosest
    push_cast at hfar
    rw [hd, hc] at hfar
    have := lt_of_mul_lt_mul_right (a := w) (b := allowance k * d + 2 ^ 60 * d) (c := 2 ^ 60 * c)
      (by linarith) hpos.le
    linarith
  · intro hdc
    rw [hdc, ← hc] at hd
    exact heq (by exact_mod_cast hd)

/-- A count is doubled until it has a given number of bits. -/
theorem exists_scaled {n b : ℕ} (hn : 0 < n) (hbits : n < 2 ^ (b + 1)) :
    ∃ i, 2 ^ b ≤ n * 2 ^ i ∧ n * 2 ^ i < 2 ^ (b + 1) := by
  have hlog : n.log2 ≤ b := Nat.lt_succ_iff.1 ((Nat.log2_lt hn.ne').2 hbits)
  refine ⟨b - n.log2, ?_, ?_⟩
  · calc 2 ^ b = 2 ^ n.log2 * 2 ^ (b - n.log2) := by rw [← pow_add, Nat.add_sub_cancel' hlog]
      _ ≤ n * 2 ^ (b - n.log2) := Nat.mul_le_mul_right _ (Nat.log2_self_le hn.ne')
  · calc n * 2 ^ (b - n.log2) < 2 ^ (n.log2 + 1) * 2 ^ (b - n.log2) :=
          Nat.mul_lt_mul_of_pos_right Nat.lt_log2_self (by positivity)
      _ = 2 ^ (b + 1) := by
          rw [← pow_add]
          congr 1
          omega

/-- Numbers of different sizes are apart. -/
theorem keepsAway_of_far {k : ℤ} {closest : Prop} {d c : ℚ} (hd : 0 < d)
    (hfar : 2 * c ≤ d ∨ 3 * d ≤ 2 * c) : KeepsAway k closest d c := by
  have herror : (allowance k : ℚ) / 2 ^ 60 * d ≤ 258 / 2 ^ 60 * d := by
    gcongr
    exact_mod_cast allowance_le k
  rcases hfar with hless | hmore
  · exact ⟨fun _ => by linarith, fun _ => by linarith, fun _ => by linarith⟩
  · exact ⟨fun _ => by linarith, fun _ _ => by linarith, fun _ => by linarith⟩

/-- Counts of about as many bits are apart in all units: for units of about the same size this has
been checked, and otherwise the numbers themselves are of different sizes. -/
theorem keepsAway_of_bits {n m : ℕ} {k : ℤ} (e : ℤ) (hk : -55 ≤ k) (hk' : k ≤ 38)
    (hn : 2 ^ 23 ≤ n) (hn' : n ≤ 2 ^ 24 + 1) (hm : 2 ^ 24 ≤ m) (hm' : m < 2 ^ 25) :
    KeepsAway k (IsClosest n k) (n * 10 ^ k) (m * 2 ^ e) := by
  obtain ⟨hlow, hhigh⟩ := binade_bounds k
  have hunit : (0 : ℚ) < 10 ^ k := by positivity
  have hnlow : ((2 ^ 23 : ℕ) : ℚ) ≤ n := by exact_mod_cast hn
  have hnhigh : (n : ℚ) ≤ (2 ^ 24 + 1 : ℕ) := by exact_mod_cast hn'
  have hmlow : ((2 ^ 24 : ℕ) : ℚ) ≤ m := by exact_mod_cast hm
  have hmhigh : (m : ℚ) ≤ (2 ^ 25 : ℕ) := by exact_mod_cast hm'.le
  push_cast at hnlow hnhigh hmlow hmhigh
  have hdlow := mul_le_mul_of_nonneg_right hnlow hunit.le
  have hdhigh := mul_le_mul_of_nonneg_right hnhigh hunit.le
  rcases lt_or_ge e (binade k - 2) with hfew | hfew
  · have hpower : (2 : ℚ) ^ e * 2 ^ 3 ≤ 2 ^ binade k := by
      rw [← zpow_natCast, ← zpow_add₀ two_ne_zero]
      exact zpow_le_zpow_right₀ one_le_two (by push_cast; omega)
    have hc := mul_le_mul_of_nonneg_right hmhigh (by positivity : (0 : ℚ) ≤ 2 ^ e)
    exact keepsAway_of_far (by positivity) (.inl (by linarith))
  rcases lt_or_ge (binade k + 1) e with hmany | hmany
  · have hpower : (2 : ℚ) ^ (binade k + 1) * 2 ≤ 2 ^ e := by
      rw [← zpow_add_one₀ two_ne_zero]
      exact zpow_le_zpow_right₀ one_le_two (by omega)
    have hc := mul_le_mul_of_nonneg_right hmlow (by positivity : (0 : ℚ) ≤ 2 ^ e)
    exact keepsAway_of_far (by positivity) (.inr (by linarith))
  · have hpair := isApart_units (k + 55).toNat (by omega) (e - (binade k - 2)).toNat (by omega)
    have hk55 : ((k + 55).toNat : ℤ) - 55 = k := by omega
    have he2 : binade k - 2 + ((e - (binade k - 2)).toNat : ℤ) = e := by omega
    rw [hk55, he2] at hpair
    exact (isApart_spec hpair (by omega) hn' hm').keepsAway

/-- A decimal of about twenty-four bits keeps away from all numbers of twenty-five bits times a
power of two. -/
theorem keepsAway {n m : ℕ} {k : ℤ} (e : ℤ) (hk : -55 ≤ k) (hk' : k ≤ 38) (hn : 0 < n)
    (hn' : n ≤ 2 ^ 24 + 1) (hm : 0 < m) (hm' : m < 2 ^ 25) :
    KeepsAway k (IsClosest n k) (n * 10 ^ k) (m * 2 ^ e) := by
  obtain ⟨i, hi, hi'⟩ : ∃ i, 2 ^ 23 ≤ n * 2 ^ i ∧ n * 2 ^ i ≤ 2 ^ 24 + 1 := by
    rcases lt_or_ge n (2 ^ 24) with hlt | hge
    · obtain ⟨i, hi, hi'⟩ := exists_scaled hn hlt
      exact ⟨i, hi, by omega⟩
    · exact ⟨0, by omega, by omega⟩
  obtain ⟨j, hj, hj'⟩ := exists_scaled hm hm'
  obtain ⟨hlt, hgt, heq⟩ := keepsAway_of_bits (e + i - j) hk hk' hi hi' hj hj'
  have hscale : (0 : ℚ) < 2 ^ i := by positivity
  have hd : ((n * 2 ^ i : ℕ) : ℚ) * 10 ^ k = n * 10 ^ k * 2 ^ i := by
    push_cast
    ring
  have hc : ((m * 2 ^ j : ℕ) : ℚ) * 2 ^ (e + i - j) = m * 2 ^ e * 2 ^ i := by
    rw [zpow_sub₀ two_ne_zero, zpow_add₀ two_ne_zero, zpow_natCast, zpow_natCast]
    push_cast
    field_simp
  rw [hd, hc] at hlt hgt heq
  refine ⟨fun h => ?_, fun h hclosest => ?_, fun h => heq (by rw [h])⟩
  · have := hlt (mul_lt_mul_of_pos_right h hscale)
    refine lt_of_mul_lt_mul_right (a := 2 ^ i) ?_ hscale.le
    linarith
  · have hclosest' : ¬IsClosest (n * 2 ^ i) k := by
      rintro ⟨hk, j, hij⟩
      exact hclosest ⟨hk, i + j, by rw [pow_add, ← mul_assoc, hij]⟩
    have := hgt (mul_lt_mul_of_pos_right h hscale) hclosest'
    refine lt_of_mul_lt_mul_right (a := 2 ^ i) ?_ hscale.le
    linarith

end VisualNovel.Decimal
