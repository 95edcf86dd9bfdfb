import Mathlib

/-!
# Rounding to a binary format

The operations of a binary format round an exact result once: the result is scaled so that its
whole part has as many bits as the format keeps, goes to the nearest whole number, the even one of
two (`IsNearest`), and is scaled back. `IsRounded` says this of exact rational numbers, and
`isRounded_roundWithAccuracy` and `isRounded_round` show it of the functions that round. The bits
shifted out on the way are remembered by two flags, whose meaning is `Represents`.
-/

namespace VisualNovel.Decimal

open Float.Model Float.Model.UnpackedFloat

/-- A power with a negative exponent is cleared by the opposite one. -/
theorem zpow_mul_toNat {b : ℚ} (hb : b ≠ 0) (e : ℤ) : b ^ e * b ^ (-e).toNat = b ^ e.toNat := by
  rw [← zpow_natCast, ← zpow_natCast, ← zpow_add₀ hb]
  congr 1
  omega

/-! ## The nearest whole number -/

/-- `n` is the whole number nearest to `q`, and even if another one is equally near. -/
structure IsNearest (q : ℚ) (n : ℕ) : Prop where
  near : |q - n| ≤ 1 / 2
  even : |q - n| = 1 / 2 → n % 2 = 0

/-- A whole number is the nearest to itself. -/
theorem isNearest_natCast (n : ℕ) : IsNearest n n := by
  constructor <;> norm_num

/-- Two different whole numbers are equally near only if they follow each other, and then one of
them is odd. -/
theorem IsNearest.unique {q : ℚ} {m n : ℕ} (hm : IsNearest q m) (hn : IsNearest q n) : m = n := by
  have hfar : ∀ {a b : ℕ}, IsNearest q a → IsNearest q b → ¬a < b := by
    intro a b ha hb hab
    have hstep : (a : ℚ) + 1 ≤ b := by exact_mod_cast hab
    have hbelow := (abs_le.1 ha.near).2
    have habove := (abs_le.1 hb.near).1
    have hb_eq : (b : ℚ) = a + 1 := by linarith
    have haeven := ha.even (by rw [abs_of_nonneg] <;> linarith)
    have hbeven := hb.even (by rw [abs_of_nonpos] <;> linarith)
    have : b = a + 1 := by exact_mod_cast hb_eq
    omega
  have h1 := hfar hm hn
  have h2 := hfar hn hm
  omega

/-! ## Shifting bits out -/

/-- The mantissa with the first bit after it, and whether any further bit is set, stand for `q`. -/
def Represents (em : ExtendedMantissa) (q : ℚ) : Prop :=
  match em.roundBit, em.stickyBit with
  | false, false => q = em.mantissa
  | false, true => (em.mantissa : ℚ) < q ∧ q < em.mantissa + 1 / 2
  | true, false => q = em.mantissa + 1 / 2
  | true, true => (em.mantissa : ℚ) + 1 / 2 < q ∧ q < em.mantissa + 1

/-- A mantissa without further bits stands for itself. -/
theorem represents_exact (m : ℕ) :
    Represents (ExtendedMantissa.ofMantissaAndAccuracy m .exact) m :=
  rfl

/-- A fraction is represented by its whole part and by how its rest compares to one half. -/
theorem represents_fraction (num : ℕ) {den : ℕ} (hden : 0 < den) :
    Represents (ExtendedMantissa.ofMantissaAndAccuracy (num / den)
      (accuracyOfFraction (num % den) den)) (num / den) := by
  have hpos : (0 : ℚ) < den := by exact_mod_cast hden
  have hnum : (num : ℚ) / den = (num / den : ℕ) + (num % den : ℕ) / den := by
    have hdiv : (num : ℚ) = den * (num / den : ℕ) + (num % den : ℕ) := by
      exact_mod_cast (Nat.div_add_mod num den).symm
    field_simp
    linarith
  have hrest : (num % den : ℕ) / (den : ℚ) < 1 := by
    rw [div_lt_one hpos]
    exact_mod_cast Nat.mod_lt num hden
  rw [accuracyOfFraction]
  split
  · next hzero =>
    rw [hnum, hzero, Nat.cast_zero, zero_div, add_zero]
    rfl
  · next hne =>
    have hsome : 0 < (num % den : ℕ) / (den : ℚ) :=
      div_pos (by exact_mod_cast Nat.pos_of_ne_zero hne) hpos
    rw [hnum]
    rcases lt_trichotomy (2 * (num % den)) den with hlt | heq | hgt
    · have hhalf : (num % den : ℕ) / (den : ℚ) < 1 / 2 := by
        rw [div_lt_iff₀ hpos]
        have : (2 : ℚ) * (num % den : ℕ) < den := by exact_mod_cast hlt
        linarith
      rw [Nat.compare_eq_lt.2 hlt]
      exact ⟨by dsimp only [ExtendedMantissa.ofMantissaAndAccuracy]; linarith,
        by dsimp only [ExtendedMantissa.ofMantissaAndAccuracy]; linarith⟩
    · have hhalf : (num % den : ℕ) / (den : ℚ) = 1 / 2 := by
        rw [div_eq_iff hpos.ne']
        have : (2 : ℚ) * (num % den : ℕ) = den := by exact_mod_cast heq
        linarith
      rw [Nat.compare_eq_eq.2 heq, hhalf]
      rfl
    · have hhalf : 1 / 2 < (num % den : ℕ) / (den : ℚ) := by
        rw [lt_div_iff₀ hpos]
        have : (den : ℚ) < 2 * (num % den : ℕ) := by exact_mod_cast hgt
        linarith
      rw [Nat.compare_eq_gt.2 hgt]
      exact ⟨by dsimp only [ExtendedMantissa.ofMantissaAndAccuracy]; linarith,
        by dsimp only [ExtendedMantissa.ofMantissaAndAccuracy]; linarith⟩

variable {em : ExtendedMantissa} {q : ℚ}

/-- The mantissa is the whole part of what it stands for. -/
theorem Represents.bounds (h : Represents em q) :
    (em.mantissa : ℚ) ≤ q ∧ q < em.mantissa + 1 := by
  obtain ⟨m, r, s⟩ := em
  cases r <;> cases s <;> simp only [Represents] at h <;> constructor <;> linarith

/-- Shifting out one bit halves what is represented. -/
theorem Represents.shiftRightOne (h : Represents em q) : Represents em.shiftRightOne (q / 2) := by
  obtain ⟨m, r, s⟩ := em
  have hhalves : (m : ℚ) = 2 * (m / 2 : ℕ) + (m % 2 : ℕ) := by
    exact_mod_cast (Nat.div_add_mod m 2).symm
  rcases Nat.mod_two_eq_zero_or_one m with hm | hm
  · have hbit : (m % 2 != 0) = false := by rw [hm]; rfl
    rw [hm, Nat.cast_zero, add_zero] at hhalves
    cases r <;> cases s <;> simp only [Represents] at h <;>
      simp only [Represents, ExtendedMantissa.shiftRightOne, hbit, Bool.or_false, Bool.or_true]
    · linarith
    all_goals constructor <;> linarith
  · have hbit : (m % 2 != 0) = true := by rw [hm]; rfl
    rw [hm, Nat.cast_one] at hhalves
    cases r <;> cases s <;> simp only [Represents] at h <;>
      simp only [Represents, ExtendedMantissa.shiftRightOne, hbit, Bool.or_false, Bool.or_true]
    · linarith
    all_goals constructor <;> linarith

/-- Shifting out bits divides what is represented by a power of two. -/
theorem Represents.shiftRight (h : Represents em q) (k : ℕ) :
    Represents (em >>> k) (q / 2 ^ k) := by
  show Represents (k.repeat ExtendedMantissa.shiftRightOne em) _
  induction k with
  | zero => simpa only [Nat.repeat, pow_zero, div_one] using h
  | succ k ih =>
    rw [pow_succ, ← div_div]
    exact ih.shiftRightOne

/-- The mantissa is rounded to the nearest whole number. -/
theorem Represents.isNearest (h : Represents em q) : IsNearest q em.roundedMantissa := by
  obtain ⟨m, r, s⟩ := em
  cases r <;> cases s <;>
    simp only [Represents, ExtendedMantissa.roundedMantissa, ExtendedMantissa.accuracy,
      Accuracy.roundToNearestEven] at h ⊢
  · rw [h]
    exact isNearest_natCast m
  · exact ⟨abs_le.2 ⟨by linarith, by linarith⟩, fun heq => by
      rw [abs_of_pos (by linarith)] at heq
      linarith⟩
  · rcases Nat.mod_two_eq_zero_or_one m with hm | hm <;> rw [hm]
    · exact ⟨abs_le.2 ⟨by push_cast; linarith, by push_cast; linarith⟩, fun _ => hm⟩
    · exact ⟨abs_le.2 ⟨by push_cast; linarith, by push_cast; linarith⟩, fun _ => by omega⟩
  · refine ⟨abs_le.2 ⟨by push_cast; linarith, by push_cast; linarith⟩, fun heq => ?_⟩
    rw [abs_of_neg (by push_cast; linarith)] at heq
    push_cast at heq
    linarith

/-! ## Rounding a result -/

variable {format : Format} {sign : Sign} {m : ℕ} {e : ℤ}

/-- A magnitude of the format; a mantissa with one bit too many is written with the next
exponent. -/
def carried (format : Format) (sign : Sign) (mantissa : ℕ) (exponent : ℤ) : UnpackedFloat :=
  if h : mantissa = 0 then .zero sign
  else if mantissa < 2 ^ format.mantissaBits then .finite sign mantissa exponent (by omega)
  else .finite sign (2 ^ format.mantissaBitsWithoutImplicit) (exponent + 1) (Nat.two_pow_pos _)

/-- A mantissa that fits the format stays as it is. -/
theorem carried_of_lt (sign : Sign) (e : ℤ) (hm : 0 < m) (h : m < 2 ^ format.mantissaBits) :
    carried format sign m e = .finite sign m e hm := by
  rw [carried, dif_neg hm.ne', if_pos h]

/-- A mantissa with one bit too many is a power of two. -/
theorem carried_two_pow (format : Format) (sign : Sign) (e : ℤ) :
    carried format sign (2 ^ format.mantissaBits) e
      = .finite sign (2 ^ format.mantissaBitsWithoutImplicit) (e + 1) (Nat.two_pow_pos _) := by
  rw [carried, dif_neg (by positivity), if_neg (lt_irrefl _)]

/-- `result` is what `v` is rounded to: `v` has as many bits before the point of the rounding as
the format keeps, or fewer when the exponent is the least one. -/
def IsRounded (format : Format) (sign : Sign) (v : ℚ) (result : UnpackedFloat) : Prop :=
  ∃ (exponent : ℤ) (mantissa : ℕ), format.minExponent ≤ exponent ∧
    v < 2 ^ (exponent + format.mantissaBits) ∧
    (exponent = format.minExponent ∨ 2 ^ (exponent + format.mantissaBits - 1) ≤ v) ∧
    IsNearest (v / 2 ^ exponent) mantissa ∧ result = carried format sign mantissa exponent

/-- A magnitude that fits into the format stays as it is. -/
theorem shiftToTargetExponent_of_lt (hm : m < 2 ^ format.mantissaBits)
    (he : format.minExponent ≤ e) :
    shiftToTargetExponent format m e .exact = (⟨m, false, false⟩, e) := by
  have hlog : m.log2 + 1 ≤ format.mantissaBits := by
    by_cases h0 : m = 0
    · rw [h0, Nat.log2_zero]
      exact Nat.succ_le_of_lt (by simp only [Format.mantissaBits]; omega)
    · exact (Nat.log2_lt h0).2 hm
  have htarget : format.targetExponent (totalExponent m e) ≤ e := by
    simp only [Format.targetExponent, totalExponent]
    omega
  have hshift : (format.targetExponent (totalExponent m e) - e).toNat = 0 := by omega
  simp only [shiftToTargetExponent, shiftToExponent, hshift]
  simp only [HShiftRight.hShiftRight, Nat.repeat, ExtendedMantissa.ofMantissaAndAccuracy,
    Nat.cast_zero, add_zero]

/-- A mantissa of one bit too many loses its last bit, which is zero. -/
theorem shiftToTargetExponent_two_pow (he : format.minExponent ≤ e) :
    shiftToTargetExponent format (2 ^ format.mantissaBits) e .exact
      = (⟨2 ^ format.mantissaBitsWithoutImplicit, false, false⟩, e + 1) := by
  have htarget : format.targetExponent (totalExponent (2 ^ format.mantissaBits) e) - e = 1 := by
    simp only [Format.targetExponent, totalExponent, Nat.log2_two_pow]
    omega
  have hhalf : 2 ^ format.mantissaBits / 2 = 2 ^ format.mantissaBitsWithoutImplicit := by
    rw [Format.mantissaBits, Nat.add_comm, Nat.pow_succ, Nat.mul_div_cancel _ (by decide)]
  have heven : 2 ^ format.mantissaBits % 2 = 0 := by
    rw [Format.mantissaBits, Nat.add_comm, Nat.pow_succ, Nat.mul_mod_left]
  simp only [shiftToTargetExponent, shiftToExponent, htarget]
  simp only [HShiftRight.hShiftRight, Int.toNat_one, Nat.repeat, ExtendedMantissa.shiftRightOne,
    ExtendedMantissa.ofMantissaAndAccuracy, hhalf, heven]
  rfl

/-- What is shifted again after rounding is a magnitude of the format. -/
theorem shiftToTargetExponent_carried (hm : m ≤ 2 ^ format.mantissaBits)
    (he : format.minExponent ≤ e) :
    (let (final, exponent) := shiftToTargetExponent format m e .exact
      if h : final.mantissa = 0 then UnpackedFloat.zero sign
      else .finite sign final.mantissa exponent (Nat.pos_of_ne_zero h))
      = carried format sign m e := by
  rcases Nat.lt_or_eq_of_le hm with hlt | heq
  · rw [shiftToTargetExponent_of_lt hlt he, carried]
    simp only [if_pos hlt]
  · subst heq
    rw [shiftToTargetExponent_two_pow he, carried_two_pow]
    exact dif_neg (by positivity)

/-- The mantissa is taken over, however accurate it is. -/
theorem mantissa_ofMantissaAndAccuracy (m : ℕ) (accuracy : Accuracy) :
    (ExtendedMantissa.ofMantissaAndAccuracy m accuracy).mantissa = m := by
  rcases accuracy with _ | (_ | _ | _) <;> rfl

/-- The bits of the whole part tell between which powers of two a number is. -/
theorem bounds_of_represents {accuracy : Accuracy} (hm : 0 < m) (e : ℤ)
    (hq : Represents (ExtendedMantissa.ofMantissaAndAccuracy m accuracy) q) :
    (2 : ℚ) ^ (m.log2 + e) ≤ q * 2 ^ e ∧ q * 2 ^ e < (2 : ℚ) ^ (m.log2 + 1 + e) := by
  have hbounds := hq.bounds
  rw [mantissa_ofMantissaAndAccuracy] at hbounds
  constructor
  · rw [zpow_add₀ two_ne_zero, zpow_natCast]
    gcongr
    exact le_trans (by exact_mod_cast Nat.log2_self_le hm.ne') hbounds.1
  · rw [zpow_add₀ two_ne_zero]
    gcongr
    exact lt_of_lt_of_le hbounds.2 (by exact_mod_cast Nat.lt_log2_self)

/-- A number below the next power of two is not rounded beyond it. -/
theorem IsNearest.le_of_lt {n p : ℕ} (h : IsNearest q n) (hq : q < 2 ^ p) : n ≤ 2 ^ p := by
  have hnear := (abs_le.1 h.near).1
  have : (n : ℚ) < (2 ^ p : ℕ) + 1 := by
    push_cast
    linarith
  exact Nat.lt_succ_iff.1 (by exact_mod_cast this)

/-- A whole part `m` and what follows it, in units of `2 ^ e`, are rounded once. -/
theorem isRounded_roundWithAccuracy (sign : Sign) {accuracy : Accuracy}
    (hq : Represents (ExtendedMantissa.ofMantissaAndAccuracy m accuracy) q) (hm : 0 < m)
    (he : e ≤ format.targetExponent (totalExponent m e)) :
    IsRounded format sign (q * 2 ^ e) (roundWithAccuracy format sign m e accuracy) := by
  obtain ⟨k, hk⟩ : ∃ k : ℕ, format.targetExponent (totalExponent m e) = e + k :=
    ⟨_, by rw [Int.toNat_of_nonneg (sub_nonneg.2 he), add_sub_cancel]⟩
  have hfirst : shiftToTargetExponent format m e accuracy
      = (ExtendedMantissa.ofMantissaAndAccuracy m accuracy >>> k, e + k) := by
    have hshift : (format.targetExponent (totalExponent m e) - e).toNat = k := by omega
    simp only [shiftToTargetExponent, shiftToExponent, hshift]
  have htarget : e + k = max (m.log2 + 1 + e - format.mantissaBits) format.minExponent := hk.symm
  obtain ⟨hlow, hhigh⟩ := bounds_of_represents hm e hq
  have hfits : q * 2 ^ e < (2 : ℚ) ^ (e + k + format.mantissaBits) :=
    lt_of_lt_of_le hhigh (zpow_le_zpow_right₀ one_le_two (by omega))
  have hscaled : q * 2 ^ e / 2 ^ (e + k) = q / 2 ^ k := by
    rw [zpow_add₀ two_ne_zero, zpow_natCast]
    field_simp
  have hnearest := (hq.shiftRight k).isNearest
  have hcarry := hnearest.le_of_lt (p := format.mantissaBits) <| by
    rwa [← hscaled, div_lt_iff₀' (by positivity), ← zpow_natCast, ← zpow_add₀ two_ne_zero]
  refine ⟨e + k, _, by omega, hfits, ?_, hscaled ▸ hnearest, ?_⟩
  · rcases max_choice (m.log2 + 1 + e - format.mantissaBits : ℤ) format.minExponent with h | h
    · exact .inr (le_trans (zpow_le_zpow_right₀ one_le_two (by omega)) hlow)
    · exact .inl (htarget.trans h)
  · rw [← shiftToTargetExponent_carried hcarry (by omega)]
    simp only [roundWithAccuracy, hfirst]

/-- A magnitude is rounded after its exponent is lowered to where the format ends. -/
theorem isRounded_round (format : Format) (sign : Sign) (hm : 0 < m) (e : ℤ) :
    IsRounded format sign (m * 2 ^ e) (UnpackedFloat.round format sign m e) := by
  obtain ⟨k, hk⟩ : ∃ k : ℕ, (e - format.targetExponent (totalExponent m e)).toNat = k := ⟨_, rfl⟩
  have hlog : (m <<< k).log2 = m.log2 + k := by
    rw [Nat.shiftLeft_eq]
    refine (Nat.log2_eq_iff (by positivity)).2 ⟨?_, ?_⟩
    · rw [pow_add]
      exact Nat.mul_le_mul_right _ (Nat.log2_self_le hm.ne')
    · rw [Nat.add_right_comm, pow_add]
      exact Nat.mul_lt_mul_of_pos_right Nat.lt_log2_self (by positivity)
  have htotal : totalExponent (m <<< k) (e - k) = totalExponent m e := by
    simp only [totalExponent, hlog]
    omega
  have hvalue : (m <<< k : ℕ) * (2 : ℚ) ^ (e - k) = m * 2 ^ e := by
    rw [Nat.shiftLeft_eq, zpow_sub₀ two_ne_zero, zpow_natCast]
    push_cast
    field_simp
  have htarget : e - k ≤ format.targetExponent (totalExponent (m <<< k) (e - k)) := by
    rw [htotal]
    omega
  have h := isRounded_roundWithAccuracy sign (represents_exact (m <<< k))
    (by rw [Nat.shiftLeft_eq]; positivity) htarget
  simpa only [UnpackedFloat.round, decreaseExponent, hk, hvalue] using h

end VisualNovel.Decimal
