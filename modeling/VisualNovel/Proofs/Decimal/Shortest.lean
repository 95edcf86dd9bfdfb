import VisualNovel.Proofs.Decimal.Interval

/-!
# The shortest decimal

The shortest decimal of a magnitude is found on the first grid of powers of ten on which a
neighbour of the magnitude is in its interval. The tests, which are made in whole numbers, are
those of the interval (`Magnitude.accepts_iff`), and at the latest nine places below the first
digit there is such a neighbour (`Magnitude.exists_onGrid?`), so the search does not run out of
grids (`Magnitude.shortest_spec`). Since the nearer neighbour is taken, a decimal on a grid with
narrow spaces keeps away from both ends of the interval (`Magnitude.margins_of_onGrid?`).
-/

namespace VisualNovel.Decimal

/-- The number that a decimal stands for. -/
def Digits.value (d : Digits) : ℚ :=
  d.digits * 10 ^ d.exponent

/-! ## The length of a number -/

/-- A number is at least the power of ten with as many digits. -/
theorem pow_length_toDigits_le {n : ℕ} (hn : 0 < n) :
    10 ^ ((Nat.toDigits 10 n).length - 1) ≤ n := by
  rcases Nat.eq_zero_or_pos ((Nat.toDigits 10 n).length - 1) with h | h
  · rw [h, pow_zero]
    exact hn
  · by_contra hlt
    have := (Nat.length_toDigits_le_iff (by decide) h).2 (Nat.lt_of_not_le hlt)
    omega

/-- A number is below the first power of ten with more digits. -/
theorem lt_pow_length_toDigits (n : ℕ) : n < 10 ^ (Nat.toDigits 10 n).length :=
  (Nat.length_toDigits_le_iff (by decide) Nat.length_toDigits_pos).1 le_rfl

namespace Magnitude

variable {x : Magnitude} {d : Digits}

/-! ## Whole numbers of quarter units -/

/-- The shared denominator is positive. -/
theorem scale_pos (x : Magnitude) : 0 < x.scale :=
  Nat.pow_pos (by decide)

/-- A count of quarter units is a numerator over the shared denominator. -/
theorem quarters_eq (x : Magnitude) (n : ℕ) :
    (x.quarters n : ℚ) = n * 2 ^ (x.exponent - 2) * x.scale := by
  have hscale : x.scale = 2 ^ (-(x.exponent - 2)).toNat := by
    rw [neg_sub]
    rfl
  have hquarters : x.quarters n = n * 2 ^ (x.exponent - 2).toNat := rfl
  rw [hquarters, hscale, mul_assoc]
  push_cast
  rw [zpow_mul_toNat two_ne_zero]

/-- The magnitude over the shared denominator. -/
theorem middle_eq (x : Magnitude) : (x.middle : ℚ) = x.value * x.scale := by
  rw [middle, quarters_eq, value, zpow_sub₀ two_ne_zero]
  push_cast
  ring

/-- The lower end over the shared denominator. -/
theorem lower_eq (hpos : 0 < x.significand) : (x.lower : ℚ) = x.lowEnd * x.scale := by
  have hreach := x.reach_bounds
  have hlower : x.lower = x.quarters (4 * x.significand - x.reach) := rfl
  rw [hlower, quarters_eq, lowEnd, zpow_sub₀ two_ne_zero, Nat.cast_sub (by omega)]
  push_cast
  ring

/-- The upper end over the shared denominator. -/
theorem upper_eq (x : Magnitude) : (x.upper : ℚ) = x.highEnd * x.scale := by
  rw [upper, quarters_eq, highEnd, zpow_sub₀ two_ne_zero]
  push_cast
  ring

/-- A decimal over the shared denominator. -/
theorem scaled_eq (x : Magnitude) (d : Digits) :
    ((d.digits * Nat.pow 10 d.exponent.toNat * x.scale : ℕ) : ℚ)
      = d.value * (x.scale * Nat.pow 10 (-d.exponent).toNat : ℕ) := by
  have hpow : ∀ k, Nat.pow 10 k = 10 ^ k := fun _ => rfl
  simp only [hpow]
  push_cast
  rw [Digits.value, ← zpow_mul_toNat (by norm_num : (10 : ℚ) ≠ 0)]
  ring

section
variable {n : ℕ} {c : ℚ} (hn : (n : ℚ) = c * x.scale)
include hn

/-- A decimal is compared in whole numbers with what lies below it. -/
theorem le_scaled_iff : n * Nat.pow 10 (-d.exponent).toNat
    ≤ d.digits * Nat.pow 10 d.exponent.toNat * x.scale ↔ c ≤ d.value := by
  have hcommon : (0 : ℚ) < (x.scale * Nat.pow 10 (-d.exponent).toNat : ℕ) := by
    exact_mod_cast Nat.mul_pos x.scale_pos (Nat.pow_pos (by decide))
  rw [← Nat.cast_le (α := ℚ), scaled_eq, Nat.cast_mul n, hn, mul_assoc, ← Nat.cast_mul,
    mul_le_mul_iff_left₀ hcommon]

/-- A decimal is compared in whole numbers with what lies above it. -/
theorem scaled_le_iff : d.digits * Nat.pow 10 d.exponent.toNat * x.scale
    ≤ n * Nat.pow 10 (-d.exponent).toNat ↔ d.value ≤ c := by
  have hcommon : (0 : ℚ) < (x.scale * Nat.pow 10 (-d.exponent).toNat : ℕ) := by
    exact_mod_cast Nat.mul_pos x.scale_pos (Nat.pow_pos (by decide))
  rw [← Nat.cast_le (α := ℚ), scaled_eq, Nat.cast_mul n, hn, mul_assoc, ← Nat.cast_mul,
    mul_le_mul_iff_left₀ hcommon]

end

/-- The test of a decimal in whole numbers is that of its interval. -/
theorem accepts_iff (hpos : 0 < x.significand) : x.accepts d = true ↔ x.Covers d.value := by
  rw [accepts, Covers]
  split
  · rw [Bool.and_eq_true, decide_eq_true_eq, decide_eq_true_eq, le_scaled_iff (lower_eq hpos),
      scaled_le_iff x.upper_eq]
  · rw [Bool.and_eq_true, decide_eq_true_eq, decide_eq_true_eq, ← not_le, ← not_le,
      scaled_le_iff (lower_eq hpos), le_scaled_iff x.upper_eq, not_le, not_le]

/-! ## Grids -/

/-- The magnitude over the denominator of a grid. -/
theorem numerator_eq (x : Magnitude) (e : ℤ) : ((x.middle * Nat.pow 10 (-e).toNat : ℕ) : ℚ)
    = x.value * (x.scale * Nat.pow 10 (-e).toNat : ℕ) := by
  rw [Nat.cast_mul, middle_eq, Nat.cast_mul]
  ring

/-- A space of a grid over its denominator. -/
theorem denominator_eq (x : Magnitude) (e : ℤ) : ((x.scale * Nat.pow 10 e.toNat : ℕ) : ℚ)
    = 10 ^ e * (x.scale * Nat.pow 10 (-e).toNat : ℕ) := by
  have hpow : ∀ k, Nat.pow 10 k = 10 ^ k := fun _ => rfl
  simp only [hpow]
  push_cast
  rw [← zpow_mul_toNat (by norm_num : (10 : ℚ) ≠ 0)]
  ring

/-- The denominator of a grid is positive. -/
theorem denominator_pos (x : Magnitude) (e : ℤ) : 0 < x.scale * Nat.pow 10 e.toNat :=
  Nat.mul_pos x.scale_pos (Nat.pow_pos (by decide))

/-- A multiple of a power of ten and the next one enclose the magnitude. -/
theorem roundDown_bounds (x : Magnitude) (e : ℤ) :
    (x.roundDown e).value ≤ x.value ∧ x.value < (x.roundDown e).value + 10 ^ e := by
  have hcommon : (0 : ℚ) < (x.scale * Nat.pow 10 (-e).toNat : ℕ) := by
    exact_mod_cast x.denominator_pos (-e)
  have hdown : (((x.roundDown e).digits * (x.scale * Nat.pow 10 e.toNat) : ℕ) : ℚ)
      ≤ (x.middle * Nat.pow 10 (-e).toNat : ℕ) := by
    exact_mod_cast Nat.div_mul_le_self _ _
  have hup : ((x.middle * Nat.pow 10 (-e).toNat : ℕ) : ℚ)
      < ((x.scale * Nat.pow 10 e.toNat) * ((x.roundDown e).digits + 1) : ℕ) := by
    exact_mod_cast Nat.lt_mul_div_succ _ (x.denominator_pos e)
  rw [numerator_eq, Nat.cast_mul, denominator_eq, ← mul_assoc] at hdown
  rw [numerator_eq, Nat.cast_mul (x.scale * Nat.pow 10 e.toNat), denominator_eq x e,
    mul_right_comm] at hup
  refine ⟨le_of_mul_le_mul_right hdown hcommon, ?_⟩
  refine (lt_of_mul_lt_mul_right hup hcommon.le).trans_eq ?_
  show (10 : ℚ) ^ e * ((x.roundDown e).digits + 1 : ℕ) = (x.roundDown e).digits * 10 ^ e + 10 ^ e
  push_cast
  ring

/-- Twice the way down to the grid is compared to a space of it. -/
theorem compareToHalf_spec (x : Magnitude) (e : ℤ) :
    match x.compareToHalf (x.roundDown e) with
    | .lt => 2 * (x.value - (x.roundDown e).value) < 10 ^ e
    | .eq => 2 * (x.value - (x.roundDown e).value) = 10 ^ e
    | .gt => 10 ^ e < 2 * (x.value - (x.roundDown e).value) := by
  have hcommon : (0 : ℚ) < (x.scale * Nat.pow 10 (-e).toNat : ℕ) := by
    exact_mod_cast x.denominator_pos (-e)
  have hdown : (x.roundDown e).digits * (x.scale * Nat.pow 10 e.toNat)
      ≤ x.middle * Nat.pow 10 (-e).toNat := Nat.div_mul_le_self _ _
  obtain ⟨left, hleft⟩ : ∃ left, 2 * (x.middle * Nat.pow 10 (-e).toNat
    - (x.roundDown e).digits * (x.scale * Nat.pow 10 e.toNat)) = left := ⟨_, rfl⟩
  obtain ⟨space, hspace⟩ : ∃ space, x.scale * Nat.pow 10 e.toNat = space := ⟨_, rfl⟩
  have hleft' : (left : ℚ) = 2 * (x.value - (x.roundDown e).value)
      * (x.scale * Nat.pow 10 (-e).toNat : ℕ) := by
    rw [← hleft, Nat.cast_mul, Nat.cast_sub hdown, numerator_eq,
      Nat.cast_mul (x.roundDown e).digits, denominator_eq x e]
    show _ = 2 * (x.value - (x.roundDown e).digits * 10 ^ e) * _
    push_cast
    ring
  have hspace' : (space : ℚ) = 10 ^ e * (x.scale * Nat.pow 10 (-e).toNat : ℕ) := by
    rw [← hspace, denominator_eq]
  have hcompare : x.compareToHalf (x.roundDown e) = compare left space := by
    rw [← hleft, ← hspace]
    rfl
  rw [hcompare]
  rcases lt_trichotomy left space with h | h | h
  · rw [Nat.compare_eq_lt.2 h]
    have h : (left : ℚ) < space := by exact_mod_cast h
    rw [hleft', hspace'] at h
    exact lt_of_mul_lt_mul_right h hcommon.le
  · rw [Nat.compare_eq_eq.2 h]
    have h : (left : ℚ) = space := by exact_mod_cast h
    rw [hleft', hspace'] at h
    exact mul_right_cancel₀ hcommon.ne' h
  · rw [Nat.compare_eq_gt.2 h]
    have h : (space : ℚ) < left := by exact_mod_cast h
    rw [hleft', hspace'] at h
    exact lt_of_mul_lt_mul_right h hcommon.le

/-- The next point of a grid is one power of ten further. -/
theorem value_above (x : Magnitude) (e : ℤ) :
    Digits.value ⟨(x.roundDown e).digits + 1, e⟩ = (x.roundDown e).value + 10 ^ e := by
  show ((x.roundDown e).digits + 1 : ℕ) * (10 : ℚ) ^ e = (x.roundDown e).digits * 10 ^ e + 10 ^ e
  push_cast
  ring

/-- The neighbour that is taken is in the interval, and the other one is not nearer to the
magnitude or not in the interval. -/
theorem cases_of_onGrid? (hpos : 0 < x.significand) {e : ℤ} (h : x.onGrid? e = some d) :
    d.exponent = e ∧ x.Covers d.value ∧
      (d.value = (x.roundDown e).value ∧ (2 * (x.value - (x.roundDown e).value) ≤ 10 ^ e ∨
          ¬x.Covers ((x.roundDown e).value + 10 ^ e)) ∨
        d.value = (x.roundDown e).value + 10 ^ e ∧
          (10 ^ e ≤ 2 * (x.value - (x.roundDown e).value) ∨ ¬x.Covers (x.roundDown e).value)) := by
  have habove := accepts_iff (d := ⟨(x.roundDown e).digits + 1, e⟩) hpos
  have hbelow := accepts_iff (d := x.roundDown e) hpos
  have hhalf := x.compareToHalf_spec e
  rw [value_above] at habove
  rw [onGrid?] at h
  split at h
  · cases h
  · next hin hout =>
    cases h
    rw [hin] at hbelow
    rw [hout] at habove
    exact ⟨rfl, hbelow.1 rfl, .inl ⟨rfl, .inr fun hcovers => nomatch habove.2 hcovers⟩⟩
  · next hout hin =>
    cases h
    rw [hout] at hbelow
    rw [hin, ← value_above] at habove
    exact ⟨rfl, habove.1 rfl,
      .inr ⟨value_above x e, .inr fun hcovers => nomatch hbelow.2 hcovers⟩⟩
  · next hin hin' =>
    have hbelow := hbelow.1 hin
    have habove := habove.1 hin'
    split at h
    · next hlt =>
      rw [hlt] at hhalf
      cases h
      exact ⟨rfl, hbelow, .inl ⟨rfl, .inl hhalf.le⟩⟩
    · next hgt =>
      rw [hgt] at hhalf
      cases h
      rw [← value_above] at habove
      exact ⟨rfl, habove, .inr ⟨value_above x e, .inl hhalf.le⟩⟩
    · next heq =>
      rw [heq] at hhalf
      split at h <;> cases h
      · exact ⟨rfl, hbelow, .inl ⟨rfl, .inl hhalf.le⟩⟩
      · rw [← value_above] at habove
        exact ⟨rfl, habove, .inr ⟨value_above x e, .inl hhalf.ge⟩⟩

/-- Where the spaces of the grid are narrow, the decimal keeps away from the ends of the interval:
it is either the nearer neighbour, or the other one is beyond an end and leaves it no room. -/
theorem margins_of_onGrid? (hpos : 0 < x.significand) {e : ℤ} {η : ℚ} (h : x.onGrid? e = some d)
    (hη : 0 ≤ η) (hroom : 10 ^ e / 2 + η ≤ x.value - x.lowEnd) :
    x.lowEnd + η ≤ d.value ∧ d.value + η ≤ x.highEnd := by
  obtain ⟨hdown, hup⟩ := x.roundDown_bounds e
  have hends : x.value - x.lowEnd ≤ x.highEnd - x.value := by
    have hreach : (x.reach : ℚ) ≤ 2 := by exact_mod_cast x.reach_bounds.2
    have hunit : (0 : ℚ) < 2 ^ x.exponent := by positivity
    rw [value, lowEnd, highEnd]
    nlinarith
  have hspace : (0 : ℚ) < 10 ^ e := by positivity
  obtain ⟨-, -, ⟨hd, hside⟩ | ⟨hd, hside⟩⟩ := cases_of_onGrid? hpos h
  · rw [hd]
    rcases hside with hnear | hout
    · constructor <;> linarith
    · have hbeyond : x.highEnd ≤ (x.roundDown e).value + 10 ^ e := by
        by_contra hlt
        exact hout (covers_of_lt (by linarith) (by linarith))
      constructor <;> linarith
  · rw [hd]
    rcases hside with hnear | hout
    · constructor <;> linarith
    · have hbeyond : (x.roundDown e).value ≤ x.lowEnd := by
        by_contra hlt
        exact hout (covers_of_lt (by linarith) (by linarith))
      constructor <;> linarith

/-! ## The search -/

/-- On a grid whose spaces are at most a quarter of the unit, the lower neighbour is in the
interval. -/
theorem exists_onGrid? (hpos : 0 < x.significand) {e : ℤ} (he : 10 ^ e ≤ (2 : ℚ) ^ x.exponent / 4) :
    ∃ d, x.onGrid? e = some d := by
  obtain ⟨hdown, hup⟩ := x.roundDown_bounds e
  have hreach : (1 : ℚ) ≤ x.reach := by exact_mod_cast x.reach_bounds.1
  have hunit : (0 : ℚ) < 2 ^ x.exponent := by positivity
  have hlow : x.lowEnd ≤ x.value - 2 ^ x.exponent / 4 := by
    rw [value, lowEnd]
    nlinarith
  have hhigh : x.value < x.highEnd := by
    rw [value, highEnd]
    nlinarith
  have hbelow : x.accepts (x.roundDown e) = true :=
    (accepts_iff hpos).2 (covers_of_lt (by linarith) (by linarith))
  cases hgrid : x.onGrid? e with
  | some d => exact ⟨d, rfl⟩
  | none =>
    rw [onGrid?] at hgrid
    split at hgrid
    · next hout _ =>
      rw [hbelow] at hout
      cases hout
    · cases hgrid
    · cases hgrid
    · split at hgrid <;> cases hgrid

/-- The search ends on a grid that is no finer than any on which there is a neighbour. -/
theorem search_spec {k : ℤ} (hk : ∃ d, x.onGrid? k = some d) {e : ℤ} (count : ℕ) (hke : k ≤ e)
    (hcount : e < k + count) : ∃ e', k ≤ e' ∧ e' ≤ e ∧ x.onGrid? e' = some (x.search e count) := by
  induction count generalizing e with
  | zero => omega
  | succ count ih =>
    rw [search]
    split
    · next d hd => exact ⟨e, hke, le_rfl, hd⟩
    · next hnone =>
      obtain ⟨d, hd⟩ := hk
      have hne : k ≠ e := by
        rintro rfl
        rw [hd] at hnone
        cases hnone
      obtain ⟨e', hk', he', h⟩ := ih (e := e - 1) (by omega) (by push_cast at hcount; omega)
      exact ⟨e', hk', by omega, h⟩

/-- The digits before the point tell between which powers of ten the magnitude is. -/
theorem integerDigits_bounds (hpos : 0 < x.significand) :
    10 ^ (x.integerDigits - 2) < x.value ∧ x.value < 10 ^ (x.integerDigits + 1) := by
  have hmiddle : 0 < x.middle := by
    have h : (0 : ℚ) < x.middle := by
      have := x.scale_pos
      rw [middle_eq, value]
      positivity
    exact_mod_cast h
  obtain ⟨shift, hshift⟩ : ∃ shift : ℤ, ((Nat.toDigits 10 x.middle).length : ℤ)
      - (Nat.toDigits 10 x.scale).length = shift := ⟨_, rfl⟩
  have hdigits : x.integerDigits = shift + 1 ∨ x.integerDigits = shift := by
    rw [integerDigits, hshift]
    split
    · exact .inl rfl
    · exact .inr rfl
  have hscale : (0 : ℚ) < x.scale := by exact_mod_cast x.scale_pos
  have hlength := @Nat.length_toDigits_pos 10 x.middle
  have hlength' := @Nat.length_toDigits_pos 10 x.scale
  have hlow : 10 ^ (shift - 1) < x.value := by
    refine lt_of_mul_lt_mul_right ?_ hscale.le
    calc (10 : ℚ) ^ (shift - 1) * x.scale
        < 10 ^ (shift - 1) * 10 ^ (Nat.toDigits 10 x.scale).length := by
          gcongr
          exact_mod_cast lt_pow_length_toDigits x.scale
      _ = 10 ^ ((Nat.toDigits 10 x.middle).length - 1) := by
          rw [← zpow_natCast, ← zpow_natCast, ← zpow_add₀ (by norm_num)]
          congr 1
          omega
      _ ≤ x.middle := by exact_mod_cast pow_length_toDigits_le hmiddle
      _ = x.value * x.scale := middle_eq x
  have hhigh : x.value < 10 ^ (shift + 1) := by
    refine lt_of_mul_lt_mul_right ?_ hscale.le
    calc x.value * x.scale = x.middle := (middle_eq x).symm
      _ < 10 ^ (Nat.toDigits 10 x.middle).length := by
          exact_mod_cast lt_pow_length_toDigits x.middle
      _ = 10 ^ (shift + 1) * 10 ^ ((Nat.toDigits 10 x.scale).length - 1) := by
          rw [← zpow_natCast, ← zpow_natCast, ← zpow_add₀ (by norm_num)]
          congr 1
          omega
      _ ≤ 10 ^ (shift + 1) * x.scale := by
          gcongr
          exact_mod_cast pow_length_toDigits_le x.scale_pos
  rcases hdigits with h | h <;> rw [h]
  · exact ⟨lt_of_le_of_lt (zpow_le_zpow_right₀ (by norm_num) (by omega)) hlow,
      hhigh.trans_le (zpow_le_zpow_right₀ (by norm_num) (by omega))⟩
  · exact ⟨lt_of_le_of_lt (zpow_le_zpow_right₀ (by norm_num) (by omega)) hlow,
      hhigh.trans_le (zpow_le_zpow_right₀ (by norm_num) (by omega))⟩

/-- The shortest decimal is on a grid that is not too fine. -/
theorem shortest_spec (hx : x.IsSingle) :
    ∃ e, x.onGrid? e = some x.shortest ∧ -55 ≤ e ∧ x.value < 10 ^ (e + 11) := by
  obtain ⟨hlow, hhigh⟩ := integerDigits_bounds hx.pos
  have hvalue : x.value < 2 ^ 24 * 2 ^ x.exponent := by
    rw [value]
    gcongr
    exact_mod_cast hx.lt
  have hleast : 2 ^ (-149 : ℤ) ≤ x.value := by
    rw [value]
    have h1 : (1 : ℚ) ≤ x.significand := by exact_mod_cast hx.pos
    have h2 : (2 : ℚ) ^ (-149 : ℤ) ≤ 2 ^ x.exponent := zpow_le_zpow_right₀ one_le_two hx.least
    exact h2.trans (le_mul_of_one_le_left (by positivity) h1)
  have hfine : (10 : ℚ) ^ (x.integerDigits - 10) ≤ 2 ^ x.exponent / 4 := by
    have : (10 : ℚ) ^ (x.integerDigits - 2) = 10 ^ (x.integerDigits - 10) * 10 ^ 8 := by
      rw [← zpow_natCast, ← zpow_add₀ (by norm_num)]
      congr 1
      omega
    have hunit : (0 : ℚ) < 2 ^ x.exponent := by positivity
    rw [this] at hlow
    linarith
  obtain ⟨e, hfrom, hto, he⟩ := search_spec (exists_onGrid? hx.pos hfine)
    (e := x.integerDigits - 1) 17 (by omega) (by omega)
  have hhigh' : x.value < 10 ^ (e + 11) :=
    hhigh.trans_le (zpow_le_zpow_right₀ (by norm_num) (by omega))
  refine ⟨e, he, ?_, hhigh'⟩
  have hpower : (10 : ℚ) ^ (-45 : ℤ) < 10 ^ (e + 11) :=
    lt_of_lt_of_le (by norm_num) (hleast.trans hhigh'.le)
  have := (zpow_lt_zpow_iff_right₀ (by norm_num)).1 hpower
  omega

/-- The shortest decimal is in the interval, and neither its digits nor its exponent get out of
hand. -/
theorem shortest_bounds (hx : x.IsSingle) : x.Covers x.shortest.value ∧
    -55 ≤ x.shortest.exponent ∧ 0 < x.shortest.digits ∧ x.shortest.digits < 2 ^ 53 := by
  obtain ⟨e, hgrid, hfrom, hhigh⟩ := shortest_spec hx
  obtain ⟨he, hcovers, -⟩ := cases_of_onGrid? hx.pos hgrid
  obtain ⟨hlow, hup⟩ := hcovers.le
  have hunit : (0 : ℚ) < 10 ^ x.shortest.exponent := by positivity
  refine ⟨hcovers, he ▸ hfrom, ?_, ?_⟩
  · have hpos : 0 < x.shortest.value := hx.lowEnd_pos.trans_le hlow
    rw [Digits.value] at hpos
    exact_mod_cast (pos_iff_pos_of_mul_pos hpos).2 hunit
  · have hvalue : x.shortest.value < 2 * 10 ^ 11 * 10 ^ x.shortest.exponent := by
      rw [← he, zpow_add₀ (by norm_num)] at hhigh
      have hpower : (10 : ℚ) ^ (11 : ℤ) = 10 ^ 11 := by norm_cast
      rw [hpower] at hhigh
      linarith [hx.highEnd_le]
    have hdigits : (x.shortest.digits : ℚ) < 2 * 10 ^ 11 := lt_of_mul_lt_mul_right hvalue hunit.le
    have : x.shortest.digits < 2 * 10 ^ 11 := by exact_mod_cast hdigits
    omega

/-- A decimal of more than twenty-four bits is on a grid so fine that it keeps away from both
ends. -/
theorem margins_shortest (hx : x.IsSingle) (hlong : 2 ^ 24 + 2 ≤ x.shortest.digits) :
    x.lowEnd + 259 / 2 ^ 60 * x.shortest.value ≤ x.shortest.value ∧
      x.shortest.value + 259 / 2 ^ 60 * x.shortest.value ≤ x.highEnd := by
  obtain ⟨e, hgrid, -⟩ := shortest_spec hx
  obtain ⟨he, hcovers, -⟩ := cases_of_onGrid? hx.pos hgrid
  obtain ⟨hlow, hup⟩ := hcovers.le
  have hpos : 0 < x.shortest.value := hx.lowEnd_pos.trans_le hlow
  refine margins_of_onGrid? hx.pos hgrid (by positivity) ?_
  have hspace : (2 ^ 24 + 2) * (10 : ℚ) ^ e ≤ x.shortest.value := by
    rw [Digits.value, he]
    gcongr
    exact_mod_cast hlong
  have hunit : (0 : ℚ) < 2 ^ x.exponent := by positivity
  have hroom : x.value - x.lowEnd = x.reach / 4 * 2 ^ x.exponent := by
    rw [value, lowEnd]
    ring
  rw [hroom, reach]
  split
  · next hboundary =>
    have hX := (hx.boundary.1 hboundary).1
    have hend : x.highEnd = (2 ^ 23 + 1 / 2) * 2 ^ x.exponent := by
      rw [highEnd, hX]
      push_cast
      ring
    push_cast
    linarith
  · have hend := hx.highEnd_le_units
    push_cast
    linarith

end Magnitude
end VisualNovel.Decimal
