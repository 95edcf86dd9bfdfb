import VisualNovel.Decimal.Layout
import VisualNovel.Proofs.Decimal.Arithmetic

/-!
# The numbers that round to a binary32 magnitude

A magnitude has the value of its significand in units of its power of two, and the numbers of an
interval around it are rounded to it: half a unit to both sides, or only a quarter below a power of
two. The ends of the interval belong to it when the significand is even (`Magnitude.Covers`). The
magnitudes of binary32 words are those of `Magnitude.IsSingle`: a positive word is decoded and
unpacked as one of them, unless it is infinite (`infinite_or_exists_isSingle`), and every number
that such a magnitude covers is rounded to it (`Magnitude.eq_of_isRounded`).
-/

namespace VisualNovel.Decimal

open Float.Model Float.Model.UnpackedFloat

namespace Magnitude

variable {x : Magnitude} {v : ℚ}

/-! ## The interval of a magnitude -/

/-- The number that a magnitude stands for. -/
def value (x : Magnitude) : ℚ :=
  x.significand * 2 ^ x.exponent

/-- How many quarters of a unit the interval reaches below the magnitude. -/
def reach (x : Magnitude) : ℕ :=
  if x.isBoundary then 1 else 2

/-- The lower end of the interval. -/
def lowEnd (x : Magnitude) : ℚ :=
  (x.significand - x.reach / 4) * 2 ^ x.exponent

/-- The upper end of the interval. -/
def highEnd (x : Magnitude) : ℚ :=
  (x.significand + 1 / 2) * 2 ^ x.exponent

/-- The number is in the interval of the magnitude. -/
def Covers (x : Magnitude) (v : ℚ) : Prop :=
  if x.significand % 2 = 0 then x.lowEnd ≤ v ∧ v ≤ x.highEnd else x.lowEnd < v ∧ v < x.highEnd

/-- What is in the interval lies between its ends. -/
theorem Covers.le (h : x.Covers v) : x.lowEnd ≤ v ∧ v ≤ x.highEnd := by
  unfold Covers at h
  split at h
  · exact h
  · exact ⟨h.1.le, h.2.le⟩

/-- The ends of the interval of an odd significand do not belong to it. -/
theorem Covers.lt (h : x.Covers v) (hodd : ¬x.significand % 2 = 0) :
    x.lowEnd < v ∧ v < x.highEnd := by
  rwa [Covers, if_neg hodd] at h

/-- What lies properly between the ends is in the interval. -/
theorem covers_of_lt (hlow : x.lowEnd < v) (hhigh : v < x.highEnd) : x.Covers v := by
  unfold Covers
  split
  · exact ⟨hlow.le, hhigh.le⟩
  · exact ⟨hlow, hhigh⟩

/-- The interval reaches one or two quarters of a unit below. -/
theorem reach_bounds (x : Magnitude) : 1 ≤ x.reach ∧ x.reach ≤ 2 := by
  unfold reach
  split <;> omega

/-! ## Binary32 magnitudes -/

/-- The magnitude of a positive binary32 word. -/
structure IsSingle (x : Magnitude) : Prop where
  pos : 0 < x.significand
  lt : x.significand < 2 ^ 24
  least : -149 ≤ x.exponent
  greatest : x.exponent ≤ 104
  normal : 2 ^ 23 ≤ x.significand ∨ x.exponent = -149
  boundary : x.isBoundary = true ↔ x.significand = 2 ^ 23 ∧ x.exponent ≠ -149

/-- A word without an exponent stands for a magnitude of the least unit. -/
theorem isSingle_subnormal {fraction : ℕ} (hpos : fraction ≠ 0) (hlt : fraction < 2 ^ 23) :
    IsSingle ⟨fraction, -149, false⟩ where
  pos := Nat.pos_of_ne_zero hpos
  lt := hlt.trans (by decide)
  least := le_rfl
  greatest := by
    show (-149 : ℤ) ≤ 104
    decide
  normal := .inr rfl
  boundary := by simp

/-- A word with an exponent stands for a magnitude with the leading bit set. -/
theorem isSingle_normal {fraction exponent : ℕ} (hlt : fraction < 2 ^ 23) (hpos : exponent ≠ 0)
    (hlt' : exponent < 255) :
    IsSingle ⟨2 ^ 23 + fraction, -149 + (exponent - 1), fraction = 0 && exponent ≠ 1⟩ where
  pos := by positivity
  lt := by
    show 2 ^ 23 + fraction < 2 ^ 24
    omega
  least := by
    show -149 ≤ -149 + ((exponent : ℤ) - 1)
    omega
  greatest := by
    show -149 + ((exponent : ℤ) - 1) ≤ 104
    omega
  normal := .inl (Nat.le_add_right ..)
  boundary := by
    simp only [Bool.and_eq_true, decide_eq_true_eq]
    omega

section
variable (hx : x.IsSingle)
include hx

/-- The interval lies above zero. -/
theorem IsSingle.lowEnd_pos : 0 < x.lowEnd := by
  have hsignificand : (1 : ℚ) ≤ x.significand := by exact_mod_cast hx.pos
  have hreach : (x.reach : ℚ) ≤ 2 := by exact_mod_cast x.reach_bounds.2
  exact mul_pos (by linarith) (by positivity)

/-- The interval does not reach beyond twice the magnitude. -/
theorem IsSingle.highEnd_le : x.highEnd ≤ 2 * x.value := by
  have hsignificand : (1 : ℚ) ≤ x.significand := by exact_mod_cast hx.pos
  rw [highEnd, value, ← mul_assoc]
  gcongr
  linarith

/-- The interval ends below twenty-four bits of units, by half a unit at least. -/
theorem IsSingle.highEnd_le_units : x.highEnd ≤ (2 ^ 24 - 1 / 2) * 2 ^ x.exponent := by
  have hsignificand : (x.significand : ℚ) + 1 ≤ 2 ^ 24 := by exact_mod_cast hx.lt
  rw [highEnd]
  gcongr
  linarith

/-- The ends of the interval are numbers of twenty-five bits times a power of two. -/
theorem IsSingle.exists_lowEnd_eq : ∃ (m : ℕ) (e : ℤ), 0 < m ∧ m < 2 ^ 25 ∧
    x.lowEnd = m * 2 ^ e := by
  have hpos := hx.pos
  have hlt := hx.lt
  rw [lowEnd, reach]
  split
  · next hboundary =>
    have hX := (hx.boundary.1 hboundary).1
    refine ⟨4 * x.significand - 1, x.exponent - 2, by omega, by omega, ?_⟩
    rw [zpow_sub₀ two_ne_zero, Nat.cast_sub (by omega)]
    push_cast
    ring
  · refine ⟨2 * x.significand - 1, x.exponent - 1, by omega, by omega, ?_⟩
    rw [zpow_sub₀ two_ne_zero, Nat.cast_sub (by omega)]
    push_cast
    ring

/-- The upper end is a number of twenty-five bits times a power of two. -/
theorem IsSingle.exists_highEnd_eq : ∃ (m : ℕ) (e : ℤ), 0 < m ∧ m < 2 ^ 25 ∧
    x.highEnd = m * 2 ^ e := by
  have hlt := hx.lt
  refine ⟨2 * x.significand + 1, x.exponent - 1, by omega, by omega, ?_⟩
  rw [highEnd, zpow_sub₀ two_ne_zero]
  push_cast
  ring

end

/-- A number is rounded in the units of the magnitude that covers it, or in halves of them just
below a power of two. -/
theorem exponent_of_covers {e : ℤ} (hx : x.IsSingle) (hv : x.Covers v) (hleast : -149 ≤ e)
    (hbelow : v < 2 ^ (e + 24)) (habove : e = -149 ∨ 2 ^ (e + 23) ≤ v) :
    e = x.exponent ∨ e = x.exponent - 1 ∧ x.significand = 2 ^ 23 ∧ v < x.value := by
  obtain ⟨hlow, hhigh⟩ := hv.le
  have hunit : (0 : ℚ) < 2 ^ x.exponent := by positivity
  have hsignificand : (x.significand : ℚ) + 1 ≤ 2 ^ 24 := by exact_mod_cast hx.lt
  rcases lt_trichotomy e x.exponent with hlt | heq | hgt
  · have hnormal : 2 ^ 23 ≤ x.significand := hx.normal.resolve_right (by have := hx.least; omega)
    have hreach : (x.reach : ℚ) ≤ 2 := by exact_mod_cast x.reach_bounds.2
    have hpower : ∀ k : ℕ, e + 24 ≤ x.exponent + k → v < 2 ^ k * 2 ^ x.exponent := by
      intro k hk
      refine hbelow.trans_le ?_
      rw [← zpow_natCast (2 : ℚ) k, ← zpow_add₀ two_ne_zero]
      exact zpow_le_zpow_right₀ one_le_two (by omega)
    have hbits : ∀ k : ℕ, e + 24 ≤ x.exponent + k → x.significand < 2 ^ k + 1 := by
      intro k hk
      have h := lt_of_mul_lt_mul_right (hlow.trans_lt (hpower k hk)) hunit.le
      have : (x.significand : ℚ) < (2 ^ k + 1 : ℕ) := by
        push_cast
        linarith
      exact_mod_cast this
    have hX : x.significand = 2 ^ 23 := by
      have := hbits 23 (by omega)
      omega
    have he : e = x.exponent - 1 := by
      by_contra hne
      have := hbits 22 (by omega)
      omega
    refine .inr ⟨he, hX, ?_⟩
    rw [value, hX]
    exact_mod_cast hpower 23 (by omega)
  · exact .inl heq
  · exfalso
    have hleast' : (2 : ℚ) ^ x.exponent * 2 ^ 24 ≤ v := by
      refine le_trans ?_ (habove.resolve_left (by have := hx.least; omega))
      rw [← zpow_natCast (2 : ℚ) 24, ← zpow_add₀ two_ne_zero]
      exact zpow_le_zpow_right₀ one_le_two (by omega)
    have : (2 : ℚ) ^ x.exponent * 2 ^ 24 < 2 ^ x.exponent * 2 ^ 24 := by
      calc (2 : ℚ) ^ x.exponent * 2 ^ 24 ≤ v := hleast'
        _ ≤ (x.significand + 1 / 2) * 2 ^ x.exponent := hhigh
        _ < 2 ^ 24 * 2 ^ x.exponent := by gcongr; linarith
        _ = 2 ^ x.exponent * 2 ^ 24 := mul_comm ..
    exact lt_irrefl _ this

/-- A finite number is told by its sign, its significand and its exponent. -/
theorem finite_congr {s t : Sign} {m n : ℕ} {e f : ℤ} {hm : 0 < m} {hn : 0 < n} (hs : s = t)
    (hmn : m = n) (hef : e = f) : UnpackedFloat.finite s m e hm = .finite t n f hn := by
  subst hs hmn hef
  rfl

/-- What the magnitude covers is rounded to it. -/
theorem eq_of_isRounded {r : UnpackedFloat} (hx : x.IsSingle) (hv : x.Covers v)
    (h : IsRounded .binary32 .positive v r) :
    r = .finite .positive x.significand x.exponent hx.pos := by
  obtain ⟨e, m, hleast, hbelow, habove, hnear, rfl⟩ := h
  change -149 ≤ e at hleast
  change v < 2 ^ (e + 24) at hbelow
  change e = -149 ∨ 2 ^ (e + 24 - 1) ≤ v at habove
  rw [add_sub_assoc, show (24 : ℤ) - 1 = 23 from rfl] at habove
  have hunit : (0 : ℚ) < 2 ^ x.exponent := by positivity
  obtain ⟨hlow, hhigh⟩ := hv.le
  rw [lowEnd, ← le_div_iff₀ hunit] at hlow
  rw [highEnd, ← div_le_iff₀ hunit] at hhigh
  rcases exponent_of_covers hx hv hleast hbelow habove with rfl | ⟨rfl, hX, hvalue⟩
  · -- The interval reaches half a unit to both sides at most, and a tie belongs to an even number.
    have hreach : (x.reach : ℚ) ≤ 2 := by exact_mod_cast x.reach_bounds.2
    have hm : m = x.significand := by
      refine hnear.unique ⟨abs_sub_le_iff.2 ⟨by linarith, by linarith⟩, fun htie => ?_⟩
      by_contra hodd
      obtain ⟨hlow, hhigh⟩ := hv.lt hodd
      rw [lowEnd, ← lt_div_iff₀ hunit] at hlow
      rw [highEnd, ← div_lt_iff₀ hunit] at hhigh
      have : |v / 2 ^ x.exponent - x.significand| < 1 / 2 :=
        abs_sub_lt_iff.2 ⟨by linarith, by linarith⟩
      linarith
    subst hm
    exact carried_of_lt .positive x.exponent hx.pos hx.lt
  · -- Only a quarter of the unit is below the power of two, which is half a unit of the rounding.
    have hreach : x.reach = 1 := if_pos (hx.boundary.2 ⟨hX, by omega⟩)
    have hdouble : v / 2 ^ (x.exponent - 1) = 2 * (v / 2 ^ x.exponent) := by
      rw [zpow_sub_one₀ two_ne_zero]
      field_simp
    have hm : m = 2 ^ 24 := by
      rw [value, hX, ← div_lt_iff₀ hunit] at hvalue
      rw [hreach, hX] at hlow
      push_cast at hlow hvalue
      rw [hdouble] at hnear
      refine hnear.unique ⟨abs_sub_le_iff.2 ⟨?_, ?_⟩, fun _ => rfl⟩
      · push_cast
        linarith
      · push_cast
        linarith
    subst hm
    exact (carried_two_pow .binary32 .positive (x.exponent - 1)).trans
      (finite_congr rfl hX.symm (sub_add_cancel ..))

end Magnitude

/-! ## Words -/

section
variable (word : BitVec 32)

/-- The mantissa is made of the last twenty-three bits of a word. -/
theorem toNat_unpackMantissa :
    (@unpackMantissa .binary32 word).toNat = word.toNat % 2 ^ 23 := by
  simp [unpackMantissa]

/-- The exponent is made of the eight bits before the mantissa. -/
theorem toNat_unpackExponent :
    (@unpackExponent .binary32 word).toNat = word.toNat / 2 ^ 23 % 2 ^ 8 := by
  simp [unpackExponent, Nat.shiftRight_eq_div_pow]

/-- The sign is the first bit. -/
theorem toNat_unpackSign :
    (@unpackSign .binary32 word).toNat = word.toNat / 2 ^ 31 % 2 := by
  simp [unpackSign, Nat.shiftRight_eq_div_pow]

end

/-- A positive number is no zero, is a number, and has a positive sign. -/
theorem unpack_of_pos {x : Float32} (hx : 0 < x) :
    x.toModel.unpack = .infinity .positive ∨
      ∃ m e hm, x.toModel.unpack = .finite .positive m e hm := by
  have h : UnpackedFloat.lt (.zero .positive) x.toModel.unpack = true := of_decide_eq_true hx
  cases hunpack : x.toModel.unpack with
  | notANumber | zero => rw [hunpack] at h; cases h
  | infinity sign =>
    cases sign with
    | positive => exact .inl rfl
    | negative => rw [hunpack] at h; cases h
  | finite sign m e hm =>
    cases sign with
    | positive => exact .inr ⟨m, e, hm, rfl⟩
    | negative => rw [hunpack] at h; cases h

/-- The fields of a word decide both what it is unpacked as and what it is decoded as. -/
theorem decode_binary32 (word : BitVec 32) :
    BinaryFormat.binary32.decode word.toNat =
      let fraction := (@unpackMantissa .binary32 word).toNat
      let exponent := (@unpackExponent .binary32 word).toNat
      let negative := (@unpackSign .binary32 word).toNat == 1
      if exponent = 255 then if fraction = 0 then .infinite negative else .notANumber
      else if exponent = 0 then .finite negative ⟨fraction, -149, false⟩
      else .finite negative
        ⟨2 ^ 23 + fraction, -149 + (exponent - 1), fraction = 0 && exponent ≠ 1⟩ := by
  rw [toNat_unpackMantissa, toNat_unpackExponent, toNat_unpackSign,
    show 2 ^ 31 = 2 ^ 23 * 2 ^ 8 from rfl, ← Nat.div_div_eq_div_mul]
  rfl

/-- The fields of a word also decide what it is unpacked as. -/
theorem unpack_binary32 (word : BitVec 32) :
    UnpackedFloat.unpack .binary32 word =
      let fraction := (@unpackMantissa .binary32 word).toNat
      let exponent := (@unpackExponent .binary32 word).toNat
      let sign := Sign.ofBitVec (@unpackSign .binary32 word)
      if exponent = 255 then if fraction = 0 then .infinity sign else .notANumber
      else if exponent = 0 then
        if h : fraction = 0 then .zero sign
        else .finite sign fraction (-149) (Nat.pos_of_ne_zero h)
      else .finite sign (2 ^ 23 + fraction) (-149 + (exponent - 1))
        (Nat.add_pos_left (Nat.two_pow_pos 23) fraction) := by
  have hones : @unpackExponent .binary32 word = -1#8
      ↔ (@unpackExponent .binary32 word).toNat = 255 := BitVec.toNat_eq
  have hleast : @unpackExponent .binary32 word = 0#8
      ↔ (@unpackExponent .binary32 word).toNat = 0 := BitVec.toNat_eq
  have hzero : @unpackMantissa .binary32 word = 0#23
      ↔ (@unpackMantissa .binary32 word).toNat = 0 := BitVec.toNat_eq
  unfold UnpackedFloat.unpack
  simp only [hones, hleast, hzero]
  split
  · rfl
  · split
    · split
      · rfl
      · refine Magnitude.finite_congr rfl rfl ?_
        show ((@unpackExponent .binary32 word).toNat : ℤ) - ((127 : ℕ) + (23 : ℕ)) + 1 = -149
        omega
    · refine Magnitude.finite_congr rfl (toNat_one_append _) ?_
      show ((@unpackExponent .binary32 word).toNat : ℤ) - ((127 : ℕ) + (23 : ℕ))
        = -149 + ((@unpackExponent .binary32 word).toNat - 1)
      omega

/-- The bit of a positive sign is not set. -/
theorem toNat_of_ofBitVec {sign : BitVec 1} (h : Sign.ofBitVec sign = .positive) :
    (sign.toNat == 1) = false := by
  rw [Sign.ofBitVec] at h
  split at h
  · next hzero => rw [hzero]; rfl
  · cases h

/-- A positive word is infinite, or it stands for a magnitude. -/
theorem infinite_or_exists_isSingle {x : Float32} (hx : 0 < x) :
    x.isInf = true ∧ BinaryFormat.binary32.decode x.toBits.toNat = .infinite false ∨
      x.isInf = false ∧ ∃ (m : Magnitude) (hm : m.IsSingle),
        BinaryFormat.binary32.decode x.toBits.toNat = .finite false m ∧
        x.toModel.unpack = .finite .positive m.significand m.exponent hm.pos := by
  have hpos := unpack_of_pos hx
  have hunpack : x.toModel.unpack = UnpackedFloat.unpack .binary32 x.toBits.toBitVec := rfl
  have hinf : x.isInf = x.toModel.unpack.isInf := rfl
  have hdecode := decode_binary32 x.toBits.toBitVec
  change BinaryFormat.binary32.decode x.toBits.toNat = _ at hdecode
  rw [unpack_binary32] at hunpack
  rw [hinf, hdecode]
  clear hinf hdecode
  generalize x.toModel.unpack = unpacked at *
  generalize x.toBits.toBitVec = word at *
  have hfraction : (@unpackMantissa .binary32 word).toNat < 2 ^ 23 := BitVec.isLt _
  have hexponent : (@unpackExponent .binary32 word).toNat < 2 ^ 8 := BitVec.isLt _
  dsimp only at hunpack ⊢
  split at hunpack
  · next hones =>
    rw [if_pos hones]
    split at hunpack
    · next hzero =>
      subst hunpack
      rcases hpos with hpos | ⟨_, _, _, hpos⟩
      · injection hpos with hsign
        exact .inl ⟨rfl, by rw [if_pos hzero, toNat_of_ofBitVec hsign]⟩
      · cases hpos
    · subst hunpack
      rcases hpos with hpos | ⟨_, _, _, hpos⟩ <;> cases hpos
  · next hones =>
    rw [if_neg hones]
    split at hunpack
    · next hleast =>
      rw [if_pos hleast]
      split at hunpack
      · subst hunpack
        rcases hpos with hpos | ⟨_, _, _, hpos⟩ <;> cases hpos
      · next hsome =>
        subst hunpack
        rcases hpos with hpos | ⟨_, _, _, hpos⟩
        · cases hpos
        · injection hpos with hsign
          exact .inr ⟨rfl, _, Magnitude.isSingle_subnormal hsome hfraction,
            by rw [toNat_of_ofBitVec hsign], Magnitude.finite_congr hsign rfl rfl⟩
    · next hmore =>
      rw [if_neg hmore]
      subst hunpack
      rcases hpos with hpos | ⟨_, _, _, hpos⟩
      · cases hpos
      · injection hpos with hsign
        exact .inr ⟨rfl, _, Magnitude.isSingle_normal hfraction hmore (by omega),
          by rw [toNat_of_ofBitVec hsign], Magnitude.finite_congr hsign rfl rfl⟩

end VisualNovel.Decimal
