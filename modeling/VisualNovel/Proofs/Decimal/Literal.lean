import VisualNovel.Proofs.Decimal.Shortest
import VisualNovel.Proofs.Json.Literals

/-!
# Decimals as literals

A decimal is written with the digits that are left when the zeros at its end are cut off, in a
positional or in a scientific form. Either form is a literal (`exists_literal`), and its digits and
their exponent, which is all that is read of it (`Json.Number.numeric?_of_significand_lt`), stand
for the decimal again. They are the digits that were written, but for a whole number, which has
zeros appended up to the point and one behind it.
-/

namespace VisualNovel

namespace Json

/-! ## What is read of a literal -/

theorem le_ofDigitChars (cs : List Char) (init : ℕ) : init ≤ Nat.ofDigitChars 10 cs init := by
  rw [Nat.ofDigitChars_eq_ofDigitChars_zero]
  have : 1 * init ≤ 10 ^ cs.length * init := Nat.mul_le_mul_right _ (Nat.one_le_pow' ..)
  omega

/-- A number has no more digits than are written. -/
theorem ofDigitChars_lt {cs : List Char} (hcs : ∀ c ∈ cs, c.isDigit = true) :
    Nat.ofDigitChars 10 cs 0 < 10 ^ cs.length := by
  induction cs with
  | nil => exact Nat.one_pos
  | cons c cs ih =>
    obtain ⟨hc, hcs⟩ := List.forall_mem_cons.1 hcs
    have hrest := ih hcs
    have hdigit : c.toNat - '0'.toNat ≤ 9 := by
      have : c.toNat ≤ 57 := (Char.isDigit_iff_toNat.1 hc).2
      show c.toNat - 48 ≤ 9
      omega
    have hfirst : 10 ^ cs.length * (c.toNat - '0'.toNat) ≤ 10 ^ cs.length * 9 :=
      Nat.mul_le_mul_left _ hdigit
    rw [Nat.ofDigitChars_cons, mul_zero, zero_add, Nat.ofDigitChars_eq_ofDigitChars_zero,
      List.length_cons, pow_succ]
    omega

/-- Digits are all taken when the number they spell fits. -/
theorem takeFitting_of_lt {cs : List Char} {init : ℕ}
    (h : Nat.ofDigitChars 10 cs init < naturalBound) :
    takeFitting init cs = (Nat.ofDigitChars 10 cs init, 0) := by
  induction cs generalizing init with
  | nil => rfl
  | cons c cs ih =>
    rw [Nat.ofDigitChars_cons] at h ⊢
    have hnext := le_ofDigitChars cs (10 * init + (c.toNat - '0'.toNat))
    rw [takeFitting, if_pos (hnext.trans_lt h)]
    exact ih h

namespace Number

variable {n : Number}

/-- All digits of the literal as one number. -/
def significand (n : Number) : ℕ :=
  Nat.ofDigitChars 10 (n.whole ++ n.fraction) 0

/-- The exponent of the power of ten that counts the last digit. -/
def shift (n : Number) : ℤ :=
  (n.exponent.map Exponent.value).getD 0 - n.fraction.length

/-- A literal with a point or an exponent counts as its digits scaled by their power of ten. -/
theorem numeric?_of_significand_lt (hsign : n.negative = false) (hinteger : n.isInteger = false)
    (hfits : n.significand < naturalBound) :
    n.numeric? = (scale? (Float.ofNat n.significand) n.shift).map .float := by
  have hwhole : Nat.ofDigitChars 10 n.whole 0 < naturalBound := by
    refine lt_of_le_of_lt ?_ hfits
    rw [significand, Nat.ofDigitChars_append]
    exact le_ofDigitChars ..
  have hfraction :
      Nat.ofDigitChars 10 n.fraction (Nat.ofDigitChars 10 n.whole 0) < naturalBound := by
    rwa [significand, Nat.ofDigitChars_append] at hfits
  have hfloat : n.float? = scale? (Float.ofNat n.significand) n.shift := by
    rw [float?, takeFitting_of_lt hwhole]
    dsimp only
    rw [takeFitting_of_lt hfraction, hsign, ← Nat.ofDigitChars_append]
    have hshift : ((0 : ℕ) : ℤ) - (n.fraction.length - 0 : ℕ)
        + (n.exponent.map Exponent.value).getD 0 = n.shift := by
      rw [shift]
      omega
    simp only [hshift, Bool.false_eq_true, if_false, Option.map_id']
    rfl
  simp only [numeric?, hinteger, Bool.false_and, Bool.false_eq_true, if_false, hfloat]

end Number
end Json

namespace Decimal

/-! ## The digits that are written -/

/-- Only zeros are cut off from the end. -/
theorem exists_replicate_zero (digits : List Char) :
    ∃ z, digits = withoutTrailingZeros digits ++ List.replicate z '0' := by
  have hzeros : ∀ c ∈ digits.reverse.takeWhile (· == '0'), c = '0' := fun c hc =>
    beq_iff_eq.1 (List.mem_takeWhile_imp (p := (· == '0')) hc)
  have hreplicate := List.eq_replicate_iff.2 ⟨rfl, hzeros⟩
  refine ⟨(digits.reverse.takeWhile (· == '0')).length, ?_⟩
  calc digits = (digits.reverse.takeWhile (· == '0')
        ++ digits.reverse.dropWhile (· == '0')).reverse := by
        rw [List.takeWhile_append_dropWhile, List.reverse_reverse]
    _ = withoutTrailingZeros digits
        ++ (digits.reverse.takeWhile (· == '0')).reverse := List.reverse_append
    _ = withoutTrailingZeros digits
        ++ List.replicate (digits.reverse.takeWhile (· == '0')).length '0' := by
        rw [hreplicate, List.reverse_replicate, List.length_replicate]

/-- Digits of a number that is not zero are left, and the first one is no zero. -/
theorem head?_withoutTrailingZeros {n : ℕ} (hn : n ≠ 0) :
    ∃ c cs, withoutTrailingZeros (Nat.toDigits 10 n) = c :: cs ∧ c ≠ '0' := by
  obtain ⟨z, hz⟩ := exists_replicate_zero (Nat.toDigits 10 n)
  have hhead := Json.head?_toDigits hn
  have hne : Nat.toDigits 10 n ≠ [] := Nat.toDigits_ne_nil
  cases hdigits : withoutTrailingZeros (Nat.toDigits 10 n) with
  | nil =>
    rw [hdigits, List.nil_append] at hz
    rw [hz] at hhead hne
    cases z with
    | zero => exact absurd rfl hne
    | succ z => exact absurd rfl hhead
  | cons c cs =>
    refine ⟨c, cs, rfl, ?_⟩
    rintro rfl
    rw [hz, hdigits] at hhead
    exact hhead rfl

theorem isDigit_withoutTrailingZeros (n : ℕ) :
    ∀ c ∈ withoutTrailingZeros (Nat.toDigits 10 n), c.isDigit = true := by
  obtain ⟨z, hz⟩ := exists_replicate_zero (Nat.toDigits 10 n)
  intro c hc
  refine Nat.isDigit_of_mem_toDigits (b := 10) (n := n) (by decide) (by decide) ?_
  rw [hz]
  exact List.mem_append_left _ hc

/-- What is left of the digits, and a power of ten. -/
theorem exists_digits_eq (n : ℕ) : ∃ z,
    n = Nat.ofDigitChars 10 (withoutTrailingZeros (Nat.toDigits 10 n)) 0 * 10 ^ z ∧
      (Nat.toDigits 10 n).length = (withoutTrailingZeros (Nat.toDigits 10 n)).length + z := by
  obtain ⟨z, hz⟩ := exists_replicate_zero (Nat.toDigits 10 n)
  refine ⟨z, ?_, ?_⟩
  · have h := congrArg (Nat.ofDigitChars 10 · 0) hz
    rwa [Nat.ofDigitChars_ten_toDigits, Nat.ofDigitChars_append, Nat.ofDigitChars_replicate_zero,
      mul_comm] at h
  · have h := congrArg List.length hz
    rwa [List.length_append, List.length_replicate] at h

/-! ## The forms of a decimal -/

/-- The literal is written as the text, and stands for the number `m` scaled by `10 ^ k`. Either it
has the digits of `m`, or the number is a whole one and has a zero behind the point. -/
structure IsSpelled (n : Json.Number) (text : List Char) (m : ℕ) (k : ℤ) : Prop where
  isLiteral : n.IsLiteral
  chars : n.chars = text
  negative : n.negative = false
  isInteger : n.isInteger = false
  digits : n.significand = m ∧ n.shift = k ∨
    n.significand = m * 10 ^ (k + 1).toNat ∧ n.shift = -1 ∧ 0 ≤ k ∧ k ≤ 12 ∧
      n.significand < 10 ^ 14

section
variable {c : Char} {cs : List Char} (hdigits : ∀ d ∈ c :: cs, d.isDigit = true) {lead : ℤ}
include hdigits

/-- Zeros stand between the point and the first digit. -/
theorem isSpelled_fraction (hlead : lead < 0) : ∃ n,
    IsSpelled n ('0' :: '.' :: List.replicate (-lead - 1).toNat '0' ++ c :: cs)
      (Nat.ofDigitChars 10 (c :: cs) 0) (lead - cs.length) := by
  obtain ⟨j, hj⟩ : ∃ j, (-lead - 1).toNat = j := ⟨_, rfl⟩
  have hfraction : ∀ d ∈ List.replicate j '0' ++ c :: cs, d.isDigit = true := by
    refine List.forall_mem_append.2 ⟨fun d hd => ?_, hdigits⟩
    rw [List.eq_of_mem_replicate hd]
    rfl
  have hne : List.replicate j '0' ++ c :: cs ≠ [] := by simp
  refine ⟨{ whole := ['0'], fraction := List.replicate j '0' ++ c :: cs },
    ⟨by simp, by simp, fun _ => rfl, hfraction, by rintro _ ⟨⟩⟩, ?_, rfl, ?_, .inl ⟨?_, ?_⟩⟩
  · rw [hj, Json.Number.chars]
    simp
  · simp [Json.Number.isInteger]
  · rw [Json.Number.significand, Nat.ofDigitChars_append, Nat.ofDigitChars_append]
    have hzero : Nat.ofDigitChars 10 ['0'] 0 = 0 := rfl
    dsimp only
    rw [hzero, Nat.ofDigitChars_replicate_zero, mul_zero]
  · rw [Json.Number.shift]
    simp only [Option.map_none, Option.getD_none, List.length_append, List.length_replicate,
      List.length_cons]
    push_cast
    omega

/-- The point stands among the digits, or behind them and some zeros. -/
theorem isSpelled_plain (hc : c ≠ '0') (hlead : 0 ≤ lead) (hlead' : lead ≤ 12) : ∃ n,
    IsSpelled n ((c :: cs).take (lead.toNat + 1)
        ++ List.replicate (lead.toNat + 1 - (c :: cs).length) '0'
        ++ '.' :: if ((c :: cs).drop (lead.toNat + 1)).isEmpty then ['0']
          else (c :: cs).drop (lead.toNat + 1))
      (Nat.ofDigitChars 10 (c :: cs) 0) (lead - cs.length) := by
  obtain ⟨t, rfl⟩ := Int.eq_ofNat_of_zero_le hlead
  rw [Int.toNat_natCast, List.take_succ_cons, List.drop_succ_cons, List.length_cons,
    Nat.add_sub_add_right]
  rcases le_or_gt cs.length t with hshort | hlong
  · obtain ⟨j, rfl⟩ := Nat.exists_eq_add_of_le hshort
    rw [List.take_of_length_le hshort, List.drop_of_length_le hshort, Nat.add_sub_cancel_left]
    have hwhole : ∀ d ∈ c :: cs ++ List.replicate j '0', d.isDigit = true := by
      refine List.forall_mem_append.2 ⟨hdigits, fun d hd => ?_⟩
      rw [List.eq_of_mem_replicate hd]
      rfl
    refine ⟨{ whole := c :: cs ++ List.replicate j '0', fraction := ['0'] },
      ⟨by simp, hwhole, fun h => absurd (Option.some.inj h) hc, by simp, by rintro _ ⟨⟩⟩,
      ?_, rfl, rfl, .inr ⟨?_, rfl, by omega, by omega, ?_⟩⟩
    · rw [Json.Number.chars]
      simp
    · have hk : (((cs.length + j : ℕ) : ℤ) - cs.length + 1).toNat = j + 1 := by omega
      have hzero : ∀ init, Nat.ofDigitChars 10 ['0'] init = 10 * init := fun _ => rfl
      rw [hk, Json.Number.significand, Nat.ofDigitChars_append, Nat.ofDigitChars_append, hzero,
        Nat.ofDigitChars_replicate_zero, pow_succ]
      ring
    · refine lt_of_lt_of_le (Json.ofDigitChars_lt ?_) (Nat.pow_le_pow_right (by decide) ?_)
      · exact List.forall_mem_append.2 ⟨hwhole, by simp⟩
      · simp only [List.length_append, List.length_cons, List.length_replicate, List.length_nil]
        omega
  · have hsome : cs.drop t ≠ [] := by
      rw [Ne, List.drop_eq_nil_iff]
      omega
    rw [if_neg (mt List.isEmpty_iff.1 hsome), Nat.sub_eq_zero_of_le hlong.le, List.replicate_zero,
      List.append_nil]
    refine ⟨{ whole := c :: cs.take t, fraction := cs.drop t },
      ⟨by simp, ?_, fun h => absurd (Option.some.inj h) hc, ?_, by rintro _ ⟨⟩⟩, ?_, rfl, ?_,
      .inl ⟨?_, ?_⟩⟩
    · exact List.forall_mem_cons.2 ⟨hdigits c List.mem_cons_self,
        fun d hd => hdigits d (List.mem_cons_of_mem _ (List.mem_of_mem_take hd))⟩
    · exact fun d hd => hdigits d (List.mem_cons_of_mem _ (List.mem_of_mem_drop hd))
    · rw [Json.Number.chars]
      simp [hsome]
    · simp [Json.Number.isInteger, hsome]
    · rw [Json.Number.significand, List.cons_append, List.take_append_drop]
    · rw [Json.Number.shift]
      simp only [Option.map_none, Option.getD_none, List.length_drop]
      omega

/-- One digit stands before the point, and the exponent behind the others. -/
theorem isSpelled_scientific (hc : c ≠ '0') (lead : ℤ) : ∃ n,
    IsSpelled n ((c :: cs).take 1 ++ (if (c :: cs).length = 1 then [] else '.' :: (c :: cs).drop 1)
        ++ ['e', if lead < 0 then '-' else '+'] ++ Nat.toDigits 10 lead.natAbs)
      (Nat.ofDigitChars 10 (c :: cs) 0) (lead - cs.length) := by
  obtain ⟨hfirst, hothers⟩ := List.forall_mem_cons.1 hdigits
  refine ⟨{ whole := [c], fraction := cs,
            exponent := some ⟨decide (lead < 0), Nat.toDigits 10 lead.natAbs⟩ },
    ⟨by simp, by simpa using hfirst, fun h => absurd (Option.some.inj h) hc, hothers, ?_⟩,
    ?_, rfl, ?_, .inl ⟨rfl, ?_⟩⟩
  · rintro e ⟨⟩
    exact ⟨Nat.toDigits_ne_nil,
      fun d hd => Nat.isDigit_of_mem_toDigits (by decide) (by decide) hd⟩
  · rw [Json.Number.chars]
    cases cs <;> simp
  · simp [Json.Number.isInteger]
  · rw [Json.Number.shift]
    simp only [Option.map_some, Option.getD_some, Json.Exponent.value,
      Nat.ofDigitChars_ten_toDigits, decide_eq_true_eq]
    split <;> omega

end

/-- A decimal is written as a literal that stands for it. -/
theorem exists_literal {d : Digits} (hd : d.digits ≠ 0) :
    ∃ (n : Json.Number) (m z : ℕ), d.digits = m * 10 ^ z ∧
      IsSpelled n (Layout.binary32.chars d) m (d.exponent + z) := by
  obtain ⟨z, hz, hlength⟩ := exists_digits_eq d.digits
  have hdigits := isDigit_withoutTrailingZeros d.digits
  obtain ⟨c, cs, hcs, hc⟩ := head?_withoutTrailingZeros hd
  suffices h : ∃ n, IsSpelled n (Layout.binary32.chars d)
      (Nat.ofDigitChars 10 (withoutTrailingZeros (Nat.toDigits 10 d.digits)) 0)
      (d.exponent + z) by
    obtain ⟨n, hn⟩ := h
    exact ⟨n, _, z, hz, hn⟩
  rw [hcs] at hdigits hlength ⊢
  obtain ⟨lead, hlead⟩ : ∃ lead : ℤ, d.exponent + (Nat.toDigits 10 d.digits).length - 1 = lead :=
    ⟨_, rfl⟩
  have hk : d.exponent + z = lead - cs.length := by
    rw [List.length_cons] at hlength
    omega
  rw [hk, Layout.chars]
  simp only [hlead, hcs]
  split
  · next hplain =>
    rw [Bool.and_eq_true, decide_eq_true_eq, decide_eq_true_eq] at hplain
    split
    · next hneg => exact isSpelled_fraction hdigits hneg
    · next hpos => exact isSpelled_plain hdigits hc (not_lt.1 hpos) hplain.2
  · exact isSpelled_scientific hdigits hc lead

end Decimal
end VisualNovel
