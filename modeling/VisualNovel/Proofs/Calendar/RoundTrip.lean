import Mathlib
import VisualNovel.Calendar.Parser
import VisualNovel.Calendar.Printer
import VisualNovel.Proofs.Calendar.Date
import VisualNovel.Proofs.Text.Blank

/-!
# Written instants are read back

An instant is written by fields of fixed width, so each field is read up to its own width and no
further (`Instant.digits?_padded`). No white space stands in front of a field, and the offset at the
end is that of UTC. `Instant.ofText?_toText` puts the fields together again, also within a leap
second.
-/

namespace VisualNovel.Instant

open Text (trimStart isBlank)

/-! ## Fields of digits -/

section
variable {width n : Nat} (hn : n < 10 ^ width) (hwidth : 0 < width)
include hn hwidth

/-- A field of digits has its width, and gives back its number. -/
theorem padded_spec : (padded width n).length = width ∧ (∀ c ∈ padded width n, c.isDigit = true) ∧
    Nat.ofDigitChars 10 (padded width n) 0 = n := by
  have hlength := (Nat.length_toDigits_le_iff (by decide : 1 < 10) hwidth).2 hn
  refine ⟨?_, ?_, ?_⟩
  · simp only [padded, List.length_append, List.length_replicate]
    omega
  · refine List.forall_mem_append.2 ⟨fun c hc => ?_, fun c hc => ?_⟩
    · exact List.eq_of_mem_replicate hc ▸ rfl
    · exact Nat.isDigit_of_mem_toDigits (by decide) (by decide) hc
  · rw [padded, Nat.ofDigitChars_append, Nat.ofDigitChars_replicate_zero, Nat.mul_zero,
      Nat.ofDigitChars_ten_toDigits]

/-- A padded number has at least one digit. -/
theorem padded_ne_nil : padded width n ≠ [] := by
  obtain ⟨hlength, -⟩ := padded_spec hn hwidth
  exact List.ne_nil_of_length_pos (by rw [hlength]; exact hwidth)

/-- A padded number is read back by its width, whatever follows. -/
theorem digits?_padded (rest : List Char) :
    digits? width (padded width n ++ rest) = some (n, rest) := by
  obtain ⟨hlength, hdigits, hvalue⟩ := padded_spec hn hwidth
  have hne := padded_ne_nil hn hwidth
  have hall : (padded width n).takeWhile Char.isDigit = padded width n := by
    have happend : (padded width n ++ []).takeWhile Char.isDigit = padded width n ++ [] :=
      List.takeWhile_append_of_pos hdigits
    rwa [List.append_nil] at happend
  simp only [digits?, List.take_left' hlength, hall, List.isEmpty_iff, hne, if_false, hvalue,
    List.drop_left]

/-- A field starts with a digit, which is neither white space nor a sign. -/
theorem padded_eq_cons : ∃ d ds, padded width n = d :: ds ∧ d.isDigit = true := by
  obtain ⟨-, hdigits, -⟩ := padded_spec hn hwidth
  obtain ⟨d, ds, heq⟩ := List.exists_cons_of_ne_nil (padded_ne_nil hn hwidth)
  exact ⟨d, ds, heq, hdigits d (heq ▸ List.mem_cons_self)⟩

/-- A padded number does not start with white space. -/
theorem trimStart_padded (rest : List Char) :
    trimStart (padded width n ++ rest) = padded width n ++ rest := by
  obtain ⟨d, ds, heq, hd⟩ := padded_eq_cons hn hwidth
  rw [heq]
  exact Text.trimStart_of_head? fun c hc => Option.some.inj hc ▸ Text.isBlank_of_isDigit hd

/-- A padded number is read back where white space may stand before it. -/
theorem number?_padded (rest : List Char) :
    number? width (padded width n ++ rest) = some (n, rest) := by
  rw [number?, trimStart_padded hn hwidth, digits?_padded hn hwidth]

end

/-- A year of four digits is read back without a sign. -/
theorem year?_padded {n : Nat} (hn : n < 10 ^ 4) (rest : List Char) :
    year? (padded 4 n ++ rest) = some ((n : Int), rest) := by
  obtain ⟨d, ds, heq, hd⟩ := padded_eq_cons hn (by decide)
  have hread := digits?_padded hn (by decide) rest
  rw [year?, trimStart_padded hn (by decide)]
  split
  · next hminus =>
    rw [heq] at hminus
    cases hminus
    cases hd
  · next hplus =>
    rw [heq] at hplus
    cases hplus
    cases hd
  · rw [hread]
    rfl

/-- A character that is no white space is read where it is expected. -/
theorem literal?_cons {c : Char} (hc : isBlank c = false) (rest : List Char) :
    literal? c (c :: rest) = some rest := by
  have hstart : trimStart (c :: rest) = c :: rest :=
    Text.trimStart_of_head? fun d hd => Option.some.inj hd ▸ hc
  rw [literal?, hstart]
  exact if_pos rfl

/-! ## Dates and times -/

/-- A date of a year of four digits is read back. -/
theorem date?_dateChars {date : Date} (hvalid : date.isValid = true)
    (hyear : 0 ≤ date.year ∧ date.year ≤ 9999) (rest : List Char) :
    date? (dateChars date ++ rest) = some (date, rest) := by
  have htwo := Date.lt_of_isValid hvalid
  have hmonth : date.month < 10 ^ 2 := by omega
  have hday : date.day < 10 ^ 2 := by omega
  have hinRange := Date.isInRange_of_year hyear
  have hnat : date.year.toNat < 10 ^ 4 := by omega
  have hcast : (date.year.toNat : Int) = date.year := Int.toNat_of_nonneg hyear.1
  have hchars : yearChars date.year = padded 4 date.year.toNat := by
    rw [yearChars, if_pos (by simpa using hyear)]
  have hdash : isBlank '-' = false := by decide
  simp only [dateChars, hchars, List.append_assoc, List.cons_append, date?, year?_padded hnat,
    literal?_cons hdash, number?_padded hmonth (by decide), number?_padded hday (by decide),
    Option.bind_eq_bind, Option.bind_some, hcast, hvalid, hinRange, Bool.and_self, if_true]

/-- Up to nine decimals are read as nanoseconds. -/
theorem fraction?_padded {width n : Nat} (hn : n < 10 ^ width) (hwidth : 0 < width ∧ width ≤ 9)
    (rest : List Char) :
    fraction? ('.' :: padded width n ++ 'Z' :: rest)
      = some (n * 10 ^ (9 - width), 'Z' :: rest) := by
  obtain ⟨hlength, hdigits, hvalue⟩ := padded_spec hn hwidth.1
  have hne := padded_ne_nil hn hwidth.1
  have htake : ((padded width n ++ 'Z' :: rest).take 9).takeWhile Char.isDigit
      = padded width n := by
    rw [List.take_append, hlength, List.take_of_length_le (by omega),
      List.takeWhile_append_of_pos hdigits]
    cases 9 - width with
    | zero => exact List.append_nil _
    | succ k => exact List.append_nil _
  have hdrop : (padded width n ++ 'Z' :: rest).dropWhile Char.isDigit = 'Z' :: rest := by
    rw [List.dropWhile_append_of_pos hdigits]
    rfl
  simp only [List.cons_append, fraction?, htake, hdrop, List.isEmpty_iff, hne, if_false, hvalue,
    hlength]
  rfl

/-- The nanoseconds are read back from the fraction, which may be missing. -/
theorem fraction?_fractionChars {nanos : Nat} (hnanos : nanos < nanosPerSecond) (rest : List Char) :
    fraction? (fractionChars nanos ++ 'Z' :: rest) = some (nanos, 'Z' :: rest) := by
  have hlt : nanos < 1000000000 := hnanos
  unfold fractionChars
  split
  · next hzero =>
    subst hzero
    rfl
  split
  · next hmillis =>
    rw [fraction?_padded (by omega) (by decide)]
    congr 2
    omega
  split
  · next hmicros =>
    rw [fraction?_padded (by omega) (by decide)]
    congr 2
    omega
  · rw [fraction?_padded (by omega) (by decide), Nat.sub_self, Nat.pow_zero, Nat.mul_one]

/-- The fields of the time of day. Only the last second of a minute has a leap second behind it. -/
theorem second_eq (t : Instant) :
    t.second = t.secondOfDay % 60 ∧ t.nanos = t.subsecond ∨
      t.second = 60 ∧ t.secondOfDay % 60 = 59 ∧ t.nanos = nanosPerSecond + t.subsecond := by
  have hregular := t.isRegular
  simp only [IsRegular, second, subsecond, secondOfDay, secondsPerDay, nanosPerSecond] at *
  omega

/-- The time of day is read back, with the second 60 for a leap second. -/
theorem time?_chars (t : Instant) (rest : List Char) :
    time? (padded 2 t.hour ++ ':' :: padded 2 t.minute ++ ':' :: padded 2 t.second
        ++ fractionChars t.subsecond ++ 'Z' :: rest)
      = some ((t.secondOfDay, t.nanos), 'Z' :: rest) := by
  have hday : t.secondOfDay < 86400 := by
    simp only [secondOfDay, secondsPerDay]
    omega
  have hhour : t.hour < 24 := by
    simp only [hour]
    omega
  have hminute : t.minute < 60 := Nat.mod_lt _ (by decide)
  have hsecond := t.second_eq
  have hle : t.second ≤ 60 := by omega
  have hsub : t.subsecond < nanosPerSecond := Nat.mod_lt _ (by decide)
  have hcolon : isBlank ':' = false := by decide
  have hfields : 3600 * t.hour + 60 * t.minute + t.secondOfDay % 60 = t.secondOfDay := by
    simp only [hour, minute]
    omega
  simp only [List.append_assoc, List.cons_append, time?,
    number?_padded (show t.hour < 10 ^ 2 by omega) (by decide),
    number?_padded (show t.minute < 10 ^ 2 by omega) (by decide),
    number?_padded (show t.second < 10 ^ 2 by omega) (by decide), literal?_cons hcolon,
    fraction?_fractionChars hsub, Option.bind_eq_bind, Option.bind_some, hhour, hminute, hle,
    decide_true, Bool.and_self, if_true]
  rcases hsecond with ⟨hsecond, hnanos⟩ | ⟨hsecond, hlast, hnanos⟩
  · have hregular : t.second ≠ 60 := by omega
    rw [if_neg hregular, hsecond, hfields, hnanos]
  · rw [if_pos hsecond, ← hlast, hfields, hnanos]

/-- An instant of a year of four digits is read back from its text. -/
theorem ofText?_toText {t : Instant} (hyear : 0 ≤ t.date.year ∧ t.date.year ≤ 9999) :
    ofText? t.toText = some t := by
  have hvalid : t.date.isValid = true := Date.isValid_ofDays _
  have htime := t.time?_chars []
  have hoffset : offset? (trimStart ['Z']) = some (0, []) := rfl
  have hunix : t.date.toDays * secondsPerDay + t.secondOfDay - 0 = t.unix := by
    simp only [date, Date.toDays_ofDays, secondOfDay, secondsPerDay]
    omega
  have hparts : ofParts? t.unix t.nanos = some t := dif_pos t.isRegular
  simp only [List.append_assoc, List.cons_append] at htime
  simp only [ofText?, toText, String.toList_ofList, ofChars?, chars, List.append_assoc,
    List.cons_append, date?_dateChars hvalid hyear, htime, hoffset, Option.bind_eq_bind,
    Option.bind_some, hunix, hparts, Date.isInRange_of_year hyear]
  rfl

end VisualNovel.Instant
