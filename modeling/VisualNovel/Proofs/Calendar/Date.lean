import VisualNovel.Calendar.Date

/-!
# Days and dates

An era has four centuries of 25 cycles of four years, and a year of 365 days ends with a leap day
where a cycle ends, except for the centuries that do not end the era. A day of an era is given by
its place in that order (`Date.IsDayOfEra`), from which the year of the era and the day of the year
can be read off. So `Date.ofDays` gives a day that there is (`Date.isValid_ofDays`), and
`Date.toDays` goes back (`Date.toDays_ofDays`), as it counts the days from March in the same way
(`Date.toDays_ofMarch`).
-/

namespace VisualNovel.Date

/-- A day of an era, counted from zero, is the given day of a year of a cycle of a century. -/
structure IsDayOfEra (dayOfEra century cycle year day : Int) : Prop where
  eq : dayOfEra = 36524 * century + 1461 * cycle + 365 * year + day
  century_mem : 0 ≤ century ∧ century ≤ 3
  cycle_mem : 0 ≤ cycle ∧ cycle ≤ 24
  year_mem : 0 ≤ year ∧ year ≤ 3
  day_mem : 0 ≤ day ∧ day ≤ 365
  leap : day = 365 → year = 3 ∧ (cycle = 24 → century = 3)

/-- Every day of an era has its place. -/
theorem exists_isDayOfEra {d : Int} (hpos : 0 ≤ d) (hlt : d < daysPerEra) :
    ∃ century cycle year day, IsDayOfEra d century cycle year day := by
  have hlt : d < 146097 := hlt
  let century := min (d / 36524) 3
  let rest := d - 36524 * century
  let cycle := rest / 1461
  let year := min (rest % 1461 / 365) 3
  refine ⟨century, cycle, year, rest % 1461 - 365 * year, ?_, ?_, ?_, ?_, ?_, ?_⟩ <;> omega

section
variable {d century cycle year day : Int} (h : IsDayOfEra d century cycle year day)
include h

/-- How often a century begins up to the day, but not at the leap day that ends the era. -/
theorem IsDayOfEra.century_eq : d / 36524 - d / 146096 = century := by
  obtain ⟨heq, hcentury, hcycle, hyear, hday, hleap⟩ := h
  have hrest : 1461 * cycle + 365 * year + day ≤ 36523 ∨ d = 146096 ∧ century = 3 := by omega
  have hd : d = 36524 * century + (1461 * cycle + 365 * year + day) := by omega
  have hpos : 0 ≤ 1461 * cycle + 365 * year + day := by omega
  generalize 1461 * cycle + 365 * year + day = rest at hrest hd hpos
  rcases hrest with hrest | ⟨rfl, rfl⟩
  · clear heq hleap
    omega
  · rfl

/-- The leap days up to the day are taken away before it is counted in years of 365 days. -/
theorem IsDayOfEra.yearOfEra_eq :
    (d - d / 1460 + d / 36524 - d / 146096) / 365 = 100 * century + 4 * cycle + year := by
  have hcenturies := h.century_eq
  obtain ⟨heq, hcentury, hcycle, hyear, hday, hleap⟩ := h
  have hcycles : d / 1460
      = 25 * century + cycle + (24 * century + cycle + 365 * year + day) / 1460 := by
    omega
  have hcarry : (24 * century + cycle + 365 * year + day) / 1460 ≤ day ∧
      day ≤ 364 + (24 * century + cycle + 365 * year + day) / 1460 := by
    omega
  omega

/-- The day of the year is what is left behind the years before it. -/
theorem IsDayOfEra.dayOfYear_eq :
    let yearOfEra := 100 * century + 4 * cycle + year
    d - (365 * yearOfEra + yearOfEra / 4 - yearOfEra / 100) = day := by
  obtain ⟨heq, hcentury, hcycle, hyear, hday, hleap⟩ := h
  omega

end

/-- The date of a day of an era, its year beginning in March. -/
theorem ofDays_eq {days century cycle year day : Int}
    (h : IsDayOfEra ((days + epochOffset) % daysPerEra) century cycle year day) :
    ofDays days =
      let monthFromMarch := (5 * day + 2) / 153
      let month := if monthFromMarch < 10 then monthFromMarch + 3 else monthFromMarch - 9
      ⟨(days + epochOffset) / daysPerEra * 400 + (100 * century + 4 * cycle + year)
        + if month ≤ 2 then 1 else 0, month.toNat,
        (day - (153 * monthFromMarch + 2) / 5 + 1).toNat⟩ := by
  simp only [ofDays, h.yearOfEra_eq, h.dayOfYear_eq]

theorem exists_isDayOfEra_of_days (days : Int) :
    ∃ century cycle year day, IsDayOfEra ((days + epochOffset) % daysPerEra) century cycle year day :=
  exists_isDayOfEra (Int.emod_nonneg _ (by decide)) (Int.emod_lt_of_pos _ (by decide))

/-- The days before a date whose month is counted from March and whose day is counted from zero. -/
theorem toDays_ofMarch {era yearOfEra m day : Int} (hyear : 0 ≤ yearOfEra ∧ yearOfEra < 400)
    (hm : 0 ≤ m ∧ m ≤ 11) (hday : 0 ≤ day) :
    let month := if m < 10 then m + 3 else m - 9
    toDays ⟨era * 400 + yearOfEra + if month ≤ 2 then 1 else 0, month.toNat, (day + 1).toNat⟩
      = era * daysPerEra + (365 * yearOfEra + yearOfEra / 4 - yearOfEra / 100
        + ((153 * m + 2) / 5 + day)) - epochOffset := by
  have hera : (era * 400 + yearOfEra) / 400 = era ∧ (era * 400 + yearOfEra) % 400 = yearOfEra := by
    omega
  by_cases hlate : m < 10
  · have hfrom : (((m + 3).toNat : Int) + 9) % 12 = m := by omega
    have hmonth : ¬m + 3 ≤ 2 ∧ ¬((m + 3).toNat : Int) ≤ 2 := by omega
    simp only [toDays, hlate, if_true, hmonth, if_false, Int.add_zero, hera, hfrom]
    omega
  · have hfrom : (((m - 9).toNat : Int) + 9) % 12 = m := by omega
    have hmonth : m - 9 ≤ 2 ∧ ((m - 9).toNat : Int) ≤ 2 := by omega
    simp only [toDays, hlate, if_false, hmonth, if_true, Int.add_sub_cancel, hera, hfrom]
    omega

/-- A date gives back the days that it is made from. -/
theorem toDays_ofDays (days : Int) : (ofDays days).toDays = days := by
  obtain ⟨century, cycle, year, day, h⟩ := exists_isDayOfEra_of_days days
  have hdayOfYear := h.dayOfYear_eq
  have hdays := Int.mul_ediv_add_emod (days + epochOffset) daysPerEra
  have hcentury := h.century_mem
  have hcycle := h.cycle_mem
  have hyear := h.year_mem
  have hday := h.day_mem
  have hyearOfEra : 0 ≤ 100 * century + 4 * cycle + year ∧
      100 * century + 4 * cycle + year < 400 := by
    omega
  have hmonth : 0 ≤ (5 * day + 2) / 153 ∧ (5 * day + 2) / 153 ≤ 11 := by omega
  have hdayOfMonth : 0 ≤ day - (153 * ((5 * day + 2) / 153) + 2) / 5 := by omega
  rw [ofDays_eq h, toDays_ofMarch hyearOfEra hmonth hdayOfMonth]
  dsimp only at hdayOfYear
  rw [Int.mul_comm] at hdays
  omega

/-- The year behind a leap day is a leap year. -/
theorem isLeapYear_of_cycle {era century cycle : Int} (hcycle : 0 ≤ cycle ∧ cycle ≤ 24)
    (hlast : cycle = 24 → century = 3) :
    isLeapYear (era * 400 + (100 * century + 4 * cycle + 3) + 1) = true := by
  simp only [isLeapYear, Bool.and_eq_true, Bool.or_eq_true, decide_eq_true_eq]
  omega

/-- There is such a day. -/
theorem isValid_ofDays (days : Int) : (ofDays days).isValid = true := by
  obtain ⟨century, cycle, year, day, h⟩ := exists_isDayOfEra_of_days days
  rw [ofDays_eq h]
  obtain ⟨-, hcentury, hcycle, hyear, hday, hleap⟩ := h
  generalize (days + epochOffset) / daysPerEra = era
  have hm : 153 * ((5 * day + 2) / 153) ≤ 5 * day + 2 ∧
      5 * day + 2 < 153 * ((5 * day + 2) / 153) + 153 := by
    omega
  generalize (5 * day + 2) / 153 = m at *
  simp only [isValid, Bool.and_eq_true, decide_eq_true_eq]
  refine ⟨⟨⟨?_, ?_⟩, ?_⟩, ?_⟩
  · omega
  · omega
  · omega
  · unfold daysInMonth
    split
    · next hfebruary =>
      have hearly : (if m < 10 then m + 3 else m - 9) ≤ 2 := by omega
      by_cases hlast : day = 365
      · obtain ⟨rfl, hcycleEnd⟩ := hleap hlast
        rw [if_pos hearly, if_pos (isLeapYear_of_cycle hcycle hcycleEnd)]
        omega
      · have hshort : ∀ leap : Bool, 28 ≤ if leap = true then 29 else 28 := by decide
        refine Nat.le_trans ?_ (hshort _)
        omega
    all_goals omega

/-- Months and days have two digits. -/
theorem lt_of_isValid {date : Date} (h : date.isValid = true) :
    date.month < 100 ∧ date.day < 100 := by
  simp only [isValid, Bool.and_eq_true, decide_eq_true_eq] at h
  have hdays : daysInMonth date.year date.month ≤ 31 := by
    unfold daysInMonth
    split
    · split <;> decide
    all_goals decide
  omega

/-- Years of four digits are in range. -/
theorem isInRange_of_year {date : Date} (h : 0 ≤ date.year ∧ date.year ≤ 9999) :
    date.isInRange = true := by
  have hleast : yearRange.1 ≤ date.year := Int.le_trans (by decide) h.1
  have hgreatest : date.year ≤ yearRange.2 := Int.le_trans h.2 (by decide)
  rw [isInRange, decide_eq_true hleast, decide_eq_true hgreatest]
  rfl

end VisualNovel.Date
