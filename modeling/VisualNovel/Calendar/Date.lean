/-!
# Dates of the Gregorian calendar

Days are counted from 1 January 1970. Both directions work in years that begin in March, so that
a leap day is the last day of its year, and in eras of 400 years, which all have the same length.
-/

namespace VisualNovel

/-- A day of the proleptic Gregorian calendar. -/
structure Date where
  year : Int
  /-- From 1 for January. -/
  month : Nat
  /-- From 1. -/
  day : Nat
deriving DecidableEq, Repr

namespace Date

/-- Whether the year has a 29 February. -/
def isLeapYear (year : Int) : Bool :=
  year % 4 = 0 && (year % 100 ≠ 0 || year % 400 = 0)

/-- How many days the month has. -/
def daysInMonth (year : Int) (month : Nat) : Nat :=
  match month with
  | 2 => if isLeapYear year then 29 else 28
  | 4 | 6 | 9 | 11 => 30
  | _ => 31

/-- Whether there is such a day. -/
def isValid (date : Date) : Bool :=
  1 ≤ date.month && date.month ≤ 12 && 1 ≤ date.day
    && date.day ≤ daysInMonth date.year date.month

/-- The least and the greatest year that a recorded date may have. -/
def yearRange : Int × Int := (-262143, 262142)

/-- Whether the year lies in the range of recorded dates. -/
def isInRange (date : Date) : Bool :=
  yearRange.1 ≤ date.year && date.year ≤ yearRange.2

/-- The days of an era of 400 years. -/
def daysPerEra : Int := 146097

/-- The days from 1 March of the year 0 to 1 January 1970. -/
def epochOffset : Int := 719468

/-- How many days the date is after 1 January 1970. -/
def toDays (date : Date) : Int :=
  let month : Int := date.month
  let year := if month ≤ 2 then date.year - 1 else date.year
  let era := year / 400
  let yearOfEra := year % 400
  let monthFromMarch := (month + 9) % 12
  let dayOfYear := (153 * monthFromMarch + 2) / 5 + date.day - 1
  let dayOfEra := 365 * yearOfEra + yearOfEra / 4 - yearOfEra / 100 + dayOfYear
  era * daysPerEra + dayOfEra - epochOffset

/-- The date so many days after 1 January 1970. -/
def ofDays (days : Int) : Date :=
  let shifted := days + epochOffset
  let era := shifted / daysPerEra
  let dayOfEra := shifted % daysPerEra
  let yearOfEra := (dayOfEra - dayOfEra / 1460 + dayOfEra / 36524 - dayOfEra / 146096) / 365
  let dayOfYear := dayOfEra - (365 * yearOfEra + yearOfEra / 4 - yearOfEra / 100)
  let monthFromMarch := (5 * dayOfYear + 2) / 153
  let day := dayOfYear - (153 * monthFromMarch + 2) / 5 + 1
  let month := if monthFromMarch < 10 then monthFromMarch + 3 else monthFromMarch - 9
  let year := era * 400 + yearOfEra + if month ≤ 2 then 1 else 0
  ⟨year, month.toNat, day.toNat⟩

end Date
end VisualNovel
