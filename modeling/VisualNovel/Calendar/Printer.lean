import VisualNovel.Calendar.Instant

/-!
# Writing dates and times

`Instant.toText` writes an instant in UTC with the fewest groups of three decimals that lose
nothing. `Instant.toMinute` is the short form for the player.
-/

namespace VisualNovel.Instant

/-- Digits with zeros in front up to the given width. -/
def padded (width n : Nat) : List Char :=
  let digits := Nat.toDigits 10 n
  List.replicate (width - digits.length) '0' ++ digits

/-- A year: four digits, or a sign and at least four digits outside the years 0 to 9999. -/
def yearChars (year : Int) : List Char :=
  if 0 ≤ year && year ≤ 9999 then padded 4 year.toNat
  else (if year < 0 then '-' else '+') :: padded 4 year.natAbs

/-- A date as year, month and day. -/
def dateChars (date : Date) : List Char :=
  yearChars date.year ++ '-' :: padded 2 date.month ++ '-' :: padded 2 date.day

/-- A fraction of a second: nothing, or a point and three, six or nine digits. -/
def fractionChars (nanos : Nat) : List Char :=
  if nanos = 0 then []
  else if nanos % 1000000 = 0 then '.' :: padded 3 (nanos / 1000000)
  else if nanos % 1000 = 0 then '.' :: padded 6 (nanos / 1000)
  else '.' :: padded 9 nanos

/-- The instant as the characters of its text. -/
def chars (t : Instant) : List Char :=
  dateChars t.date ++ 'T' :: padded 2 t.hour ++ ':' :: padded 2 t.minute ++ ':' :: padded 2 t.second
    ++ fractionChars t.subsecond ++ ['Z']

/-- The instant as text. -/
def toText (t : Instant) : String :=
  String.ofList t.chars

/-- The instant as text, up to the minute. -/
def toMinute (t : Instant) : String :=
  String.ofList (dateChars t.date ++ ' ' :: padded 2 t.hour ++ ':' :: padded 2 t.minute)

end VisualNovel.Instant
