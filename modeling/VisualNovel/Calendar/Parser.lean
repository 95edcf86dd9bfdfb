import VisualNovel.Calendar.Instant
import VisualNovel.Text.Blank

/-!
# Reading dates and times

`Instant.ofText?` reads a date, a time of day and an offset from UTC. White space may stand
between the components, numbers need no leading zeros, and a year may have a sign.
-/

namespace VisualNovel.Instant

open Text (trimStart)

/-! ## Components -/

/-- The number given by at least one and at most `width` digits. -/
def digits? (width : Nat) (cs : List Char) : Option (Nat × List Char) :=
  let digits := (cs.take width).takeWhile Char.isDigit
  if digits.isEmpty then none else some (Nat.ofDigitChars 10 digits 0, cs.drop digits.length)

/-- The number given by at least one and at most `width` digits, after white space. -/
def number? (width : Nat) (cs : List Char) : Option (Nat × List Char) :=
  digits? width (trimStart cs)

/-- A year after white space: a sign and any number of digits directly after it, or up to four
digits. -/
def year? (cs : List Char) : Option (Int × List Char) :=
  match trimStart cs with
  | '-' :: rest => (digits? rest.length rest).map fun (n, rest) => (-n, rest)
  | '+' :: rest => (digits? rest.length rest).map fun (n, rest) => (n, rest)
  | cs => (digits? 4 cs).map fun (n, rest) => (n, rest)

/-- The given character, after white space. -/
def literal? (c : Char) (cs : List Char) : Option (List Char) :=
  match trimStart cs with
  | d :: rest => if d = c then some rest else none
  | [] => none

/-- A fraction of a second in nanoseconds: nothing, or a point and digits of which nine count. -/
def fraction? (cs : List Char) : Option (Nat × List Char) :=
  match cs with
  | '.' :: rest =>
    let digits := (rest.take 9).takeWhile Char.isDigit
    if digits.isEmpty then none
    else some (Nat.ofDigitChars 10 digits 0 * Nat.pow 10 (9 - digits.length),
      rest.dropWhile Char.isDigit)
  | _ => some (0, cs)

/-- The value of two digits. -/
def twoDigits? : List Char → Option (Nat × List Char)
  | a :: b :: rest =>
    if a.isDigit && b.isDigit then some (Nat.ofDigitChars 10 [a, b] 0, rest) else none
  | _ => none

/-- Hours and minutes of an offset, in seconds. Colons and white space may stand between them. -/
def offsetSize? (cs : List Char) : Option (Nat × List Char) := do
  let (hours, cs) ← twoDigits? cs
  let (minutes, cs) ← twoDigits? (cs.dropWhile fun c => c == ':' || Text.isBlank c)
  if hours < 24 && minutes < 60 then some (3600 * hours + 60 * minutes, cs) else none

/-- An offset from UTC in seconds: `Z`, the name `UTC`, or a sign with hours and minutes. The minus
sign proper counts as a minus. -/
def offset? (cs : List Char) : Option (Int × List Char) :=
  match cs with
  | 'Z' :: rest | 'z' :: rest => some (0, rest)
  | '+' :: rest => (offsetSize? rest).map fun (size, rest) => (size, rest)
  | '-' :: rest | '−' :: rest => (offsetSize? rest).map fun (size, rest) => (-size, rest)
  | cs => if (cs.take 3).map Char.toUpper = ['U', 'T', 'C'] then some (0, cs.drop 3) else none

/-! ## Whole texts -/

/-- A date. -/
def date? (cs : List Char) : Option (Date × List Char) := do
  let (year, cs) ← year? cs
  let cs ← literal? '-' cs
  let (month, cs) ← number? 2 cs
  let cs ← literal? '-' cs
  let (day, cs) ← number? 2 cs
  let date : Date := ⟨year, month, day⟩
  if date.isValid && date.isInRange then some (date, cs) else none

/-- A time of day: the seconds since midnight and the nanoseconds. The second 60 is a leap
second. -/
def time? (cs : List Char) : Option ((Nat × Nat) × List Char) := do
  let (hour, cs) ← number? 2 cs
  let cs ← literal? ':' cs
  let (minute, cs) ← number? 2 cs
  let cs ← literal? ':' cs
  let (second, cs) ← number? 2 cs
  let (nanos, cs) ← fraction? cs
  if hour < 24 && minute < 60 && second ≤ 60 then
    if second = 60 then some ((3600 * hour + 60 * minute + 59, nanosPerSecond + nanos), cs)
    else some ((3600 * hour + 60 * minute + second, nanos), cs)
  else none

/-- The instant that the characters spell. Its date has to be in range as written and in UTC. -/
def ofChars? (cs : List Char) : Option Instant := do
  let (date, cs) ← date? cs
  let cs ← match cs with
    | 'T' :: rest | 't' :: rest | ' ' :: rest => some rest
    | _ => none
  let ((seconds, nanos), cs) ← time? cs
  let (offset, cs) ← offset? (trimStart cs)
  let t ← ofParts? (date.toDays * secondsPerDay + seconds - offset) nanos
  if t.date.isInRange && (trimStart cs).isEmpty then some t else none

/-- The instant that the text spells. -/
def ofText? (text : String) : Option Instant :=
  ofChars? text.toList

end VisualNovel.Instant
