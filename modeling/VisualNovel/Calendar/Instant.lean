import VisualNovel.Calendar.Date

/-!
# Instants

An instant is a number of seconds since the start of 1970 in UTC, not counting leap seconds, and
a number of nanoseconds. Within a leap second, which can only follow the last second of a minute,
the nanoseconds exceed a thousand million.
-/

namespace VisualNovel

/-- The nanoseconds of a second. -/
def nanosPerSecond : Nat := 1000000000

/-- Whether the nanoseconds can go with the seconds: a second has a thousand million, and the last
second of a minute may be followed by a leap second. -/
def Instant.IsRegular (unix : Int) (nanos : Nat) : Prop :=
  nanos < nanosPerSecond ∨ nanos < 2 * nanosPerSecond ∧ unix % 60 = 59

instance (unix : Int) (nanos : Nat) : Decidable (Instant.IsRegular unix nanos) :=
  inferInstanceAs (Decidable (_ ∨ _))

/-- A moment in time. -/
structure Instant where
  /-- The seconds since the start of 1970. -/
  unix : Int
  /-- The nanoseconds. -/
  nanos : Nat
  /-- The nanoseconds go with the seconds. -/
  isRegular : Instant.IsRegular unix nanos
deriving DecidableEq

namespace Instant

/-- The seconds of a day. -/
def secondsPerDay : Int := 86400

/-- A whole second. -/
def ofUnix (unix : Int) : Instant :=
  ⟨unix, 0, .inl (by decide)⟩

/-- Seconds and nanoseconds, if they go together. -/
def ofParts? (unix : Int) (nanos : Nat) : Option Instant :=
  if h : IsRegular unix nanos then some ⟨unix, nanos, h⟩ else none

/-- The date in UTC. -/
def date (t : Instant) : Date :=
  .ofDays (t.unix / secondsPerDay)

/-- The second of the day in UTC, from zero. -/
def secondOfDay (t : Instant) : Nat :=
  (t.unix % secondsPerDay).toNat

/-- The hour in UTC. -/
def hour (t : Instant) : Nat :=
  t.secondOfDay / 3600

/-- The minute in UTC. -/
def minute (t : Instant) : Nat :=
  t.secondOfDay / 60 % 60

/-- The second in UTC; 60 within a leap second. -/
def second (t : Instant) : Nat :=
  t.secondOfDay % 60 + t.nanos / nanosPerSecond

/-- The nanoseconds since the second began. -/
def subsecond (t : Instant) : Nat :=
  t.nanos % nanosPerSecond

end Instant
end VisualNovel
