import IdentityDocs.Time.Calendar

/-!
# Instants

An instant is a second of universal time and a fraction of it. A leap second is written as the
second before it with a fraction of one second or more.
-/

namespace IdentityDocs

/-- An instant. -/
structure Instant where
  /-- Whole seconds since 1 January 1970. -/
  seconds : Int
  /-- The fraction in nanoseconds; from one thousand million on it lies in a leap second. -/
  nanos : Nat
  deriving DecidableEq, Repr

namespace Instant

/-- The nanoseconds of a second. -/
def nanosPerSecond : Nat := 1000000000

/-- The instant a number of nanoseconds later; leap seconds are not counted. -/
def later (t : Instant) (nanos : Nat) : Instant :=
  let total := t.nanos + nanos
  ⟨t.seconds + (total / nanosPerSecond : Nat), total % nanosPerSecond⟩

/-- The day of the calendar that the instant lies in. -/
def day (t : Instant) : Int := t.seconds / 86400 + Time.epochDay

/-- The second of the day, from zero to 86399. -/
def secondOfDay (t : Instant) : Nat := (t.seconds % 86400).toNat

/-- The date of the instant. -/
def date (t : Instant) : Time.Date := .ofDay t.day

/-- Whether the instant lies in a leap second. -/
def inLeapSecond (t : Instant) : Bool := nanosPerSecond ≤ t.nanos

/-- The hour of the day. -/
def hour (t : Instant) : Nat := t.secondOfDay / 3600

/-- The minute of the hour. -/
def minute (t : Instant) : Nat := t.secondOfDay / 60 % 60

/-- The second of the minute; 60 in a leap second. -/
def second (t : Instant) : Nat := t.secondOfDay % 60 + if t.inLeapSecond then 1 else 0

/-- The nanoseconds since the second began. -/
def fraction (t : Instant) : Nat :=
  if t.inLeapSecond then t.nanos - nanosPerSecond else t.nanos

end Instant

end IdentityDocs
