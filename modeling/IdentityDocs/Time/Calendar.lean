/-!
# The calendar

Days are counted from 1 January of the year 0 in the Gregorian calendar, which is extended to all
years before and after. `Date.ofDay` finds the date of a day and `Date.day` the day of a date.
-/

namespace IdentityDocs.Time

/-- Whether a year has a 29 February. -/
def isLeap (year : Int) : Bool := year % 4 = 0 && (year % 100 ≠ 0 || year % 400 = 0)

/-- The days from 1 January of the year 0 to 1 January of the given year. -/
def daysBeforeYear (year : Int) : Int :=
  365 * year + (year + 3) / 4 - (year + 99) / 100 + (year + 399) / 400

/-- The lengths of the months. -/
def monthLengths (leap : Bool) : List Nat :=
  [31, if leap then 29 else 28, 31, 30, 31, 30, 31, 31, 30, 31, 30, 31]

/-- The length of a month, counted from one; zero if there is no such month. -/
def monthLength (leap : Bool) (month : Nat) : Nat :=
  if month = 0 then 0 else (monthLengths leap).getD (month - 1) 0

/-- The days of the year before a month, counted from one. -/
def daysBeforeMonth (leap : Bool) (month : Nat) : Nat :=
  ((monthLengths leap).take (month - 1)).foldr (· + ·) 0

/-- A date: month and day are counted from one. -/
structure Date where
  year : Int
  month : Nat
  day : Nat
  deriving DecidableEq, Repr

/-- The year that a day lies in. The quotient by the mean length of a year is off by at most one. -/
def yearOfDay (n : Int) : Int :=
  let guess := 400 * n / 146097
  if n < daysBeforeYear guess then guess - 1
  else if daysBeforeYear (guess + 1) ≤ n then guess + 1
  else guess

/-- The month and the day of the month of a day of the year, which is counted from zero; `lengths`
are those of the months from `month` on. -/
def splitMonths (month : Nat) : List Nat → Nat → Nat × Nat
  | [], n => (month, n + 1)
  | length :: lengths, n =>
    if n < length then (month, n + 1) else splitMonths (month + 1) lengths (n - length)

/-- The date of a day. -/
def Date.ofDay (n : Int) : Date :=
  let year := yearOfDay n
  let (month, day) := splitMonths 1 (monthLengths (isLeap year)) (n - daysBeforeYear year).toNat
  ⟨year, month, day⟩

/-- Whether the calendar has the date. -/
def Date.exists? (d : Date) : Bool := 1 ≤ d.day && d.day ≤ monthLength (isLeap d.year) d.month

/-- The day of a date. -/
def Date.toDay (d : Date) : Int :=
  daysBeforeYear d.year + daysBeforeMonth (isLeap d.year) d.month + (d.day - 1 : Nat)

/-- The day on which the count of seconds begins, 1 January 1970. -/
def epochDay : Int := 719528

end IdentityDocs.Time
