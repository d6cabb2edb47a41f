import IdentityDocs.Time.Instant

/-!
# Writing instants

An instant is written as a date and a time of day in universal time. The fraction has 0, 3, 6 or 9
digits, the fewest that lose nothing. Years from 0 to 9999 have four digits; all others have a sign
and at least four digits.
-/

namespace IdentityDocs.Time

/-- The last `width` decimal digits of a number. -/
def digits : (width n : Nat) → List Char
  | 0, _ => []
  | width + 1, n => digits width (n / 10) ++ [Nat.digitChar (n % 10)]

/-- A year. -/
def yearChars (year : Int) : List Char :=
  if 0 ≤ year ∧ year ≤ 9999 then digits 4 year.toNat
  else
    let size := Nat.toDigits 10 year.natAbs
    (if year < 0 then '-' else '+') :: List.replicate (4 - size.length) '0' ++ size

/-- A date. -/
def dateChars (d : Date) : List Char :=
  yearChars d.year ++ '-' :: digits 2 d.month ++ '-' :: digits 2 d.day

/-- Hour and minute. -/
def minuteChars (t : Instant) : List Char := digits 2 t.hour ++ ':' :: digits 2 t.minute

/-- Hour, minute and second. -/
def secondChars (t : Instant) : List Char := minuteChars t ++ ':' :: digits 2 t.second

/-- The fraction of a second, in nanoseconds. -/
def fractionChars (n : Nat) : List Char :=
  if n = 0 then []
  else if n % 1000000 = 0 then '.' :: digits 3 (n / 1000000)
  else if n % 1000 = 0 then '.' :: digits 6 (n / 1000)
  else '.' :: digits 9 n

/-- Date and time without an offset. -/
def bareChars (t : Instant) : List Char :=
  dateChars t.date ++ 'T' :: secondChars t ++ fractionChars t.fraction

end IdentityDocs.Time

namespace IdentityDocs.Instant

open Time

/-- The stored form of an instant, with a numerical offset. -/
def stamp (t : Instant) : String := String.ofList (bareChars t ++ ['+', '0', '0', ':', '0', '0'])

/-- The form of an instant in JSON, with the letter for universal time. -/
def zuluStamp (t : Instant) : String := String.ofList (bareChars t ++ ['Z'])

/-- The form of an instant in a list: to the minute. -/
def toMinute (t : Instant) : String :=
  String.ofList (dateChars t.date ++ ' ' :: minuteChars t)

/-- The form of an instant in a record that is shown: to the second. -/
def toSecond (t : Instant) : String :=
  String.ofList (dateChars t.date ++ ' ' :: secondChars t)

end IdentityDocs.Instant
