import IdentityDocs.Json.Value
import IdentityDocs.Number.Binary

/-!
# Doubles and whole numbers in JSON

A double field takes every JSON number. The digits of a literal count as far as they make up a
number below two to the power of 64; what the others stand for is kept by the exponent of ten. Then
the number is scaled by a power of ten among the doubles, so that a long literal may be read as a
neighbour of the nearest double. A number too large for a double is refused and one too small
becomes zero. A whole-number field takes only whole literals within 64 bits.
-/

namespace IdentityDocs.Json

namespace Number

/-- Two to the power of 64. -/
def gatherBound : Nat := 18446744073709551616

/-- The number that digits make up after those gathered already, up to the first digit that would
carry it over the bound, and the digits from that one on. -/
def gather (gathered : Nat) : List Char → Nat × List Char
  | [] => (gathered, [])
  | d :: digits =>
    let next := gathered * 10 + (d.toNat - 48)
    if next < gatherBound then gather next digits else (gathered, d :: digits)

/-- The greatest exponent of ten that a double can have. -/
def maxPower : Nat := 308

/-- Ten to a power that a double can have, as a double. -/
def power (n : Nat) : Float := Float.ofScientific 1 false n

/-- A double times a power of ten; `none` if it is too large. A power beyond the range of doubles is
taken in steps, of which `steps` bounds the number: after three of them nothing is left. -/
def scaled? : (steps : Nat) → Float → (exponent : Int) → Option Float
  | 0, _, _ => some 0.0
  | steps + 1, x, exponent =>
    if exponent.natAbs ≤ maxPower then
      let x := if 0 ≤ exponent then x * power exponent.natAbs else x / power exponent.natAbs
      if x.isInf then none else some x
    else if x == 0.0 then some x
    else if 0 ≤ exponent then none
    else scaled? steps (x / power maxPower) (exponent + maxPower)

/-- The size of the number with the given digits before and after the point, and the given exponent
of ten; `none` if it is too large. -/
def size? (integral fraction : List Char) (exponent : Int) : Option Float :=
  let (gathered, left) := gather 0 integral
  let (gathered, left') := gather gathered fraction
  let places : Int := fraction.length - left'.length
  scaled? 4 (Float.ofNat gathered) (left.length - places + exponent)

/-- The double that the number is read as; `none` if it is too large. -/
def toFloat? (n : Number) : Option Float :=
  match n with
  | whole v =>
    (size? (Nat.toDigits 10 v.natAbs) [] 0).map fun size => if v < 0 then -size else size
  | decimal negative integral fraction exponent =>
    (size? integral fraction exponent).map fun size => if negative then -size else size

/-- The size of the least number that 64 bits with sign can hold. -/
def int64Bound : Int := 9223372036854775808

/-- The whole number, if the literal is one and fits into 64 bits with sign. -/
def toInt64? : Number → Option Int
  | whole v => if -int64Bound ≤ v ∧ v < int64Bound then some v else none
  | decimal .. => none

/-- The number that a double is, without rounding: a finite double is a whole number times a power
of two, and one with a negative exponent has as many decimal places as that power. -/
def ofFloat? (x : Float) : Option Number :=
  match Binary.ofFloat x with
  | .finite negative m q =>
    if q < 0 then some (decimal negative (Nat.toDigits 10 (m * Nat.pow 5 q.natAbs)) [] q)
    else some (decimal negative (Nat.toDigits 10 (m <<< q.natAbs)) [] 0)
  | _ => none

end Number

/-- The double, if the value is a number that fits into one. -/
def float? : Json → Option Float
  | number n => n.toFloat?
  | _ => none

/-- The 64-bit whole number, if the value is one. -/
def int64? : Json → Option Int
  | number n => n.toInt64?
  | _ => none

/-- A double as a JSON value; what is not finite has no number and becomes `null`. -/
def ofFloat (x : Float) : Json :=
  match Number.ofFloat? x with
  | some n => number n
  | none => null

end IdentityDocs.Json
