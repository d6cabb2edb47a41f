import IdentityDocs.Number.Binary

/-!
# Doubles without decimal places

A double is shown as the nearest whole number. The choice is made on the exact value, and of two
equally near whole numbers the even one is taken. The sign of a zero shows.
-/

namespace IdentityDocs.Number

/-- The whole number nearest to `num / den`, the even one of two. -/
def roundHalfEven (num den : Nat) : Nat :=
  let below := num / den
  let rest := 2 * (num % den)
  if rest < den ∨ (rest = den ∧ below % 2 = 0) then below else below + 1

/-- The whole number nearest to the size of a double in parts. -/
def nearestWhole (significand : Nat) (exponent : Int) : Nat :=
  if 0 ≤ exponent then significand <<< exponent.toNat
  else roundHalfEven significand (1 <<< exponent.natAbs)

/-- The text of a double without decimal places. -/
def wholeText (x : Float) : String :=
  match Binary.ofFloat x with
  | .nan => "NaN"
  | .infinite negative => if negative then "-inf" else "inf"
  | .finite negative significand exponent =>
    (if negative then "-" else "") ++ toString (nearestWhole significand exponent)

/-- The text of a share as a whole number of hundredths, without a sign for the unit. -/
def percentText (x : Float) : String := wholeText (x * 100.0)

end IdentityDocs.Number
