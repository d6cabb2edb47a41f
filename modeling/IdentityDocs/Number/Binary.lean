/-!
# Doubles in parts

A finite double is a sign, a whole number and a power of two. Taking it apart loses nothing, so what
is computed on the parts is exact.
-/

namespace IdentityDocs

/-- The parts of a double. -/
inductive Binary
  | nan
  | infinite (negative : Bool)
  /-- The number `significand` times two to the `exponent`, negated if `negative`. -/
  | finite (negative : Bool) (significand : Nat) (exponent : Int)
  deriving DecidableEq

namespace Binary

/-- Two to the power of 52: one more than the greatest fraction that is stored. A double that is not
tiny has it added to its fraction. -/
def hiddenBit : Nat := 4503599627370496

/-- The parts that the 64 bits of a double say. -/
def ofBits (bits : Nat) : Binary :=
  let negative := decide (bits >>> 63 = 1)
  let biased : Nat := bits >>> 52 % 2048
  let fraction : Nat := bits % hiddenBit
  if biased = 2047 then (if fraction = 0 then infinite negative else nan)
  else if biased = 0 then finite negative fraction (-1074)
  else finite negative (fraction + hiddenBit) (Int.ofNat biased - 1075)

/-- The parts of a double. -/
def ofFloat (x : Float) : Binary := ofBits x.toBits.toNat

end Binary

end IdentityDocs
