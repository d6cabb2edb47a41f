/-!
# Keeping doubles within bounds
-/

namespace IdentityDocs.Number

/-- The double, moved to the nearer bound if it lies beyond one. What compares with neither bound,
a NaN or a negative zero at a bound of zero, stays as it is. -/
def clamp (low high x : Float) : Float :=
  let x := if x < low then low else x
  if high < x then high else x

end IdentityDocs.Number
