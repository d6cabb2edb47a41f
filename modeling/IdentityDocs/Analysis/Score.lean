import IdentityDocs.Document.Result
import IdentityDocs.Number.Clamp

/-!
# Confidence

The confidence in an analysis is the certainty of the classification with a bonus for an identifier
and one for a name. It never reaches one, and above a threshold the document counts as verified.
-/

namespace IdentityDocs

/-- What an identifier adds to the confidence. -/
def idBonus : Float := 0.1

/-- What a name adds to the confidence. -/
def nameBonus : Float := 0.1

/-- The greatest confidence. -/
def maxConfidence : Float := 0.99

/-- A document is verified if the confidence in its analysis is above this. -/
def verifyThreshold : Float := 0.6

/-- The confidence in an analysis. A certainty that is no number gives none. -/
def score (certainty : Float) (hasId hasName : Bool) : Float :=
  let confidence := if hasId then certainty + idBonus else certainty
  let confidence := if hasName then confidence + nameBonus else confidence
  if confidence.isNaN then 0.0 else Number.clamp 0.0 maxConfidence confidence

/-- The verdict that a confidence leads to. -/
def Verdict.ofConfidence (confidence : Float) : Verdict :=
  if verifyThreshold < confidence then .verified else .pending

end IdentityDocs
