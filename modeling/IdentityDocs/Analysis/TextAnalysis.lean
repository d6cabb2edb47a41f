import IdentityDocs.Analysis.Classifier
import IdentityDocs.Analysis.Extraction
import IdentityDocs.Analysis.Score

/-!
# The analysis of a text

Classification, extraction and confidence together. The form of an identifier may stand in for a
keyword, but it never overrules one.
-/

namespace IdentityDocs

/-- What the analysis of a text found. -/
structure TextAnalysis where
  classification : Classification
  /-- The keyword that decided the category. -/
  keyword : Option String
  /-- Whether the category follows from the form of the identifier alone. -/
  inferred : Bool
  fields : Fields
  confidence : Float
  verdict : Verdict

/-- A classification after the hint that an extraction may give. -/
def Classification.takeHint (c : Classification) : Option Category → Classification × Bool
  | some category => c.upgrade category
  | none => (c, false)

/-- Analyses a text. -/
def analyze (t : RecognizedText) : TextAnalysis :=
  let (classification, keyword) := classify t.raw
  let ⟨fields, hint⟩ := extract t
  let (classification, inferred) := classification.takeHint hint
  let confidence :=
    score classification.certainty fields.idNumber.isFound fields.name.isFound
  { classification, keyword, inferred, fields, confidence
    verdict := .ofConfidence confidence }

end IdentityDocs
