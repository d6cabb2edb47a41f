import IdentityDocs.Document.Classification
import IdentityDocs.Document.Fields
import IdentityDocs.Error.StatusChange
import IdentityDocs.Number.Whole

/-!
# Results of an analysis

What one analysis of a document came to. An analysis never rejects: it verifies, or it leaves the
document to a reviewer. That is why a result carries a verdict of two values and not a status.
-/

namespace IdentityDocs

/-- Whether an analysis ran to its end. -/
inductive Outcome
  | completed
  | failed
  deriving DecidableEq, Repr

namespace Outcome

/-- The name of an outcome. -/
def name : Outcome → String
  | completed => "completed"
  | failed => "failed"

instance : Enumerated Outcome where
  all := [completed, failed]
  name := name
  mem_all a := by cases a <;> decide
  name_injective a b := by cases a <;> cases b <;> decide

end Outcome

/-- What an analysis may decide. -/
inductive Verdict
  /-- Left to a reviewer. -/
  | pending
  | verified
  deriving DecidableEq, Repr

namespace Verdict

/-- The status that a verdict gives a document. -/
def status : Verdict → VerificationStatus
  | pending => .pending
  | verified => .verified

/-- The verdict that comes closest to a status: what is not verified is left to a reviewer. -/
def ofStatus : VerificationStatus → Verdict
  | .verified => verified
  | _ => pending

end Verdict

/-- The result of an analysis. -/
structure AnalysisResult where
  outcome : Outcome
  classification : Classification
  fields : Fields
  confidence : Float
  verdict : Verdict
  rawText : String
  notes : String

namespace AnalysisResult

/-- The result of an analysis that ran to its end; the confidence is kept between zero and one. -/
def completed (classification : Classification) (fields : Fields) (confidence : Float)
    (status : VerificationStatus) (rawText notes : String) : AnalysisResult where
  outcome := .completed
  classification := classification
  fields := fields
  confidence := Number.clamp 0.0 1.0 confidence
  verdict := .ofStatus status
  rawText := rawText
  notes := notes

/-- The result of an analysis that was cut short: nothing is known, and a reviewer decides. -/
def failed (reason : String) : AnalysisResult where
  outcome := .failed
  classification := .unknown
  fields := {}
  confidence := 0.0
  verdict := .pending
  rawText := ""
  notes := s!"AI processing failed: {reason}"

/-- The status that the result gives the document. -/
def status (r : AnalysisResult) : VerificationStatus := r.verdict.status

/-- The detected category. -/
def category (r : AnalysisResult) : Category := r.classification.category

/-- The confidence as readers see it. -/
def percent (r : AnalysisResult) : String := Number.percentText r.confidence ++ "%"

/-- The values that are stored with the document. A labelled value never hides one of the fixed
keys. -/
def extractedData (r : AnalysisResult) : TextMap :=
  r.fields.labels
    |>.insert "document_type" r.category.label
    |>.insert "id_number" r.fields.idNumber.display
    |>.insert "dob" r.fields.dateOfBirth.display
    |>.insert "name_guess" r.fields.name.display
    |>.insert "ai_confidence" r.percent
    |>.insert "raw_text" r.rawText

/-- Writes a result. -/
def toJson (r : AnalysisResult) : Json :=
  .object [("outcome", .ofChoice r.outcome), ("classification", r.classification.toJson),
    ("fields", r.fields.toJson), ("confidence", .ofFloat r.confidence),
    ("status", .ofChoice r.status), ("raw_text", .string r.rawText), ("notes", .string r.notes)]

end AnalysisResult

end IdentityDocs
