import IdentityDocs.Json.Shape

/-!
# Verification states and refused changes of them
-/

namespace IdentityDocs

/-- Where the verification of a document stands. -/
inductive VerificationStatus
  /-- Analysis has been scheduled or is running. -/
  | processing
  /-- Waiting for a reviewer. -/
  | pending
  | verified
  /-- Set by reviewers only. -/
  | rejected
  deriving DecidableEq, Repr

namespace VerificationStatus

/-- The name of a status. -/
def name : VerificationStatus → String
  | processing => "processing"
  | pending => "pending"
  | verified => "verified"
  | rejected => "rejected"

instance : Enumerated VerificationStatus where
  all := [processing, pending, verified, rejected]
  name := name
  mem_all a := by cases a <;> decide
  name_injective a b := by cases a <;> cases b <;> decide

end VerificationStatus

/-- Why a change of status is refused. -/
inductive StatusError
  | unknownStatus (text : String)
  /-- A review asked for a status that no reviewer gives. -/
  | notADecision (status : VerificationStatus)
  /-- A review came before the analysis was over. -/
  | stillAnalysed
  /-- A refusal that somebody else worded. -/
  | reported (text : String)
  deriving DecidableEq

/-- The wording of a refusal. -/
def StatusError.message : StatusError → String
  | unknownStatus text => s!"unknown status: {text}"
  | notADecision status => s!"a review must verify or reject, not set {status.name}"
  | stillAnalysed => "document is still being analysed"
  | reported text => text

end IdentityDocs
