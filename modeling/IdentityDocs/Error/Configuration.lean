import IdentityDocs.Document.Id

/-!
# Faults of settings and of typed arguments
-/

namespace IdentityDocs

/-- Why a setting, or a value that a user typed, is refused. -/
inductive ConfigurationError
  | invalidDocumentId (text : String) (fault : DocumentId.Fault)
  | unknownCategory (text : String)
  | unknownRecognizer (text : String)
  | emptySetting (key : String)
  | notAFlag (key value : String)
  | unknownSetting (key : String) (known : List String)
  /-- A fault that somebody else worded. -/
  | reported (text : String)
  deriving DecidableEq

/-- The wording of a fault. -/
def ConfigurationError.message : ConfigurationError → String
  | invalidDocumentId text fault =>
    s!"invalid document id {Text.quoted text}: {fault.message}"
  | unknownCategory text => s!"unknown document category: {text}"
  | unknownRecognizer text =>
    s!"unknown recognizer {Text.quoted text} (expected tesseract or ocrs)"
  | emptySetting key => s!"{key} cannot be empty"
  | notAFlag key value => s!"{key} expects true or false, got {Text.quoted value}"
  | unknownSetting key known =>
    let names := String.intercalate ", " known
    s!"unknown setting {Text.quoted key} (expected one of: {names})"
  | reported text => text

end IdentityDocs
