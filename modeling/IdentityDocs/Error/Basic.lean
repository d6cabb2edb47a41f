import IdentityDocs.Error.Configuration
import IdentityDocs.Error.Database
import IdentityDocs.Error.Image
import IdentityDocs.Error.Recognition
import IdentityDocs.Error.StatusChange

/-!
# Errors

Everything that can go wrong, by the part of the system it goes wrong in.
-/

namespace IdentityDocs

/-- An error of the system. -/
inductive Error
  | image (cause : ImageError)
  | recognition (cause : RecognitionError)
  | recognizerUnavailable (cause : UnavailableError)
  | workerStopped
  | database (cause : DatabaseError)
  | documentNotFound (id : DocumentId)
  | invalidStatus (cause : StatusError)
  | configuration (cause : ConfigurationError)
  | file (cause : FileError)
  deriving DecidableEq

/-- The wording of an error. -/
def Error.message : Error → String
  | image cause => s!"image processing failed: {cause.message}"
  | recognition cause => s!"text recognition failed: {cause.message}"
  | recognizerUnavailable cause => s!"text recognizer unavailable: {cause.message}"
  | workerStopped => "analysis worker has shut down"
  | database cause => s!"database error: {cause.message}"
  | documentNotFound id => s!"document {id.text} not found"
  | invalidStatus cause => s!"invalid status transition: {cause.message}"
  | configuration cause => s!"configuration error: {cause.message}"
  | file cause => s!"file I/O error: {cause.message}"

end IdentityDocs
