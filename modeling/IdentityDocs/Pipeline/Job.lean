import IdentityDocs.Document.Id
import IdentityDocs.Document.Settings
import IdentityDocs.Document.Category
import IdentityDocs.Files.Path

/-!
# Jobs
-/

namespace IdentityDocs

/-- All that an analysis needs to know of its document. -/
structure Job where
  documentId : DocumentId
  image : Path
  /-- What the document is said to be. It is compared with what is detected and decides nothing. -/
  claimed : Option Category := none
  language : String := defaultLanguage

end IdentityDocs
