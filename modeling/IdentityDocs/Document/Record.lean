import IdentityDocs.Document.Id
import IdentityDocs.Document.Kind
import IdentityDocs.Document.Result
import IdentityDocs.Files.Path
import IdentityDocs.Time.Reader
import IdentityDocs.Time.Stamp

/-!
# Document records

What is kept of a document that was handed in. The image itself stays where it is.
-/

namespace IdentityDocs

/-- The record of a document. -/
structure DocumentRecord where
  id : DocumentId
  /-- Who handed the document in. -/
  owner : String
  kind : DocumentKind
  /-- Where the image lies. -/
  path : Path
  /-- The name under which the image was handed in. -/
  uploadName : String
  mimeType : Option String
  status : VerificationStatus
  confidence : Float
  extractedData : Option TextMap
  /-- What the last analysis or the last reviewer noted. -/
  comments : Option String
  createdAt : Instant
  updatedAt : Instant

/-- The record of a document that was just handed in and waits for its analysis. -/
def DocumentRecord.fresh (id : DocumentId) (owner : String) (kind : DocumentKind) (path : Path)
    (uploadName : String) (mimeType : Option String) (now : Instant) : DocumentRecord where
  id := id
  owner := owner
  kind := kind
  path := path
  uploadName := uploadName
  mimeType := mimeType
  status := .processing
  confidence := 0.0
  extractedData := none
  comments := none
  createdAt := now
  updatedAt := now

namespace DocumentRecord

/-- The names of the parts of a record, in the order in which they are written. -/
def keys : List String :=
  ["id", "owner", "kind", "file_path", "original_name", "mime_type", "status", "confidence",
   "extracted_data", "admin_comments", "created_at", "updated_at"]

/-- Writes a value that may be missing. -/
def optionalText (value : Option String) : Json := value.elim .null .string

/-- Writes a record. -/
def toJson (r : DocumentRecord) : Json :=
  .object [("id", .string r.id.text), ("owner", .string r.owner), ("kind", .ofChoice r.kind),
    ("file_path", .string r.path.text), ("original_name", .string r.uploadName),
    ("mime_type", optionalText r.mimeType), ("status", .ofChoice r.status),
    ("confidence", .ofFloat r.confidence),
    ("extracted_data", r.extractedData.elim .null .ofTextMap),
    ("admin_comments", optionalText r.comments), ("created_at", .string r.createdAt.zuluStamp),
    ("updated_at", .string r.updatedAt.zuluStamp)]

/-- Reads a record; what may be missing may be left out. -/
def ofJson? (j : Json) : Option DocumentRecord := do
  let [some id, some owner, some kind, some path, some uploadName, mimeType, some status,
    some confidence, extractedData, comments, some createdAt, some updatedAt] ←
    j.fields? keys | none
  return {
    id := ← id.string?.bind DocumentId.ofText?
    owner := ← owner.string?
    kind := ← kind.choice?
    path := .ofText (← path.string?)
    uploadName := ← uploadName.string?
    mimeType := ← Json.optional Json.string? (mimeType.getD .null)
    status := ← status.choice?
    confidence := ← confidence.float?
    extractedData := ← Json.optional Json.textMap? (extractedData.getD .null)
    comments := ← Json.optional Json.string? (comments.getD .null)
    createdAt := ← createdAt.string?.bind Instant.ofLooseStamp?
    updatedAt := ← updatedAt.string?.bind Instant.ofLooseStamp? }

end DocumentRecord

end IdentityDocs
