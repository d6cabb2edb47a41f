import IdentityDocs.Json.Number
import IdentityDocs.Json.Shape

/-!
# Entries of the audit log
-/

namespace IdentityDocs.Audit

/-- What an entry is about. -/
inductive Action
  | analysisCompleted
  | analysisFailed
  | review
  deriving DecidableEq, Repr

/-- The name of an action. -/
def Action.name : Action → String
  | analysisCompleted => "analysis_completed"
  | analysisFailed => "analysis_failed"
  | review => "review"

/-- An entry as a query gives it. -/
structure Entry where
  /-- The number of the entry in the log. -/
  id : Int
  /-- When it was made, in the stored form. -/
  timestamp : String
  action : String
  documentId : String
  /-- The digest of the image, or the identifier of the document if there was none to be had. -/
  fingerprint : String
  success : Bool
  details : Option String
  deriving DecidableEq

namespace Entry

/-- The names of the parts of an entry, in the order in which they are written. -/
def keys : List String :=
  ["id", "timestamp", "action", "document_id", "fingerprint", "success", "details"]

/-- Writes an entry. -/
def toJson (e : Entry) : Json :=
  .object [("id", .number (.whole e.id)), ("timestamp", .string e.timestamp),
    ("action", .string e.action), ("document_id", .string e.documentId),
    ("fingerprint", .string e.fingerprint), ("success", .bool e.success),
    ("details", e.details.elim .null .string)]

/-- Reads an entry; the details may be left out. -/
def ofJson? (j : Json) : Option Entry := do
  let [some id, some timestamp, some action, some documentId, some fingerprint, some success,
    details] ← j.fields? keys | none
  return {
    id := ← id.int64?
    timestamp := ← timestamp.string?
    action := ← action.string?
    documentId := ← documentId.string?
    fingerprint := ← fingerprint.string?
    success := ← success.bool?
    details := ← Json.optional Json.string? (details.getD .null) }

end Entry

end IdentityDocs.Audit
