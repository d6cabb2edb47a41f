import IdentityDocs.Document.Record
import IdentityDocs.Error.Basic
import IdentityDocs.Json.Printer
import IdentityDocs.Json.Reader

/-!
# Rows of the record store

The store keeps a record as a row of columns. Most columns hold text: the identifier in its
canonical spelling, kind and status and the extracted values as JSON, instants in their stored form.
`Row.ofRecord` writes a row, and `Row.record?` reads it back. A row that was tampered with may not
be readable; it is then known which column is the first that is not.
-/

namespace IdentityDocs

/-- A row of the record store. -/
structure Row where
  id : String
  owner : String
  kind : String
  path : String
  uploadName : String
  mimeType : Option String
  status : String
  confidence : Float
  extractedData : Option String
  comments : Option String
  createdAt : String
  updatedAt : String

namespace Row

/-- The stored text of a choice. -/
def choiceText {α : Type} [Enumerated α] (a : α) : String := (Json.ofChoice a).compact

/-- The stored text of a status. -/
def statusText (status : VerificationStatus) : String := choiceText status

/-- The stored text of extracted values. -/
def dataText (data : TextMap) : String := (Json.ofTextMap data).compact

/-- The stored form of a double: a zero loses its sign. -/
def storedNumber (x : Float) : Float := if x == 0.0 then 0.0 else x

/-- The row of a record. -/
def ofRecord (r : DocumentRecord) : Row where
  id := r.id.text
  owner := r.owner
  kind := choiceText r.kind
  path := r.path.text
  uploadName := r.uploadName
  mimeType := r.mimeType
  status := statusText r.status
  confidence := storedNumber r.confidence
  extractedData := r.extractedData.map dataText
  comments := r.comments
  createdAt := r.createdAt.stamp
  updatedAt := r.updatedAt.stamp

/-- The places of the columns that may not be readable. -/
inductive Column
  | id | kind | status | extractedData | createdAt | updatedAt
  deriving DecidableEq

/-- The place of a column among all columns. -/
def Column.index : Column → Nat
  | id => 0
  | kind => 2
  | status => 6
  | extractedData => 8
  | createdAt => 10
  | updatedAt => 11

/-- The value that was read, or else the column that it was read from. -/
def orColumn {α : Type} (column : Column) : Option α → Except Column α
  | some a => .ok a
  | none => .error column

/-- Reads stored JSON. -/
def readJson? {α : Type} (read : Json → Option α) (text : String) : Option α :=
  (Json.parse? text).bind read

/-- Reads the stored text of extracted values, which may be missing. -/
def readData? : Option String → Option (Option TextMap)
  | none => some none
  | some text => (readJson? Json.textMap? text).map some

/-- The record of a row, or the first column that is not readable. -/
def record? (row : Row) : Except Column DocumentRecord := do
  let id ← orColumn .id (DocumentId.ofText? row.id)
  let kind ← orColumn .kind (readJson? Json.choice? row.kind)
  let status ← orColumn .status (readJson? Json.choice? row.status)
  let extractedData ← orColumn .extractedData (readData? row.extractedData)
  let createdAt ← orColumn .createdAt (Instant.ofStamp? row.createdAt)
  let updatedAt ← orColumn .updatedAt (Instant.ofStamp? row.updatedAt)
  return {
    id, kind, status, extractedData, createdAt, updatedAt
    owner := row.owner
    path := .ofText row.path
    uploadName := row.uploadName
    mimeType := row.mimeType
    confidence := row.confidence
    comments := row.comments }

/-- The record of a row, or an error that names the column. -/
def record (row : Row) : Except Error DocumentRecord :=
  match row.record? with
  | .ok r => .ok r
  | .error column => .error (.database (.store .readingRow (.conversion column.index)))

end Row

end IdentityDocs
