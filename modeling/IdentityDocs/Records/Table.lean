import IdentityDocs.Records.Row

/-!
# The table of records

The operations of the record store on its table. Each change is guarded by the stored status: an
analysis may begin on a document that is not decided, its result lands only while the document is
still being analysed, and a reviewer decides only when it is not. A change that its guard refuses
leaves the table as it is; it is an error only if there is no such document, or if it is a review.
-/

namespace IdentityDocs

/-- The rows of the record store, in the order in which they were inserted. -/
abbrev Table := List Row

namespace Table

/-- The name of the table in complaints. -/
def name : String := "documents"

/-- Whether a document has a row. -/
def has (t : Table) (id : DocumentId) : Bool := t.any fun row => row.id = id.text

/-- The stored statuses that a change may start from. -/
def admits (statuses : List VerificationStatus) (row : Row) : Bool :=
  statuses.any fun s => row.status = Row.statusText s

/-- Changes the row of a document if the guard admits it; `none` if no row was changed. -/
def amend (t : Table) (id : DocumentId) (guard : Row → Bool) (change : Row → Row) :
    Option Table :=
  if t.any fun row => row.id = id.text && guard row then
    some (t.map fun row => if row.id = id.text && guard row then change row else row)
  else none

/-- Enters a record. -/
def insert (t : Table) (r : DocumentRecord) : Except Error Table :=
  if r.confidence.isNaN then
    .error (.database (.store .inserting (.missingValue name "confidence")))
  else if t.has r.id then .error (.database (.store .inserting (.notUnique name "id")))
  else .ok (t ++ [.ofRecord r])

/-- What a change comes to that no row admitted: nothing, if the document has a row. -/
def unchanged (t : Table) (id : DocumentId) : Except Error Table :=
  if t.has id then .ok t else .error (.documentNotFound id)

/-- Marks a document as being analysed, unless a reviewer has decided. -/
def mark (t : Table) (id : DocumentId) (now : Instant) : Except Error Table :=
  match t.amend id (admits [.processing, .pending]) fun row =>
      { row with status := Row.statusText .processing, updatedAt := now.stamp } with
  | some t => .ok t
  | none => t.unchanged id

/-- The notes that are stored of a result. -/
def storedNotes (r : AnalysisResult) : Option String := if r.notes = "" then none else some r.notes

/-- Stores the result of an analysis in the record of a document that is being analysed. -/
def update (t : Table) (id : DocumentId) (r : AnalysisResult) (now : Instant) :
    Except Error Table :=
  match t.amend id (admits [.processing]) fun row =>
      { row with
        status := Row.statusText r.status
        confidence := Row.storedNumber r.confidence
        extractedData := some (Row.dataText r.extractedData)
        comments := storedNotes r
        updatedAt := now.stamp } with
  | some t =>
    if r.confidence.isNaN then
      .error (.database (.store .updating (.missingValue name "confidence")))
    else .ok t
  | none => t.unchanged id

/-- Whether a reviewer may give a status. -/
def isDecision (status : VerificationStatus) : Bool :=
  status = .verified || status = .rejected

/-- Stores the decision of a reviewer on a document that is not being analysed. -/
def review (t : Table) (id : DocumentId) (status : VerificationStatus) (comments : Option String)
    (now : Instant) : Except Error Table :=
  if isDecision status then
    match t.amend id (fun row => !admits [.processing] row) fun row =>
        { row with status := Row.statusText status, comments, updatedAt := now.stamp } with
    | some t => .ok t
    | none =>
      .error (if t.has id then .invalidStatus .stillAnalysed else .documentNotFound id)
  else .error (.invalidStatus (.notADecision status))

/-- Removes the record of a document, if there is one. -/
def delete (t : Table) (id : DocumentId) : Table := t.filter fun row => row.id ≠ id.text

/-- Rows by the text of the time they were entered, the greatest first. -/
def newestFirst (rows : List Row) : List Row :=
  rows.mergeSort fun a b => !decide (a.createdAt < b.createdAt)

/-- The records of rows, or the error of the first that is not readable. -/
def records (rows : List Row) : Except Error (List DocumentRecord) := rows.mapM Row.record

/-- The record of a document. -/
def get? (t : Table) (id : DocumentId) : Except Error (Option DocumentRecord) :=
  match records (t.filter fun row => row.id = id.text) with
  | .ok rs => .ok rs.getLast?
  | .error e => .error e

/-- All records, the newest first. -/
def all (t : Table) : Except Error (List DocumentRecord) := records (newestFirst t)

/-- The records of an owner, the newest first. -/
def ofOwner (t : Table) (owner : String) : Except Error (List DocumentRecord) :=
  records (newestFirst (t.filter fun row => row.owner = owner))

/-- The records that a reviewer may look at, the newest first. -/
def reviewQueue (t : Table) : Except Error (List DocumentRecord) :=
  records (newestFirst (t.filter (admits [.pending, .rejected])))

end Table

end IdentityDocs
