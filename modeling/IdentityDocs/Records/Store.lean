import IdentityDocs.Records.Table

/-!
# The record store

The store has one table. If somebody removes the table behind its back, every operation fails and
says what it was about to do.
-/

namespace IdentityDocs

/-- The record store. -/
structure Store where
  /-- The table, if it is there. -/
  table : Option Table

namespace Store

/-- A new store. -/
def empty : Store := ⟨some []⟩

/-- What an activity answers if the table is missing. -/
def missing {α : Type} (activity : StoreActivity) : Except Error α :=
  .error (.database (.store activity (.noSuchTable Table.name)))

/-- Changes the table. -/
def change (s : Store) (activity : StoreActivity) (f : Table → Except Error Table) :
    Except Error Store :=
  match s.table with
  | none => missing activity
  | some t => match f t with
    | .ok t => .ok ⟨some t⟩
    | .error e => .error e

/-- Asks the table. -/
def ask {α : Type} (s : Store) (f : Table → Except Error α) : Except Error α :=
  match s.table with
  | none => missing .preparing
  | some t => f t

/-- Enters a record. -/
def insert (s : Store) (r : DocumentRecord) : Except Error Store :=
  s.change .inserting (·.insert r)

/-- Marks a document as being analysed. -/
def mark (s : Store) (id : DocumentId) (now : Instant) : Except Error Store :=
  s.change .marking (·.mark id now)

/-- Stores the result of an analysis. -/
def update (s : Store) (id : DocumentId) (r : AnalysisResult) (now : Instant) :
    Except Error Store :=
  s.change .updating (·.update id r now)

/-- Stores the decision of a reviewer. A status that no reviewer gives is refused first of all. -/
def review (s : Store) (id : DocumentId) (status : VerificationStatus) (comments : Option String)
    (now : Instant) : Except Error Store :=
  if Table.isDecision status then s.change .reviewing (·.review id status comments now)
  else .error (.invalidStatus (.notADecision status))

/-- Removes the record of a document. -/
def delete (s : Store) (id : DocumentId) : Except Error Store :=
  s.change .deleting fun t => .ok (t.delete id)

/-- The record of a document. -/
def get? (s : Store) (id : DocumentId) : Except Error (Option DocumentRecord) := s.ask (·.get? id)

/-- All records, the newest first. -/
def all (s : Store) : Except Error (List DocumentRecord) := s.ask Table.all

/-- The records of an owner, the newest first. -/
def ofOwner (s : Store) (owner : String) : Except Error (List DocumentRecord) :=
  s.ask (·.ofOwner owner)

/-- The records that a reviewer may look at, the newest first. -/
def reviewQueue (s : Store) : Except Error (List DocumentRecord) := s.ask Table.reviewQueue

end Store

end IdentityDocs
