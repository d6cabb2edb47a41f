import IdentityDocs.Audit.Entry
import IdentityDocs.Error.Basic
import IdentityDocs.Time.Stamp

/-!
# The audit log

A log of every decision, to which entries are only ever appended. Entries are numbered from one in
the order in which they were made.
-/

namespace IdentityDocs.Audit

/-- What an entry says. -/
structure Item where
  timestamp : String
  action : String
  documentId : String
  fingerprint : String
  success : Bool
  details : Option String
  deriving DecidableEq

/-- The entry of an item with its number. -/
def Item.entry (item : Item) (number : Nat) : Entry where
  id := number
  timestamp := item.timestamp
  action := item.action
  documentId := item.documentId
  fingerprint := item.fingerprint
  success := item.success
  details := item.details

/-- The audit log. -/
structure Log where
  /-- What was recorded, the oldest first, if the table is there. -/
  items : Option (List Item)

namespace Log

/-- A new log. -/
def empty : Log := ⟨some []⟩

/-- The name of the table in complaints. -/
def tableName : String := "audit_log"

/-- Asks the log. -/
def ask {α : Type} (log : Log) (f : List Item → α) : Except Error α :=
  match log.items with
  | some items => .ok (f items)
  | none => .error (.database (.audit (.noSuchTable tableName)))

/-- Records a decision. -/
def record (log : Log) (action : String) (id : DocumentId) (fingerprint : String) (success : Bool)
    (details : Option String) (now : Instant) : Except Error Log :=
  log.ask fun items =>
    ⟨some (items ++ [⟨now.stamp, action, id.text, fingerprint, success, details⟩])⟩

/-- The entries of items, numbered from one. -/
def numbered (items : List Item) : List Entry :=
  items.zipIdx.map fun (item, i) => item.entry (i + 1)

/-- All entries, the oldest first. -/
def entries (log : Log) : Except Error (List Entry) := log.ask numbered

/-- The last entries, at most `limit`, the newest first. -/
def recent (log : Log) (limit : Nat) : Except Error (List Entry) :=
  log.ask fun items => (numbered items).reverse.take limit

/-- The entries on a document, the oldest first. -/
def onDocument (log : Log) (id : DocumentId) : Except Error (List Entry) :=
  log.ask fun items => (numbered items).filter fun e => e.documentId = id.text

/-- The number of entries. -/
def count (log : Log) : Except Error Nat := log.ask List.length

end Log

end IdentityDocs.Audit
