import IdentityDocs.Audit.Log
import IdentityDocs.Files.Database

/-!
# The file of the audit log

The entries in their order. A log that somebody removed is there again, and empty, when the file is
opened the next time. In a file that another program made, the table has to be the one that the log
makes itself, and no entry may be missing.
-/

namespace IdentityDocs.Audit

/-- The columns of an item. -/
def Item.toJson (item : Item) : Json :=
  .array [.string item.timestamp, .string item.action, .string item.documentId,
    .string item.fingerprint, .bool item.success, item.details.elim .null .string]

/-- The item with the given columns. -/
def Item.ofJson? : Json → Option Item
  | .array [.string timestamp, .string action, .string documentId, .string fingerprint,
      .bool success, details] => do
    return {
      timestamp, action, documentId, fingerprint, success
      details := ← Json.optional Json.string? details }
  | _ => none

/-- The item with its number that a row holds. -/
def Item.ofEntry? (entry : Pages.Entry) : Option (Nat × Item) :=
  match entry.values with
  | [.null, timestamp, action, documentId, fingerprint, .whole success, details] => do
    return (entry.number, {
      timestamp := ← timestamp.text?
      action := ← action.text?
      documentId := ← documentId.text?
      fingerprint := ← fingerprint.text?
      success := success ≠ 0
      details := ← details.optionalText? })
  | _ => none

namespace Log

/-- The words in which the table is made. -/
def words : String :=
  tableName ++ " (\n        " ++ String.intercalate ",\n        "
    ["id           INTEGER PRIMARY KEY AUTOINCREMENT", "timestamp    TEXT    NOT NULL",
      "action       TEXT    NOT NULL", "document_id  TEXT    NOT NULL",
      "fingerprint  TEXT    NOT NULL", "success      INTEGER NOT NULL", "details      TEXT"] ++
    "\n    )"

/-- The greatest number that an entry was ever given. -/
def lastNumber? (file : Pages.File) : Option Int := do
  let lasts ← file.rows? "sqlite_sequence" "sqlite_sequence(name,seq)" fun entry =>
    match entry.values with
    | [.text name, .whole last] => some (name, last)
    | _ => none
  return (lasts.lookup tableName).getD 0

/-- How the audit log is kept in a file. -/
def form : DatabaseForm Log where
  fresh := .empty
  write log :=
    .object [(tableName, log.items.elim .null fun items => .array (items.map Item.toJson))]
  read?
    | .object [(key, .array items)] =>
      if key = tableName then (items.mapM Item.ofJson?).map fun items => ⟨some items⟩ else none
    | .object [(key, .null)] => if key = tableName then some .empty else none
    | _ => none
  ofPages? file := do
    let numbered ← file.rows? tableName words Item.ofEntry?
    let last ← lastNumber? file
    if numbered.map Prod.fst = List.range' 1 numbered.length ∧ last = numbered.length then
      some ⟨some (numbered.map Prod.snd)⟩
    else none

/-- Opens the audit log in a file. -/
def load (files : FileSystem) (p : Path) : FileSystem × Except Error Log :=
  match form.load files p with
  | (files, .ok log) => (files, .ok log)
  | (files, .error fault) => (files, .error (.database (.audit fault)))

end Log

end IdentityDocs.Audit
