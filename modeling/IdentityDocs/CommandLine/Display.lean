import IdentityDocs.Audit.Entry
import IdentityDocs.Document.Record
import IdentityDocs.Document.Settings
import IdentityDocs.Number.Whole
import IdentityDocs.Text.Column

/-!
# What the user sees

Records as a table or one by one, the audit log, and the settings, each as lines of text.
-/

namespace IdentityDocs.CommandLine

open Text

/-! ## Tables of records -/

/-- The columns of a table, two blanks apart. -/
def columns (cells : List String) : String := String.intercalate "  " cells

/-- The heading of a table of records. -/
def tableHeading : String :=
  columns [padRight 36 "ID", padRight 10 "STATUS", padRight 5 "CONF", padRight 16 "CREATED",
    padRight 12 "OWNER", "NAME"]

/-- The line of a record in a table. -/
def tableLine (r : DocumentRecord) : String :=
  columns [padRight 36 r.id.text, padRight 10 r.status.name,
    padLeft 4 (Number.percentText r.confidence) ++ "%", padRight 16 r.createdAt.toMinute,
    padRight 12 r.owner, r.uploadName]

/-- A table of records; what is said in its place if there are none. -/
def tableLines (ifNone : String) : List DocumentRecord → List String
  | [] => [ifNone]
  | records => tableHeading :: records.map tableLine

/-! ## One record -/

/-- The name under which the recognized text is kept. It is long, and shown only on demand. -/
def recognizedTextKey : String := "raw_text"

/-- The lines of the extracted data. -/
def dataLines (withText : Bool) (data : TextMap) : List String :=
  (data.entries.filter fun (key, _) => withText || key ≠ recognizedTextKey).map
    fun (key, value) => "  " ++ padRight 14 key ++ " " ++ value

/-- A named part of a record. -/
def part (name value : String) : String := padRight 10 name ++ " " ++ value

/-- A named part of a record that may be missing. -/
def partIfAny (name : String) : Option String → List String
  | some value => [part name value]
  | none => []

/-- The lines of a record. -/
def recordLines (withText : Bool) (r : DocumentRecord) : List String :=
  [part "Document" r.id.text, part "Owner" r.owner, part "File" r.path.text]
    ++ partIfAny "Type" r.mimeType
    ++ [part "Status" r.status.name,
        part "Confidence" (Number.percentText r.confidence ++ "%"),
        part "Updated" r.updatedAt.toSecond]
    ++ partIfAny "Notes" r.comments
    ++ match r.extractedData with
      | some data => "Extracted:" :: dataLines withText data
      | none => []

/-! ## The audit log -/

/-- The characters that take up exactly the given number of bytes at the beginning of a text. -/
def takeBytes? : List Char → (count : Nat) → Option (List Char)
  | _, 0 => some []
  | [], _ + 1 => none
  | c :: cs, count =>
    if c.utf8Size ≤ count then (takeBytes? cs (count - c.utf8Size)).map (c :: ·) else none

/-- The beginning of a fingerprint; all of it if it cannot be cut there. -/
def shortened (fingerprint : String) : String :=
  match takeBytes? fingerprint.toList 12 with
  | some cs => String.ofList cs
  | none => fingerprint

/-- The line of an entry. -/
def entryLine (e : Audit.Entry) : String :=
  columns [padRight 25 e.timestamp, padRight 18 e.action, e.documentId,
    padRight 5 (if e.success then "ok" else "FAIL"), shortened e.fingerprint, e.details.getD ""]

/-- The line below the entries. -/
def totalLine (total : Nat) : String := s!"({total} entries total)"

/-! ## Settings -/

/-- The lines of the settings, and of the directory they are kept in. -/
def settingsLines (settings : Settings) (directory : Option Path) : List String :=
  settings.text :: match directory with
    | some directory => [s!"(data directory: {directory.text})"]
    | none => []

end IdentityDocs.CommandLine
