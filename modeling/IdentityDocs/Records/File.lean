import IdentityDocs.Files.Database
import IdentityDocs.Records.Store

/-!
# The file of the record store

The rows in their order, each as the array of its columns. A table that somebody removed is there
again, and empty, when the file is opened the next time. In a file that another program made, the
table has to be the one that the store makes itself.
-/

namespace IdentityDocs

namespace Row

/-- A column that may be missing. -/
def optionalColumn (value : Option String) : Json := value.elim .null .string

/-- The columns of a row. A double is kept as the number that its bits are. -/
def toJson (row : Row) : Json :=
  .array [.string row.id, .string row.owner, .string row.kind, .string row.path,
    .string row.uploadName, optionalColumn row.mimeType, .string row.status,
    .number (.whole row.confidence.toBits.toNat), optionalColumn row.extractedData,
    optionalColumn row.comments, .string row.createdAt, .string row.updatedAt]

/-- The row with the given columns. -/
def ofJson? : Json → Option Row
  | .array [.string id, .string owner, .string kind, .string path, .string uploadName, mimeType,
      .string status, .number (.whole confidence), extractedData, comments, .string createdAt,
      .string updatedAt] => do
    return {
      id, owner, kind, path, uploadName, status, createdAt, updatedAt
      confidence := Float.ofBits (UInt64.ofNat confidence.toNat)
      mimeType := ← Json.optional Json.string? mimeType
      extractedData := ← Json.optional Json.string? extractedData
      comments := ← Json.optional Json.string? comments }
  | _ => none

/-- The row that holds the given values. -/
def ofValues? : List Pages.Value → Option Row
  | [id, owner, kind, path, uploadName, mimeType, status, confidence, extractedData, comments,
      createdAt, updatedAt] => do
    return {
      id := ← id.text?
      owner := ← owner.text?
      kind := ← kind.text?
      path := ← path.text?
      uploadName := ← uploadName.text?
      mimeType := ← mimeType.optionalText?
      status := ← status.text?
      confidence := ← confidence.double?
      extractedData := ← extractedData.optionalText?
      comments := ← comments.optionalText?
      createdAt := ← createdAt.text?
      updatedAt := ← updatedAt.text? }
  | _ => none

end Row

namespace Store

/-- The words in which the table is made. -/
def words : String :=
  Table.name ++ " (\n        " ++ String.intercalate ",\n        "
    ["id TEXT PRIMARY KEY", "owner TEXT NOT NULL", "kind TEXT NOT NULL", "file_path TEXT NOT NULL",
      "original_name TEXT NOT NULL", "mime_type TEXT", "status TEXT NOT NULL",
      "confidence REAL NOT NULL DEFAULT 0.0", "extracted_data TEXT", "admin_comments TEXT",
      "created_at TEXT NOT NULL", "updated_at TEXT NOT NULL"] ++ "\n    )"

/-- How the record store is kept in a file. -/
def form : DatabaseForm Store where
  fresh := .empty
  write s := .object [(Table.name, s.table.elim .null fun rows => .array (rows.map Row.toJson))]
  read?
    | .object [(key, .array rows)] =>
      if key = Table.name then (rows.mapM Row.ofJson?).map fun rows => ⟨some rows⟩ else none
    | .object [(key, .null)] => if key = Table.name then some .empty else none
    | _ => none
  ofPages? file :=
    (file.rows? Table.name words fun entry => Row.ofValues? entry.values).map fun rows =>
      ⟨some rows⟩

/-- Opens the record store in a file. -/
def load (files : FileSystem) (p : Path) : FileSystem × Except Error Store :=
  match form.load files p with
  | (files, .ok store) => (files, .ok store)
  | (files, .error (.cannotOpen path)) =>
    (files, .error (.database (.store .opening (.cannotOpen path))))
  | (files, .error fault) => (files, .error (.database (.store .settingJournal fault)))

end Store

end IdentityDocs
