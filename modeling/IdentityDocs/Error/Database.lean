/-!
# Faults of the two databases
-/

namespace IdentityDocs

/-- What the record store was doing when its database failed. -/
inductive StoreActivity
  | opening
  | settingJournal
  | preparing
  | inserting
  | marking
  | updating
  | reviewing
  | deleting
  | lookingUp
  | readingRow
  deriving DecidableEq

/-- The wording of an activity. -/
def StoreActivity.text : StoreActivity → String
  | opening => "open"
  | settingJournal => "WAL pragma"
  | preparing => "prepare"
  | inserting => "insert document"
  | marking => "update status"
  | updating => "update document record"
  | reviewing => "record review"
  | deleting => "delete document"
  | lookingUp => "lookup document"
  | readingRow => "row parse"

/-- What is wrong with a database or with a statement on it. -/
inductive DatabaseFault
  | cannotOpen (path : String)
  | notADatabase
  | noSuchTable (table : String)
  | notUnique (table column : String)
  | missingValue (table column : String)
  /-- The text in a column does not denote a value of the column's type. -/
  | conversion (column : Nat)
  deriving DecidableEq

/-- The wording of a fault. -/
def DatabaseFault.message : DatabaseFault → String
  | cannotOpen path => s!"unable to open database file: {path}"
  | notADatabase => "file is not a database"
  | noSuchTable table => s!"no such table: {table}"
  | notUnique table column => s!"UNIQUE constraint failed: {table}.{column}"
  | missingValue table column => s!"NOT NULL constraint failed: {table}.{column}"
  | conversion column => s!"Conversion error from type Text at index: {column}"

/-- A failure of the record store or of the audit log. -/
inductive DatabaseError
  | store (activity : StoreActivity) (fault : DatabaseFault)
  | audit (fault : DatabaseFault)
  /-- A failure that somebody else worded. -/
  | reported (text : String)
  deriving DecidableEq

/-- The wording of a failure. -/
def DatabaseError.message : DatabaseError → String
  | store activity fault => s!"{activity.text}: {fault.message}"
  | audit fault => fault.message
  | reported text => text

end IdentityDocs
