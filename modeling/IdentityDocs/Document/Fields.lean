import IdentityDocs.Json.Shape

/-!
# Fields of a document

Three slots and a map of labelled values. Each slot, and each key of the map, takes the first value
that is written to it and refuses every later one.
-/

namespace IdentityDocs

/-- What a slot holds. -/
inductive FieldValue
  | notFound
  | found (value : String)
  deriving DecidableEq, Repr

namespace FieldValue

/-- Whether the slot holds a value. -/
def isFound : FieldValue → Bool
  | notFound => false
  | found _ => true

/-- The value, or the text that stands for none. -/
def display : FieldValue → String
  | notFound => "Not Found"
  | found value => value

/-- Writes what a slot holds. -/
def toJson : FieldValue → Json
  | notFound => .string "NotFound"
  | found value => .object [("Found", .string value)]

/-- Reads what a slot holds. -/
def ofJson? : Json → Option FieldValue
  | .string "NotFound" => some notFound
  | .object [("NotFound", .null)] => some notFound
  | .object [("Found", .string value)] => some (found value)
  | _ => none

end FieldValue

/-- The slots of a document. -/
inductive Field
  | idNumber
  | name
  | dateOfBirth
  deriving DecidableEq, Repr

/-- The values found in a document. -/
structure Fields where
  idNumber : FieldValue := .notFound
  name : FieldValue := .notFound
  dateOfBirth : FieldValue := .notFound
  /-- Labelled values, by the label in lower case with underscores for blanks. -/
  labels : TextMap := .empty

namespace Fields

/-- What a slot holds. -/
def get (fields : Fields) : Field → FieldValue
  | .idNumber => fields.idNumber
  | .name => fields.name
  | .dateOfBirth => fields.dateOfBirth

/-- The fields with a slot overwritten. -/
def set (fields : Fields) (slot : Field) (value : FieldValue) : Fields :=
  match slot with
  | .idNumber => { fields with idNumber := value }
  | .name => { fields with name := value }
  | .dateOfBirth => { fields with dateOfBirth := value }

/-- Writes a value into a slot that holds none; tells whether it did. -/
def fill (fields : Fields) (slot : Field) (value : String) : Fields × Bool :=
  match fields.get slot with
  | .found _ => (fields, false)
  | .notFound => (fields.set slot (.found value), true)

/-- Writes a labelled value for a key that has none; tells whether it did. -/
def fillLabel (fields : Fields) (key value : String) : Fields × Bool :=
  match fields.labels.get? key with
  | some _ => (fields, false)
  | none => ({ fields with labels := fields.labels.insert key value }, true)

@[simp] theorem get_set (fields : Fields) (slot other : Field) (value : FieldValue) :
    (fields.set slot value).get other = if other = slot then value else fields.get other := by
  cases slot <;> cases other <;> rfl

@[simp] theorem labels_set (fields : Fields) (slot : Field) (value : FieldValue) :
    (fields.set slot value).labels = fields.labels := by
  cases slot <;> rfl

/-- Writes the fields. -/
def toJson (fields : Fields) : Json :=
  .object [("id_number", fields.idNumber.toJson), ("name", fields.name.toJson),
    ("date_of_birth", fields.dateOfBirth.toJson), ("labels", .ofTextMap fields.labels)]

/-- Reads the fields. -/
def ofJson? (j : Json) : Option Fields := do
  let [some idNumber, some name, some dateOfBirth, some labels] ←
    j.fields? ["id_number", "name", "date_of_birth", "labels"] | none
  return {
    idNumber := ← FieldValue.ofJson? idNumber
    name := ← FieldValue.ofJson? name
    dateOfBirth := ← FieldValue.ofJson? dateOfBirth
    labels := ← labels.textMap? }

end Fields

end IdentityDocs
