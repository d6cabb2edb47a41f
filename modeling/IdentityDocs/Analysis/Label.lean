import IdentityDocs.Document.Fields
import IdentityDocs.Text.Blank
import IdentityDocs.Text.Search

/-!
# Labelled values

A line that begins with a known label gives the label's value: the rest of the line from its first
letter or digit on, without blanks at the end. Values of at most two characters are noise. A label
may stand for a slot, and every label enters the map of labelled values.
-/

namespace IdentityDocs

/-- A label that a line may begin with. -/
structure Label where
  token : String
  /-- The slot that the label's value belongs to. -/
  slot : Option Field
  deriving DecidableEq

namespace Label

/-- The labels; the first one that a line begins with counts. -/
def all : List Label :=
  [⟨"NAME", some .name⟩, ⟨"FATHER", none⟩, ⟨"DOB", some .dateOfBirth⟩,
   ⟨"DATE OF BIRTH", some .dateOfBirth⟩, ⟨"ID NO", some .idNumber⟩,
   ⟨"ACCOUNT NO", some .idNumber⟩]

/-- A character of a key: in lower case, an underscore for a blank. -/
def keyChar (c : Char) : Char := if c = ' ' then '_' else c.toLower

/-- The key of a label in the map of labelled values. -/
def key (label : Label) : String := String.ofList (label.token.toList.map keyChar)

/-- The greatest number of characters of a value that is noise. -/
def maxNoiseLength : Nat := 2

/-- The value in the rest of a line. -/
def valueOf (rest : List Char) : List Char :=
  Text.trim (rest.dropWhile fun c => !c.isAlphanum)

/-- The label that a line begins with, and the rest of the line. -/
def ofLine? (line : List Char) : Option (Label × List Char) :=
  all.findSome? fun label =>
    (Text.stripPrefixFolded? label.token.toList line).map fun rest => (label, rest)

/-- The label of a line and its value, if it is not noise. -/
def readLine? (line : List Char) : Option (Label × String) :=
  match ofLine? line with
  | none => none
  | some (label, rest) =>
    let value := valueOf rest
    if value.length ≤ maxNoiseLength then none else some (label, String.ofList value)

end Label

namespace Fields

/-- The fields with a labelled value entered. -/
def enter (fields : Fields) (label : Label) (value : String) : Fields :=
  let fields := (fields.fillLabel label.key value).1
  match label.slot with
  | some slot => (fields.fill slot value).1
  | none => fields

/-- The fields with the labelled value of a line entered, if the line has one. -/
def enterLine (fields : Fields) (line : List Char) : Fields :=
  match Label.readLine? line with
  | some (label, value) => fields.enter label value
  | none => fields

/-- The fields with the labelled values of all lines entered. -/
def enterLines (fields : Fields) (lines : List (List Char)) : Fields :=
  lines.foldl enterLine fields

end Fields

end IdentityDocs
