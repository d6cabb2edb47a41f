import IdentityDocs.Analysis.Identifier
import IdentityDocs.Analysis.Label
import IdentityDocs.Analysis.RecognizedText
import IdentityDocs.Text.Upper

/-!
# Extraction of fields

Labelled values come first. An identifier is searched by its form only if no label gave one, and a
name is guessed only if no label gave one: it is the line after the first line that speaks of a name
or of income tax, if it consists of capitals, blanks and full stops.
-/

namespace IdentityDocs

/-- What stands in a line, in upper case, that is usually followed by the holder's name. -/
def nameAnchors : List String := ["NAME", "INCOME TAX"]

/-- Whether the line after this one is likely to be the holder's name. -/
def isNameAnchor (line : List Char) : Bool :=
  nameAnchors.any fun anchor => Text.occursIn anchor.toList (Text.upper line)

/-- Whether a line looks like a name. -/
def looksLikeName (line : List Char) : Bool :=
  !line.isEmpty && line.all fun c => isCapital c || Text.isBlank c || c == '.'

/-- The line after the first anchor, if it looks like a name. -/
def guessName? (lines : List (List Char)) : Option (List Char) :=
  match lines.dropWhile fun line => !isNameAnchor line with
  | _ :: candidate :: _ => if looksLikeName candidate then some candidate else none
  | _ => none

/-- The fields of a text, and the category that the form of its identifier hints at. -/
structure Extraction where
  fields : Fields
  hint : Option Category

/-- The fields with an identifier searched by its form, if there is none yet. -/
def Fields.searchIdentifier (fields : Fields) (raw : List Char) : Extraction :=
  if fields.idNumber.isFound then ⟨fields, none⟩
  else match identifier? raw with
    | some (number, category) =>
      ⟨(fields.fill .idNumber (String.ofList number)).1, some category⟩
    | none => ⟨fields, none⟩

/-- The fields with a name guessed, if there is none yet. -/
def Fields.guessName (fields : Fields) (lines : List (List Char)) : Fields :=
  if fields.name.isFound then fields
  else match guessName? lines with
    | some name => (fields.fill .name (String.ofList name)).1
    | none => fields

/-- Extracts the fields of a text. -/
def extract (t : RecognizedText) : Extraction :=
  let labelled := Fields.enterLines {} t.lines
  let ⟨fields, hint⟩ := labelled.searchIdentifier t.raw
  ⟨fields.guessName t.lines, hint⟩

end IdentityDocs
