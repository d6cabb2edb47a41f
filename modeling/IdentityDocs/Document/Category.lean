import IdentityDocs.Error.Configuration
import IdentityDocs.Json.Shape
import IdentityDocs.Text.Blank

/-!
# Categories of identity documents

The cards that the classifier tells apart. A category has three texts: its name in JSON, the
spellings a user may type, and the label that readers see.
-/

namespace IdentityDocs

/-- The category of an identity document. -/
inductive Category
  /-- A tax identification card (PAN). -/
  | taxId
  /-- A national identity card (Aadhaar). -/
  | nationalId
  /-- A voter identity card. -/
  | voterId
  | drivingLicense
  | unknown
  deriving DecidableEq, Repr

namespace Category

/-- The name of a category. -/
def name : Category → String
  | taxId => "tax_id"
  | nationalId => "national_id"
  | voterId => "voter_id"
  | drivingLicense => "driving_license"
  | unknown => "unknown"

instance : Enumerated Category where
  all := [taxId, nationalId, voterId, drivingLicense, unknown]
  name := name
  mem_all a := by cases a <;> decide
  name_injective a b := by cases a <;> cases b <;> decide

/-- The label that readers see. -/
def label : Category → String
  | taxId => "PAN Card"
  | nationalId => "Aadhaar Card"
  | voterId => "Voter ID"
  | drivingLicense => "Driving License"
  | unknown => "Unknown ID"

/-- The spellings a user may type, in lower case and with hyphens. -/
def spellings : List (String × Category) :=
  [("tax-id", taxId), ("pan", taxId), ("national-id", nationalId), ("aadhaar", nationalId),
   ("voter-id", voterId), ("voter", voterId), ("driving-license", drivingLicense),
   ("dl", drivingLicense), ("unknown", unknown)]

/-- A character of a typed spelling in lower case, an underscore as a hyphen. -/
def foldChar (c : Char) : Char := if c = '_' then '-' else c.toLower

/-- Reads what a user typed. Blanks around it, ASCII case, and the choice between underscore and
hyphen do not matter. -/
def parse (text : String) : Except ConfigurationError Category :=
  let folded := String.ofList ((Text.trim text.toList).map foldChar)
  match spellings.lookup folded with
  | some category => .ok category
  | none => .error (.unknownCategory folded)

end Category

end IdentityDocs
