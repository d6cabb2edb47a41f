import IdentityDocs.Document.Classification
import IdentityDocs.Text.Search
import IdentityDocs.Text.Upper

/-!
# The keyword classifier

Each category has keywords. The categories are tried in a fixed order on the text in upper case, and
the first of which any keyword occurs is chosen: a card that speaks both of income tax and of the
government of India is a tax card.
-/

namespace IdentityDocs

/-- A category with its keywords. -/
structure KeywordRule where
  category : Category
  keywords : List String

/-- The rules, the stronger first. -/
def keywordRules : List KeywordRule :=
  [⟨.taxId, ["INCOME TAX", "PERMANENT ACCOUNT", "PAN CARD"]⟩,
   ⟨.nationalId, ["AADHAAR", "GOVT OF INDIA", "UNIQUE IDENTIFICATION"]⟩,
   ⟨.voterId, ["ELECTION", "VOTER", "IDENTITY CARD"]⟩,
   ⟨.drivingLicense, ["DRIVING", "LICENSE"]⟩]

/-- How sure the classifier is of a category that a keyword speaks for. -/
def keywordCertainty : Float := 0.9

/-- The first keyword of a rule that occurs in a text in upper case. -/
def KeywordRule.hit? (rule : KeywordRule) (upper : List Char) : Option String :=
  rule.keywords.find? fun keyword => Text.occursIn keyword.toList upper

/-- The first rule with a keyword that occurs in a text in upper case, and that keyword. -/
def firstHit? (upper : List Char) : List KeywordRule → Option (Category × String)
  | [] => none
  | rule :: rules => match rule.hit? upper with
    | some keyword => some (rule.category, keyword)
    | none => firstHit? upper rules

/-- The classification of a text and the keyword that decided it. -/
def classify (raw : List Char) : Classification × Option String :=
  match firstHit? (Text.upper raw) keywordRules with
  | some (category, keyword) => (.of category keywordCertainty, some keyword)
  | none => (.unknown, none)

end IdentityDocs
