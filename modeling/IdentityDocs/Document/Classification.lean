import IdentityDocs.Document.Category
import IdentityDocs.Json.Number
import IdentityDocs.Number.Clamp

/-!
# Classifications

A category together with how sure the classifier is about it. Classifications that the system builds
have a certainty between zero and one.
-/

namespace IdentityDocs

/-- A chosen category and how sure the choice is. -/
structure Classification where
  category : Category
  certainty : Float

namespace Classification

/-- The certainty without any evidence. -/
def neutral : Float := 0.5

/-- A classification with its certainty kept between zero and one. -/
def of (category : Category) (certainty : Float) : Classification :=
  ⟨category, Number.clamp 0.0 1.0 certainty⟩

/-- The classification without any evidence. -/
def unknown : Classification := of .unknown neutral

/-- The classification after a hint at a category, and whether the hint was taken: only an unknown
category gives way, and only to a known one. The certainty stays. -/
def upgrade (c : Classification) (hint : Category) : Classification × Bool :=
  if c.category = .unknown ∧ hint ≠ .unknown then ({ c with category := hint }, true)
  else (c, false)

/-- Writes a classification. -/
def toJson (c : Classification) : Json :=
  .object [("category", .ofChoice c.category), ("certainty", .ofFloat c.certainty)]

/-- Reads a classification; its certainty may be any number. -/
def ofJson? (j : Json) : Option Classification := do
  let [some category, some certainty] ← j.fields? ["category", "certainty"] | none
  return ⟨← category.choice?, ← certainty.float?⟩

end Classification

end IdentityDocs
