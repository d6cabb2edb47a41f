import IdentityDocs.Proofs.Analysis.Classifier
import IdentityDocs.Proofs.Analysis.Extraction

/-!
# What decides whether a document is verified

Three facts of a text decide: whether a keyword speaks for a category, whether an identifier was
found, and whether a name was. The sums of doubles behind that are five numbers, and the one that
lies at the threshold, that of a lone identifier or name, is not above it.
-/

namespace IdentityDocs

/-- The confidence that follows from a keyword, an identifier and a name. -/
def confidenceOf (spoken hasId hasName : Bool) : Float :=
  match spoken, hasId, hasName with
  | true, false, false => 0.9
  | true, _, _ => 0.99
  | false, true, true => 0.7
  | false, false, false => 0.5
  | false, _, _ => 0.6

theorem score_keywordCertainty (hasId hasName : Bool) :
    score keywordCertainty hasId hasName = confidenceOf true hasId hasName := by
  cases hasId <;> cases hasName <;> decide +kernel

theorem score_neutral (hasId hasName : Bool) :
    score Classification.neutral hasId hasName = confidenceOf false hasId hasName := by
  cases hasId <;> cases hasName <;> decide +kernel

theorem isNaN_confidenceOf (spoken hasId hasName : Bool) :
    (confidenceOf spoken hasId hasName).isNaN = false := by
  cases spoken <;> cases hasId <;> cases hasName <;> decide +kernel

theorem ofConfidence_confidenceOf (spoken hasId hasName : Bool) :
    Verdict.ofConfidence (confidenceOf spoken hasId hasName) =
      if spoken || (hasId && hasName) then .verified else .pending := by
  cases spoken <;> cases hasId <;> cases hasName <;> decide +kernel

variable {t : RecognizedText} {category : Category}

theorem takeHint_of_ne_unknown {c : Classification} (h : c.category ≠ .unknown)
    (hint : Option Category) : c.takeHint hint = (c, false) := by
  cases hint with
  | none => rfl
  | some category => simp [Classification.takeHint, Classification.upgrade, h]

/-- The form of an identifier is that of a known category. -/
theorem hint_ne_unknown : (extract t).hint ≠ some .unknown := by
  rw [extract_hint]
  cases hid : t.labelled.idNumber with
  | found value => simp [Fields.searchIdentifier_of_found hid]
  | notFound =>
    rw [Fields.searchIdentifier_of_notFound hid]
    unfold identifier?
    cases leftmost taxNumber none t.raw with
    | some number => simp
    | none => cases leftmost nationalNumber none t.raw <;> simp

theorem takeHint_unknown (hint : Option Category) (h : hint ≠ some .unknown) (certainty : Float) :
    Classification.takeHint ⟨.unknown, certainty⟩ hint =
      (⟨hint.getD .unknown, certainty⟩, hint.isSome) := by
  cases hint with
  | none => rfl
  | some category =>
    have hcategory : category ≠ .unknown := fun heq => h (by rw [heq])
    simp [Classification.takeHint, Classification.upgrade, hcategory]

/-- What an analysis of a text decides. -/
structure Decides (t : RecognizedText) (a : TextAnalysis) : Prop where
  fields : a.fields = (extract t).fields
  /-- A keyword decides the category, -/
  category : ∀ category, SpokenFor t.raw category ↔
    Spoken t.raw ∧ a.classification.category = category
  /-- and without one the form of the identifier does. -/
  category_unspoken : ¬ Spoken t.raw → a.classification.category = (extract t).hint.getD .unknown
  certainty : a.classification.certainty = if Spoken t.raw then 0.9 else 0.5
  inferred : a.inferred = true ↔ ¬ Spoken t.raw ∧ (extract t).hint.isSome = true
  confidence : a.confidence =
    confidenceOf (Spoken t.raw) a.fields.idNumber.isFound a.fields.name.isFound
  isNaN_confidence : a.confidence.isNaN = false
  verified : a.verdict = .verified ↔
    Spoken t.raw ∨ (a.fields.idNumber.isFound = true ∧ a.fields.name.isFound = true)
  /-- Without a keyword and a name an identifier reaches the threshold, which is not enough. -/
  pending_of_idNumber : ¬ Spoken t.raw → a.fields.idNumber.isFound = true →
    a.fields.name.isFound = false →
    a.confidence = Classification.neutral + idBonus ∧ a.confidence = verifyThreshold ∧
      a.verdict = .pending

theorem analyze_of_spokenFor (h : SpokenFor t.raw category) :
    (analyze t).classification = ⟨category, keywordCertainty⟩ ∧ (analyze t).inferred = false := by
  have hclassify := classify_of_spokenFor h
  have hknown : (classify t.raw).1.category ≠ .unknown := by
    rw [hclassify]
    exact h.ne_unknown
  have hhint := takeHint_of_ne_unknown hknown (extract t).hint
  rw [← hclassify]
  exact ⟨congrArg Prod.fst hhint, congrArg Prod.snd hhint⟩

theorem analyze_of_not_spoken (h : ¬ Spoken t.raw) :
    (analyze t).classification = ⟨(extract t).hint.getD .unknown, Classification.neutral⟩ ∧
      (analyze t).inferred = (extract t).hint.isSome := by
  have hhint := takeHint_unknown (extract t).hint hint_ne_unknown Classification.neutral
  rw [← classify_of_not_spoken h] at hhint
  exact ⟨congrArg Prod.fst hhint, congrArg Prod.snd hhint⟩

theorem certainty_analyze_eq (t : RecognizedText) : (analyze t).classification.certainty =
    if Spoken t.raw then keywordCertainty else Classification.neutral := by
  by_cases hspoken : Spoken t.raw
  · obtain ⟨category, hcategory⟩ := hspoken.exists_spokenFor
    rw [(analyze_of_spokenFor hcategory).1, if_pos hspoken]
  · rw [(analyze_of_not_spoken hspoken).1, if_neg hspoken]

theorem confidence_analyze (t : RecognizedText) : (analyze t).confidence =
    confidenceOf (Spoken t.raw) (analyze t).fields.idNumber.isFound
      (analyze t).fields.name.isFound := by
  have hscore : (analyze t).confidence = score (analyze t).classification.certainty
    (analyze t).fields.idNumber.isFound (analyze t).fields.name.isFound := rfl
  rw [hscore, certainty_analyze_eq]
  by_cases hspoken : Spoken t.raw
  · rw [if_pos hspoken, score_keywordCertainty, decide_eq_true hspoken]
  · rw [if_neg hspoken, score_neutral, decide_eq_false hspoken]

theorem verdict_analyze (t : RecognizedText) : (analyze t).verdict =
    if Spoken t.raw ∨
      ((analyze t).fields.idNumber.isFound = true ∧ (analyze t).fields.name.isFound = true)
    then .verified else .pending := by
  have hverdict : (analyze t).verdict = .ofConfidence (analyze t).confidence := rfl
  rw [hverdict, confidence_analyze, ofConfidence_confidenceOf]
  simp only [Bool.or_eq_true, Bool.and_eq_true, decide_eq_true_eq]

/-- **The decision on a text.** Whatever the text, a keyword decides the category, and only without
one the form of the identifier does, at the certainty of no evidence; the confidence is one of five
numbers and follows from keyword, identifier and name; and the text is verified just if there is a
keyword, or an identifier together with a name. -/
theorem decides_analyze (t : RecognizedText) : Decides t (analyze t) where
  fields := rfl
  category category := by
    constructor
    · intro h
      exact ⟨h.spoken, congrArg Classification.category (analyze_of_spokenFor h).1⟩
    · rintro ⟨hspoken, rfl⟩
      obtain ⟨category, hcategory⟩ := hspoken.exists_spokenFor
      rwa [(analyze_of_spokenFor hcategory).1]
  category_unspoken h := congrArg Classification.category (analyze_of_not_spoken h).1
  certainty := certainty_analyze_eq t
  inferred := by
    by_cases hspoken : Spoken t.raw
    · obtain ⟨category, hcategory⟩ := hspoken.exists_spokenFor
      simp [(analyze_of_spokenFor hcategory).2, hspoken]
    · simp [(analyze_of_not_spoken hspoken).2, hspoken]
  confidence := confidence_analyze t
  isNaN_confidence := by
    rw [confidence_analyze]
    exact isNaN_confidenceOf _ _ _
  verified := by
    rw [verdict_analyze]
    split <;> simp_all
  pending_of_idNumber hspoken hid hname := by
    have hsum : (0.6 : Float) = Classification.neutral + idBonus := by decide +kernel
    have hconfidence : (analyze t).confidence = 0.6 := by
      rw [confidence_analyze, decide_eq_false hspoken, hid, hname]
      rfl
    have hverdict : (analyze t).verdict = .pending := by
      rw [verdict_analyze, if_neg]
      simp [hspoken, hname]
    exact ⟨hconfidence.trans hsum, hconfidence, hverdict⟩

end IdentityDocs
