import IdentityDocs.Analysis.Classifier
import IdentityDocs.Proofs.Analysis.Confidence

/-!
# The category that a keyword speaks for

A rule speaks in a text if one of its keywords occurs there in upper case. The classifier chooses
the category of the first rule that does, and knows nothing of a text in which none does.
-/

namespace IdentityDocs

/-- One of the keywords of the rule occurs in the upper-case form of the text. -/
def KeywordRule.Speaks (rule : KeywordRule) (raw : List Char) : Prop :=
  ∃ keyword ∈ rule.keywords, keyword.toList <:+: Text.upper raw

/-- Some keyword of the classifier occurs in the upper-case form of the text. -/
def Spoken (raw : List Char) : Prop := ∃ rule ∈ keywordRules, rule.Speaks raw

/-- The category is that of the first rule that speaks in the text. -/
def SpokenFor (raw : List Char) (category : Category) : Prop :=
  ∃ before rule after, keywordRules = before ++ rule :: after ∧ rule.category = category ∧
    rule.Speaks raw ∧ ∀ earlier ∈ before, ¬ earlier.Speaks raw

variable {raw : List Char} {category : Category}

theorem SpokenFor.spoken (h : SpokenFor raw category) : Spoken raw := by
  obtain ⟨before, rule, after, hrules, -, hspeaks, -⟩ := h
  exact ⟨rule, by simp [hrules], hspeaks⟩

namespace KeywordRule

variable {rule : KeywordRule}

theorem hit?_eq_none_iff : rule.hit? (Text.upper raw) = none ↔ ¬ rule.Speaks raw := by
  simp [hit?, Speaks, Text.occursIn_iff]

theorem speaks_of_hit? {keyword : String} (h : rule.hit? (Text.upper raw) = some keyword) :
    rule.Speaks raw := by
  unfold hit? at h
  have hoccurs : Text.occursIn keyword.toList (Text.upper raw) = true := by
    simpa using List.find?_some h
  exact ⟨keyword, List.mem_of_find?_eq_some h, Text.occursIn_iff.1 hoccurs⟩

theorem exists_hit? (h : rule.Speaks raw) :
    ∃ keyword, rule.hit? (Text.upper raw) = some keyword := by
  rw [← Option.isSome_iff_exists, ← Option.ne_none_iff_isSome]
  exact fun hnone => hit?_eq_none_iff.1 hnone h

end KeywordRule

theorem firstHit?_eq_findSome? (upper : List Char) (rules : List KeywordRule) :
    firstHit? upper rules =
      rules.findSome? fun rule =>
        (rule.hit? upper).map fun keyword => (rule.category, keyword) := by
  induction rules with
  | nil => rfl
  | cons rule rules ih =>
    rw [firstHit?, List.findSome?_cons, ih]
    cases rule.hit? upper <;> rfl

theorem firstHit?_eq_none_iff :
    firstHit? (Text.upper raw) keywordRules = none ↔ ¬ Spoken raw := by
  simp only [firstHit?_eq_findSome?, List.findSome?_eq_none_iff, Option.map_eq_none_iff,
    KeywordRule.hit?_eq_none_iff, Spoken, not_exists, not_and]

instance (raw : List Char) : Decidable (Spoken raw) :=
  decidable_of_iff (firstHit? (Text.upper raw) keywordRules ≠ none)
    (by rw [Ne, firstHit?_eq_none_iff, Classical.not_not])

/-- The rule of the first hit is the first that speaks. -/
theorem spokenFor_iff : SpokenFor raw category ↔
    ∃ keyword, firstHit? (Text.upper raw) keywordRules = some (category, keyword) := by
  simp only [firstHit?_eq_findSome?, List.findSome?_eq_some_iff, Option.map_eq_some_iff,
    Option.map_eq_none_iff, KeywordRule.hit?_eq_none_iff, Prod.mk.injEq, SpokenFor]
  constructor
  · rintro ⟨before, rule, after, hrules, hcategory, hspeaks, hbefore⟩
    obtain ⟨keyword, hhit⟩ := KeywordRule.exists_hit? hspeaks
    exact ⟨keyword, before, rule, after, hrules, ⟨keyword, hhit, hcategory, rfl⟩, hbefore⟩
  · rintro ⟨keyword, before, rule, after, hrules, ⟨keyword', hhit, hcategory, -⟩, hbefore⟩
    exact ⟨before, rule, after, hrules, hcategory, KeywordRule.speaks_of_hit? hhit, hbefore⟩

theorem Spoken.exists_spokenFor (h : Spoken raw) : ∃ category, SpokenFor raw category := by
  cases hhit : firstHit? (Text.upper raw) keywordRules with
  | none => exact absurd h (firstHit?_eq_none_iff.1 hhit)
  | some hit => exact ⟨hit.1, spokenFor_iff.2 ⟨hit.2, hhit⟩⟩

theorem SpokenFor.eq {other : Category} (h : SpokenFor raw category) (h' : SpokenFor raw other) :
    category = other := by
  obtain ⟨keyword, hhit⟩ := spokenFor_iff.1 h
  obtain ⟨keyword', hhit'⟩ := spokenFor_iff.1 h'
  rw [hhit] at hhit'
  exact (Prod.mk.inj (Option.some.inj hhit')).1

/-- Every rule is one of a category that is known. -/
theorem SpokenFor.ne_unknown (h : SpokenFor raw category) : category ≠ .unknown := by
  obtain ⟨before, rule, after, hrules, rfl, -⟩ := h
  have hmem : rule ∈ keywordRules := by simp [hrules]
  have hall : ∀ rule ∈ keywordRules, rule.category ≠ .unknown := by decide
  exact hall rule hmem

theorem classify_of_spokenFor (h : SpokenFor raw category) :
    (classify raw).1 = ⟨category, keywordCertainty⟩ := by
  obtain ⟨keyword, hhit⟩ := spokenFor_iff.1 h
  simp only [classify, hhit, Classification.of_keywordCertainty]

theorem classify_of_not_spoken (h : ¬ Spoken raw) :
    (classify raw).1 = ⟨.unknown, Classification.neutral⟩ := by
  simp only [classify, firstHit?_eq_none_iff.2 h, Classification.unknown_eq]

end IdentityDocs
