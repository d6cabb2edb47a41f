import IdentityDocs.Proofs.Analysis.Classifier

/-!
# The strongest rule decides, whatever stands around its keyword

The rules stand in falling order of priority, so that the first rule that speaks in a text is the
strongest that does. `Classified` says what the classifier answers without saying how it searches:
the category of the strongest rule that speaks, together with the first of its keywords that occurs.

Upper case is put together character by character, hence a keyword that occurs in a text still
occurs when more is written around it. A rule that spoke goes on speaking, and the strongest can
only give way to a stronger one.
-/

namespace IdentityDocs

/-- How strong a category is. No rule is for the unknown category, the weakest. -/
def Category.priority : Category → Nat
  | .taxId => 4
  | .nationalId => 3
  | .voterId => 2
  | .drivingLicense => 1
  | .unknown => 0

/-- The first of the keywords of the rule that occurs in the upper-case form of the text. -/
def KeywordRule.FirstKeyword (rule : KeywordRule) (raw : List Char) (keyword : String) : Prop :=
  ∃ before after, rule.keywords = before ++ keyword :: after ∧
    keyword.toList <:+: Text.upper raw ∧
    ∀ earlier ∈ before, ¬ earlier.toList <:+: Text.upper raw

/-- No rule of a higher priority speaks in the text. -/
def KeywordRule.Strongest (rule : KeywordRule) (raw : List Char) : Prop :=
  ∀ other ∈ keywordRules, other.Speaks raw → other.category.priority ≤ rule.category.priority

/-- What the classifier is to answer for a text. -/
inductive Classified (raw : List Char) : Classification × Option String → Prop
  /-- The strongest rule that speaks decides, by the first of its keywords that occurs. -/
  | keyword {rule : KeywordRule} {keyword : String} (hrule : rule ∈ keywordRules)
      (hstrongest : rule.Strongest raw) (hkeyword : rule.FirstKeyword raw keyword) :
      Classified raw (⟨rule.category, keywordCertainty⟩, some keyword)
  /-- Nothing is known of a text in which no keyword of any rule occurs. -/
  | unknown (hunspoken : ¬ Spoken raw) :
      Classified raw (⟨.unknown, Classification.neutral⟩, none)

variable {raw : List Char} {result : Classification × Option String}

/-! ## The strongest rule is the first -/

theorem pairwise_priority_keywordRules : keywordRules.Pairwise fun rule later =>
    later.category.priority < rule.category.priority := by
  decide

namespace KeywordRule

variable {rule : KeywordRule} {keyword : String}

theorem hit?_eq_some_iff :
    rule.hit? (Text.upper raw) = some keyword ↔ rule.FirstKeyword raw keyword := by
  simp only [hit?, List.find?_eq_some_iff_append, Text.occursIn_iff, Bool.not_eq_true',
    Bool.eq_false_iff, ne_eq, FirstKeyword]
  constructor
  · rintro ⟨hoccurs, before, after, hkeywords, hbefore⟩
    exact ⟨before, after, hkeywords, hoccurs, hbefore⟩
  · rintro ⟨before, after, hkeywords, hoccurs, hbefore⟩
    exact ⟨hoccurs, before, after, hkeywords, hbefore⟩

theorem FirstKeyword.speaks (h : rule.FirstKeyword raw keyword) : rule.Speaks raw :=
  speaks_of_hit? (hit?_eq_some_iff.2 h)

/-- The rules in front of a rule are stronger, those behind it weaker. -/
theorem strongest_iff {before after : List KeywordRule}
    (hrules : keywordRules = before ++ rule :: after) :
    rule.Strongest raw ↔ ∀ earlier ∈ before, ¬ earlier.Speaks raw := by
  have hpairwise := pairwise_priority_keywordRules
  rw [hrules, List.pairwise_append, List.pairwise_cons] at hpairwise
  obtain ⟨-, ⟨hafter, -⟩, hbefore⟩ := hpairwise
  constructor
  · intro hstrongest earlier hearlier hspeaks
    have hle := hstrongest earlier (by simp [hrules, hearlier]) hspeaks
    have hlt := hbefore earlier hearlier rule (by simp)
    omega
  · intro hunspoken other hother hspeaks
    rw [hrules, List.mem_append, List.mem_cons] at hother
    obtain hearlier | rfl | hlater := hother
    · exact absurd hspeaks (hunspoken other hearlier)
    · exact Nat.le_refl _
    · exact Nat.le_of_lt (hafter other hlater)

end KeywordRule

/-- The search stops at the strongest rule that speaks. -/
theorem firstHit?_eq_some_iff {category : Category} {keyword : String} :
    firstHit? (Text.upper raw) keywordRules = some (category, keyword) ↔
      ∃ rule ∈ keywordRules, rule.Strongest raw ∧ rule.FirstKeyword raw keyword ∧
        rule.category = category := by
  simp only [firstHit?_eq_findSome?, List.findSome?_eq_some_iff, Option.map_eq_some_iff,
    Option.map_eq_none_iff, KeywordRule.hit?_eq_none_iff, KeywordRule.hit?_eq_some_iff,
    Prod.mk.injEq]
  constructor
  · rintro ⟨before, rule, after, hrules, ⟨keyword', hkeyword, hcategory, rfl⟩, hbefore⟩
    have hrule : rule ∈ keywordRules := by simp [hrules]
    exact ⟨rule, hrule, (KeywordRule.strongest_iff hrules).2 hbefore, hkeyword, hcategory⟩
  · rintro ⟨rule, hrule, hstrongest, hkeyword, hcategory⟩
    obtain ⟨before, after, hrules⟩ := List.append_of_mem hrule
    exact ⟨before, rule, after, hrules, ⟨keyword, hkeyword, hcategory, rfl⟩,
      (KeywordRule.strongest_iff hrules).1 hstrongest⟩

/-- The classifier answers as it is to, and in one way only. -/
theorem classify_eq_iff : classify raw = result ↔ Classified raw result := by
  constructor
  · rintro rfl
    cases hhit : firstHit? (Text.upper raw) keywordRules with
    | some hit =>
      obtain ⟨rule, hrule, hstrongest, hkeyword, hcategory⟩ := firstHit?_eq_some_iff.1 hhit
      simp only [classify, hhit, Classification.of_keywordCertainty, ← hcategory]
      exact .keyword hrule hstrongest hkeyword
    | none =>
      simp only [classify, hhit, Classification.unknown_eq]
      exact .unknown (firstHit?_eq_none_iff.1 hhit)
  · intro h
    cases h with
    | keyword hrule hstrongest hkeyword =>
      have hhit := firstHit?_eq_some_iff.2 ⟨_, hrule, hstrongest, hkeyword, rfl⟩
      simp only [classify, hhit, Classification.of_keywordCertainty]
    | unknown hunspoken =>
      simp only [classify, firstHit?_eq_none_iff.2 hunspoken, Classification.unknown_eq]

theorem classified_classify (raw : List Char) : Classified raw (classify raw) :=
  classify_eq_iff.1 rfl

/-! ## More text around a keyword -/

/-- A rule that speaks in a text speaks in every text around it. -/
theorem KeywordRule.Speaks.surround {rule : KeywordRule} (h : rule.Speaks raw)
    (before after : List Char) : rule.Speaks (before ++ raw ++ after) := by
  obtain ⟨keyword, hkeyword, hoccurs⟩ := h
  have haround : Text.upper raw <:+: Text.upper (before ++ raw ++ after) := by
    simp only [Text.upper_append]
    exact List.infix_append _ _ _
  exact ⟨keyword, hkeyword, hoccurs.trans haround⟩

/-- The category of a text is at least as strong as any rule that speaks in it. -/
theorem priority_le_of_speaks (h : Classified raw result) {rule : KeywordRule}
    (hrule : rule ∈ keywordRules) (hspeaks : rule.Speaks raw) :
    rule.category.priority ≤ result.1.category.priority := by
  cases h with
  | keyword _ hstrongest _ => exact hstrongest rule hrule hspeaks
  | unknown hunspoken => exact absurd ⟨rule, hrule, hspeaks⟩ hunspoken

theorem certainty_of_spoken (h : Classified raw result) (hspoken : Spoken raw) :
    result.1.certainty = keywordCertainty := by
  cases h with
  | keyword _ _ _ => rfl
  | unknown hunspoken => exact absurd hspoken hunspoken

-- The certainties are floating-point numbers, whose order is not reflexive: not a number is not at
-- most itself.

theorem keywordCertainty_le_self : keywordCertainty ≤ keywordCertainty := by decide +kernel

theorem neutral_le_self : Classification.neutral ≤ Classification.neutral := by decide +kernel

theorem neutral_le_keywordCertainty : Classification.neutral ≤ keywordCertainty := by
  decide +kernel

/-- Every text is classified by the strongest rule that speaks in it, or by none; and what is
written around a text makes its category no weaker and the classifier no less sure. -/
theorem classify_strongest_and_monotone (before raw after : List Char) :
    (∀ result, classify raw = result ↔ Classified raw result) ∧
      (classify raw).1.category.priority ≤
        (classify (before ++ raw ++ after)).1.category.priority ∧
      (classify raw).1.certainty ≤ (classify (before ++ raw ++ after)).1.certainty := by
  refine ⟨fun result => classify_eq_iff, ?_⟩
  have haround := classified_classify (before ++ raw ++ after)
  have hraw := classified_classify raw
  generalize classify (before ++ raw ++ after) = around at haround ⊢
  generalize classify raw = result at hraw ⊢
  cases hraw with
  | keyword hrule hstrongest hkeyword =>
    have hspeaks := hkeyword.speaks.surround before after
    refine ⟨priority_le_of_speaks haround hrule hspeaks, ?_⟩
    rw [certainty_of_spoken haround ⟨_, hrule, hspeaks⟩]
    exact keywordCertainty_le_self
  | unknown hunspoken =>
    refine ⟨Nat.zero_le _, ?_⟩
    cases haround with
    | keyword _ _ _ => exact neutral_le_keywordCertainty
    | unknown _ => exact neutral_le_self

end IdentityDocs
