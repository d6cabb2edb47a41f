import IdentityDocs.Pipeline.Conclusion

/-!
# The confidence of a result is a number

The store refuses a confidence that is no number, so a result that had one would never be stored.
No analysis comes to such a result, whatever the certainty of the classification is.

The certainties that an analysis works with are those of a keyword and of no evidence at all. They
and the confidences that follow from them lie between zero and one, so keeping them there changes
nothing.
-/

namespace IdentityDocs

/-- Between bounds that are numbers a number stays a number. -/
theorem Number.isNaN_clamp {low high x : Float} (hlow : low.isNaN = false)
    (hhigh : high.isNaN = false) (hx : x.isNaN = false) : (clamp low high x).isNaN = false := by
  unfold clamp
  by_cases hbelow : x < low
  · simp only [if_pos hbelow]
    split <;> assumption
  · simp only [if_neg hbelow]
    split <;> assumption

theorem Number.clamp_eq_self {low high x : Float} (hlow : ¬ x < low) (hhigh : ¬ high < x) :
    clamp low high x = x := by
  simp only [clamp, if_neg hlow, if_neg hhigh]

theorem isNaN_score (certainty : Float) (hasId hasName : Bool) :
    (score certainty hasId hasName).isNaN = false := by
  simp only [score]
  generalize (if hasName then _ else _ : Float) = confidence
  by_cases hnan : confidence.isNaN = true
  · rw [if_pos hnan]
    decide
  · rw [if_neg hnan]
    exact Number.isNaN_clamp (by decide) (by decide) (by simpa using hnan)

namespace AnalysisResult

theorem isNaN_failed (reason : String) : (failed reason).confidence.isNaN = false := by
  simp only [failed]
  decide

theorem isNaN_completed (classification : Classification) (fields : Fields) {confidence : Float}
    (status : VerificationStatus) (rawText notes : String) (h : confidence.isNaN = false) :
    (completed classification fields confidence status rawText notes).confidence.isNaN = false :=
  Number.isNaN_clamp (by decide) (by decide +kernel) h

end AnalysisResult

/-- The confidence of every result of an analysis is a number. -/
theorem isNaN_conclude {claimed : Option Category} {preparation : Preparation}
    {answer : Recognition} {r : AnalysisResult}
    (h : conclude claimed preparation answer = .ok r) : r.confidence.isNaN = false := by
  cases answer with
  | text text =>
    obtain ⟨rfl⟩ : concludeText claimed preparation text = r := by simpa [conclude] using h
    exact AnalysisResult.isNaN_completed _ _ _ _ _ (isNaN_score _ _ _)
  | failure cause =>
    obtain ⟨rfl⟩ : AnalysisResult.failed cause.message = r := by simpa [conclude] using h
    exact AnalysisResult.isNaN_failed _
  | breakdown message => simp [conclude] at h

/-! ## Between zero and one -/

theorem Classification.unknown_eq : unknown = ⟨.unknown, neutral⟩ := by
  rw [unknown, of, Number.clamp_eq_self (by decide +kernel) (by decide +kernel)]

theorem Classification.of_keywordCertainty (category : Category) :
    of category keywordCertainty = ⟨category, keywordCertainty⟩ := by
  rw [of, Number.clamp_eq_self (by decide +kernel) (by decide +kernel)]

/-- The classifier is as sure as a keyword makes it, or has no evidence. -/
theorem certainty_classify (raw : List Char) :
    (classify raw).1.certainty = keywordCertainty ∨
      (classify raw).1.certainty = Classification.neutral := by
  unfold classify
  cases firstHit? (Text.upper raw) keywordRules with
  | some hit =>
    have hkeyword := Classification.of_keywordCertainty hit.1
    exact .inl (congrArg Classification.certainty hkeyword)
  | none => exact .inr (by rw [Classification.unknown_eq])

/-- A hint changes the category alone. -/
theorem Classification.certainty_takeHint (c : Classification) (hint : Option Category) :
    (c.takeHint hint).1.certainty = c.certainty := by
  cases hint with
  | none => rfl
  | some category =>
    simp only [takeHint, upgrade]
    split <;> rfl

theorem certainty_analyze (t : RecognizedText) :
    (analyze t).classification.certainty = keywordCertainty ∨
      (analyze t).classification.certainty = Classification.neutral := by
  have hcertainty : (analyze t).classification.certainty = (classify t.raw).1.certainty :=
    Classification.certainty_takeHint _ _
  rw [hcertainty]
  exact certainty_classify t.raw

theorem clamp_score {certainty : Float} (h : certainty = keywordCertainty ∨
    certainty = Classification.neutral) (hasId hasName : Bool) :
    Number.clamp 0.0 1.0 (score certainty hasId hasName) = score certainty hasId hasName := by
  apply Number.clamp_eq_self
  · rcases h with rfl | rfl <;> cases hasId <;> cases hasName <;> decide +kernel
  · rcases h with rfl | rfl <;> cases hasId <;> cases hasName <;> decide +kernel

/-- The confidence in a text lies between zero and one already. -/
theorem clamp_confidence (t : RecognizedText) :
    Number.clamp 0.0 1.0 (analyze t).confidence = (analyze t).confidence :=
  clamp_score (certainty_analyze t) _ _

end IdentityDocs
