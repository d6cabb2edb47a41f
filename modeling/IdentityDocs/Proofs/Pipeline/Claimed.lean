import IdentityDocs.Proofs.Pipeline.Course

/-!
# What a claim adds to a result

What a document is said to be is looked at once, when its analysis is over. Until then the stages of
two jobs that differ in their claims are the same (`Pipeline.finish_claiming`), and after that
the claim can do no more than add a remark at the end of the notes (`conclude_claimed`).
-/

namespace IdentityDocs

/-- The job with another claim. -/
def Job.claiming (job : Job) (claimed : Option Category) : Job := { job with claimed }

namespace AnalysisResult

/-- The remark on a claim that an analysis contradicts: it ran to its end, and it detected another
category, one that is known. -/
def remark (r : AnalysisResult) : Option Category → String
  | some claim =>
    if r.outcome = .completed ∧ claim ≠ r.category ∧ r.category ≠ .unknown then
      ". " ++ s!"Claimed {claim.label} but detected {r.category.label}"
    else ""
  | none => ""

/-- The result with the remark on a claim at the end of its notes. -/
def remarked (r : AnalysisResult) (claimed : Option Category) : AnalysisResult :=
  { r with notes := r.notes ++ r.remark claimed }

/-- The results agree in everything but the notes, and also in the notes if the analysis failed. -/
structure AgreeButNotes (r r' : AnalysisResult) : Prop where
  outcome : r.outcome = r'.outcome
  classification : r.classification = r'.classification
  fields : r.fields = r'.fields
  confidence : r.confidence = r'.confidence
  status : r.status = r'.status
  rawText : r.rawText = r'.rawText
  extractedData : r.extractedData = r'.extractedData
  failed : r.outcome = .failed → r.notes = r'.notes

theorem AgreeButNotes.refl (r : AnalysisResult) : r.AgreeButNotes r :=
  ⟨rfl, rfl, rfl, rfl, rfl, rfl, rfl, fun _ => rfl⟩

theorem remark_of_failed {r : AnalysisResult} (h : r.outcome = .failed)
    (claimed : Option Category) : r.remark claimed = "" := by
  cases claimed <;> simp [remark, h]

/-- Two claims on one result are told apart by its notes alone. -/
theorem agreeButNotes_remarked (r : AnalysisResult) (claimed claimed' : Option Category) :
    (r.remarked claimed).AgreeButNotes (r.remarked claimed') where
  outcome := rfl
  classification := rfl
  fields := rfl
  confidence := rfl
  status := rfl
  rawText := rfl
  extractedData := rfl
  failed h := by
    have hfailed : r.outcome = .failed := h
    simp only [remarked, remark_of_failed hfailed]

end AnalysisResult

/-! ## The end of an analysis -/

/-- One more note stands after a full stop. -/
theorem joinNotes_append_singleton {notes : List String} (h : notes ≠ []) (note : String) :
    joinNotes (notes ++ [note]) = joinNotes notes ++ ". " ++ note := by
  rw [joinNotes, String.intercalate_append_of_ne_nil h (List.cons_ne_nil _ _),
    String.intercalate_singleton]
  rfl

/-- The note on a claim is the remark, and there is one just if there is the other. -/
theorem joinNotes_append_claimNote {r : AnalysisResult} (h : r.outcome = .completed)
    {notes : List String} (hnotes : notes ≠ []) (claimed : Option Category) :
    joinNotes (notes ++ claimNote claimed r.category) = joinNotes notes ++ r.remark claimed := by
  cases claimed with
  | none => simp [claimNote, AnalysisResult.remark]
  | some claim =>
    by_cases hcontradicts : claim ≠ r.category ∧ r.category ≠ .unknown
    · simp only [claimNote, AnalysisResult.remark, h, if_pos hcontradicts, true_and]
      rw [joinNotes_append_singleton hnotes, String.append_assoc]
    · simp only [claimNote, AnalysisResult.remark, h, if_neg hcontradicts, true_and,
        List.append_nil, String.append_empty]

theorem concludeText_claimed (claimed : Option Category) (preparation : Preparation)
    (text : String) :
    concludeText claimed preparation text =
      (concludeText none preparation text).remarked claimed := by
  let plain := concludeText none preparation text
  let notes := notesOn preparation (.of text) (analyze (.of text))
  have hplain : plain.notes = joinNotes notes := congrArg joinNotes (List.append_nil notes)
  have hclaimed : (concludeText claimed preparation text).notes =
      joinNotes (notes ++ claimNote claimed plain.category) := rfl
  have hnotes : notes ≠ [] := by simp [notes, notesOn]
  have hremark := joinNotes_append_claimNote (r := plain) rfl hnotes claimed
  rw [← hclaimed, ← hplain] at hremark
  exact congrArg (fun notes => { plain with notes }) hremark

/-- A claim adds its remark to the result, if there is one. -/
theorem conclude_claimed (claimed : Option Category) (preparation : Preparation)
    (answer : Recognition) :
    conclude claimed preparation answer =
      (conclude none preparation answer).map (·.remarked claimed) := by
  cases answer with
  | text text =>
    rw [conclude, conclude, Except.map, concludeText_claimed]
  | failure cause =>
    have hfailed : (AnalysisResult.failed cause.message).remark claimed = "" :=
      AnalysisResult.remark_of_failed rfl claimed
    simp [conclude, Except.map, AnalysisResult.remarked, hfailed]
  | breakdown message => rfl

theorem Stage.conclusion?_claimed (stage : Stage) (claimed : Option Category) :
    stage.conclusion? claimed =
      (stage.conclusion? none).map fun conclusion => conclusion.map (·.remarked claimed) := by
  cases stage with
  | finished preparation inquiry answer =>
    exact congrArg some (conclude_claimed claimed preparation answer)
  | begun | decoded | unwritten | ready | answered => rfl

/-! ## The stages -/

namespace Pipeline

variable (p : Pipeline) (job : Job) (claimed : Option Category)

theorem step_claiming (files : FileSystem) (stage : Stage) :
    p.step (job.claiming claimed) files stage = p.step job files stage := by
  cases stage with
  | answered preparation inquiry answer => cases preparation <;> rfl
  | begun | decoded | unwritten | ready | finished => rfl

theorem advance_claiming (steps : Nat) : ∀ state,
    p.advance (job.claiming claimed) steps state = p.advance job steps state := by
  induction steps with
  | zero => exact fun _ => rfl
  | succ n ih =>
    intro (files, stage)
    rw [advance, advance, step_claiming, ih]

/-- An analysis with a claim is one without, but for the remark in its result. -/
theorem run_claiming (files : FileSystem) :
    p.run (job.claiming claimed) files =
      ((p.run (job.claiming none) files).1, (p.run (job.claiming none) files).2.1,
        (p.run (job.claiming none) files).2.2.map fun conclusion =>
          conclusion.map (·.remarked claimed)) := by
  simp only [run, finish, advance_claiming]
  exact congrArg (fun conclusion => (_, _, conclusion)) (Stage.conclusion?_claimed _ claimed)

/-- Two analyses came to results that agree but for the notes, or to the same breakdown. -/
inductive AgreeingConclusions :
    Except String AnalysisResult → Except String AnalysisResult → Prop
  | result {r r' : AnalysisResult} (h : r.AgreeButNotes r') :
    AgreeingConclusions (.ok r) (.ok r')
  | breakdown (message : String) : AgreeingConclusions (.error message) (.error message)

theorem agreeingConclusions_remarked (conclusion : Except String AnalysisResult)
    (claimed claimed' : Option Category) :
    AgreeingConclusions (conclusion.map (·.remarked claimed))
      (conclusion.map (·.remarked claimed')) := by
  cases conclusion with
  | ok r => exact .result (r.agreeButNotes_remarked claimed claimed')
  | error message => exact .breakdown message

/-- What the analyses of a document with all possible claims come to. -/
theorem exists_run_claiming (files : FileSystem) :
    ∃ (files' : FileSystem) (inquiry : Inquiry) (conclusion : Except String AnalysisResult),
      ∀ claimed, p.run (job.claiming claimed) files =
        (files', some inquiry, some (conclusion.map (·.remarked claimed))) := by
  obtain ⟨files', inquiry, conclusion, hplain⟩ : ∃ files' inquiry conclusion,
      p.run (job.claiming none) files = (files', some inquiry, some conclusion) :=
    ⟨_, _, _, (p.prepares (job.claiming none) files).run_eq⟩
  refine ⟨files', inquiry, conclusion, fun claimed => ?_⟩
  rw [run_claiming, hplain, Option.map_some]

end Pipeline

end IdentityDocs
