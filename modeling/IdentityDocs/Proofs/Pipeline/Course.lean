import IdentityDocs.Pipeline.Conclusion
import IdentityDocs.Proofs.Pipeline.Stages

/-!
# The course of an analysis

With nobody else at the files the stages of an analysis come to three acts: the image is prepared,
the recognizer is asked, and the copy is removed. `Pipeline.Prepares` says what the first act comes
to, for any way to make copies and anything that goes wrong when one is written, and
`Pipeline.exists_steps_to_ready` that nothing is asked in it.
-/

namespace IdentityDocs

namespace Copier

/-- Makes the processed copy of an image: the files afterwards, and the path of the copy. What was
only begun to be written is removed again. -/
def preprocess (c : Copier) (files : FileSystem) (image : Path) : FileSystem × Except Error Path :=
  match c.process files image with
  | .error e => (files, .error (.image e))
  | .ok copy => match c.write files image.processed copy with
    | (files, none) => (files, .ok image.processed)
    | (files, some e) => (files.discard image.processed, .error (.file e))

end Copier

namespace Pipeline

variable (p : Pipeline) (job : Job)

/-! ## Questions -/

/-- The question that an analysis puts to its recognizer in its next step, if it puts one. -/
def question? (files : FileSystem) : Stage → Option Inquiry
  | .ready preparation => some (p.inquire job files preparation).1
  | _ => none

/-- The questions that an analysis puts to its recognizer in a number of steps. -/
def questions : (steps : Nat) → FileSystem × Stage → List Inquiry
  | 0, _ => []
  | n + 1, (files, stage) =>
    (p.question? job files stage).toList ++ questions n (p.step job files stage)

/-- A step depends on the recognizer through the question that is put in it, and no other way. -/
theorem step_congr (r : Recognizer) {files : FileSystem} {stage : Stage}
    (h : ∀ q, p.question? job files stage = some q →
      r.ask q.files q.path q.language = p.recognizer.ask q.files q.path q.language ∧
        r.leaves q.files q.path q.language = p.recognizer.leaves q.files q.path q.language) :
    { p with recognizer := r }.step job files stage = p.step job files stage := by
  cases stage with
  | ready preparation =>
    obtain ⟨hask, hleaves⟩ := h _ rfl
    simp only [inquire] at hask hleaves
    simp only [step, inquire, hask, hleaves]
  | begun | decoded | unwritten | finished => rfl
  | answered preparation inquiry answer => cases preparation <;> rfl

/-- An analysis depends on the recognizer through its questions, and no other way. -/
theorem advance_congr (r : Recognizer) (steps : Nat) : ∀ state,
    (∀ q ∈ p.questions job steps state,
      r.ask q.files q.path q.language = p.recognizer.ask q.files q.path q.language ∧
        r.leaves q.files q.path q.language = p.recognizer.leaves q.files q.path q.language) →
    { p with recognizer := r }.advance job steps state = p.advance job steps state := by
  induction steps with
  | zero => exact fun _ _ => rfl
  | succ n ih =>
    intro (files, stage) h
    have hstep : { p with recognizer := r }.step job files stage = p.step job files stage := by
      refine p.step_congr job r fun q hq => h q (List.mem_append_left _ ?_)
      simp [hq]
    rw [advance, advance, hstep]
    exact ih _ fun q hq => h q (List.mem_append_right _ hq)

theorem advance_add (n m : Nat) : ∀ state, p.advance job (n + m) state =
    p.advance job m (p.advance job n state) := by
  induction n with
  | zero => intro state; rw [Nat.zero_add]; rfl
  | succ n ih =>
    intro (files, stage)
    rw [Nat.succ_add, advance, ih]
    rfl

theorem questions_add (n m : Nat) : ∀ state, p.questions job (n + m) state =
    p.questions job n state ++ p.questions job m (p.advance job n state) := by
  induction n with
  | zero => intro state; rw [Nat.zero_add]; rfl
  | succ n ih =>
    intro (files, stage)
    rw [Nat.succ_add, questions, ih, questions, advance, List.append_assoc]

/-! ## The three acts -/

/-- The files, with the processed copy if there is to be one, and what became of it. -/
def prepare (files : FileSystem) : FileSystem × Preparation :=
  if p.enhances then
    match p.copier.preprocess files job.image with
    | (files, .ok _) => (files, .enhanced)
    | (files, .error e) => (files, .skipped e)
  else (files, .disabled)

/-- The files without the processed copy. -/
def tidy (files : FileSystem) : Preparation → FileSystem
  | .enhanced => files.discard job.image.processed
  | .disabled | .skipped _ => files

/-- What preparing an image comes to. -/
inductive Prepares (files : FileSystem) : FileSystem → Preparation → Prop
  | disabled : p.enhances = false → Prepares files files .disabled
  | unprocessed {e : ImageError} : p.enhances = true →
    p.copier.process files job.image = .error e → Prepares files files (.skipped (.image e))
  /-- What is there of the copy is removed. -/
  | unwritten {copy : List UInt8} {written : FileSystem} {e : FileError} : p.enhances = true →
    p.copier.process files job.image = .ok copy →
    p.copier.write files job.image.processed copy = (written, some e) →
    Prepares files (written.discard job.image.processed) (.skipped (.file e))
  | enhanced {copy : List UInt8} {written : FileSystem} : p.enhances = true →
    p.copier.process files job.image = .ok copy →
    p.copier.write files job.image.processed copy = (written, none) →
    Prepares files written .enhanced

theorem prepares (files : FileSystem) :
    Prepares p job files (p.prepare job files).1 (p.prepare job files).2 := by
  simp only [prepare, Copier.preprocess]
  by_cases henhances : p.enhances = true
  · rw [if_pos henhances]
    cases hprocess : p.copier.process files job.image with
    | error e => exact .unprocessed henhances hprocess
    | ok copy =>
      cases hwrite : p.copier.write files job.image.processed copy with
      | mk written fault =>
        cases fault with
        | none => simpa only [hwrite] using .enhanced henhances hprocess hwrite
        | some e => simpa only [hwrite] using .unwritten henhances hprocess hwrite
  · rw [if_neg henhances]
    exact .disabled (by simpa using henhances)

/-- Preparing an image takes some of the steps of an analysis, and nothing is asked in them. -/
theorem exists_steps_to_ready {files prepared : FileSystem} {preparation : Preparation}
    (h : Prepares p job files prepared preparation) : ∃ n m, stageCount = n + (m + 2) ∧
      p.advance job n (files, .begun) = (prepared, .ready preparation) ∧
      p.questions job n (files, .begun) = [] := by
  cases h with
  | disabled henhances =>
    refine ⟨1, 2, rfl, ?_, rfl⟩
    simp [advance, step, henhances]
  | unprocessed henhances hprocess =>
    refine ⟨1, 2, rfl, ?_, rfl⟩
    simp [advance, step, henhances, hprocess]
  | unwritten henhances hprocess hwrite =>
    rename_i copy written e
    have hbegun : p.step job files .begun = (files, .decoded copy) := by
      simp [step, henhances, hprocess]
    have hdecoded : p.step job files (.decoded copy) = (written, .unwritten e) := by
      simp [step, hwrite]
    refine ⟨3, 0, rfl, ?_, ?_⟩
    · rw [advance, hbegun, advance, hdecoded]
      rfl
    · rw [questions, hbegun, questions, hdecoded]
      rfl
  | enhanced henhances hprocess hwrite =>
    rename_i copy
    have hbegun : p.step job files .begun = (files, .decoded copy) := by
      simp [step, henhances, hprocess]
    refine ⟨2, 1, rfl, ?_, ?_⟩
    · rw [advance, hbegun]
      simp [advance, step, hwrite]
    · rw [questions, hbegun]
      rfl

/-- An analysis that is over stays as it is, and asks nothing. -/
theorem advance_finished (files : FileSystem) (preparation : Preparation) (inquiry : Inquiry)
    (answer : Recognition) (steps : Nat) :
    p.advance job steps (files, .finished preparation inquiry answer) =
        (files, .finished preparation inquiry answer) ∧
      p.questions job steps (files, .finished preparation inquiry answer) = [] := by
  induction steps with
  | zero => exact ⟨rfl, rfl⟩
  | succ n ih => exact ih

/-- The last two acts: an analysis whose image is prepared asks once, and then it is over. -/
theorem advance_ready (files : FileSystem) (preparation : Preparation) (steps : Nat) :
    p.advance job (steps + 2) (files, .ready preparation) =
        (tidy job (p.recognizer.leaves files (preparation.path job) job.language) preparation,
          .finished preparation (p.inquire job files preparation).1
            (p.inquire job files preparation).2) ∧
      p.questions job (steps + 2) (files, .ready preparation) =
        [(p.inquire job files preparation).1] := by
  cases preparation with
  | disabled | skipped | enhanced =>
    obtain ⟨hover, hsilent⟩ := p.advance_finished job _ _ _ _ steps
    exact ⟨hover, congrArg (_ :: ·) hsilent⟩

section Prepared

variable {p job} {files prepared : FileSystem} {preparation : Preparation}

/-- An analysis prepares the image, asks the recognizer and removes the copy. -/
theorem Prepares.run_eq (h : Prepares p job files prepared preparation) :
    p.run job files =
      (tidy job (p.recognizer.leaves prepared (preparation.path job) job.language) preparation,
        some (p.inquire job prepared preparation).1,
        some (conclude job.claimed preparation (p.inquire job prepared preparation).2)) := by
  obtain ⟨n, m, hcount, hready, -⟩ := p.exists_steps_to_ready job h
  have hfinish : p.finish job files = p.advance job (m + 2) (prepared, .ready preparation) := by
    rw [finish, hcount, advance_add, hready]
  rw [run, hfinish, (p.advance_ready job prepared preparation m).1]
  rfl

/-- An analysis asks once. -/
theorem Prepares.questions_eq (h : Prepares p job files prepared preparation) :
    p.questions job stageCount (files, .begun) = [(p.inquire job prepared preparation).1] := by
  obtain ⟨n, m, hcount, hready, hsilent⟩ := p.exists_steps_to_ready job h
  rw [hcount, questions_add, hready, hsilent, List.nil_append]
  exact (p.advance_ready job prepared preparation m).2

end Prepared

end Pipeline

end IdentityDocs
