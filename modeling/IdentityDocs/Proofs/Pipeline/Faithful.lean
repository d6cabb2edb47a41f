import IdentityDocs.Proofs.Analysis.Confidence
import IdentityDocs.Proofs.Pipeline.Cleanup
import IdentityDocs.Proofs.Pipeline.Lockstep

/-!
# Analyses are faithful to their recognizer

A recognizer that always answers is asked one question, and the result is what its answer makes of
it: nothing of a failed analysis but the error, and of a text just what `analyze` finds in it. The
image being enhanced, or not, changes what is asked, but not what is made of the answer. So an
analysis that cannot enhance its image comes to what it comes to without enhancement, but for the
note on that.
-/

namespace IdentityDocs

open FileSystem (TouchedAt)

/-- The recognizer gives a text or an error, and never breaks down. -/
def Recognizer.Answers (r : Recognizer) : Prop :=
  ∀ files path language message, r.ask files path language ≠ .breakdown message

theorem FileSystem.has_of_write {fs fs' : FileSystem} {path : Path} {bytes : List UInt8}
    (hend : path.endsAsDirectory = false) (h : fs.write path bytes = .ok fs') :
    fs'.has path = true := by
  cases hloc : fs.locate path with
  | error e => simp [write, hloc] at h
  | ok loc =>
    rcases write_cases bytes hloc hend with
      ⟨-, e, herror⟩ | ⟨-, gs, hok, htouched, content, kind, hget⟩
    · simp [herror] at h
    · obtain rfl : gs = fs' := by simpa [hok] using h
      simp [has, find, htouched.sameTree.locate hloc, hget, hend]

/-- A copy that was written is there. -/
theorem Copier.has_of_write {c : Copier} {files written : FileSystem} {path : Path}
    {bytes : List UInt8} (hend : path.endsAsDirectory = false)
    (h : c.write files path bytes = (written, none)) : written.has path = true := by
  rcases write_cases h with ⟨-, hfault⟩ | ⟨begun, hwrite⟩
  · exact absurd rfl hfault
  · exact FileSystem.has_of_write hend hwrite

/-! ## What an answer makes of the result -/

theorem Verdict.ofStatus_status (v : Verdict) : ofStatus v.status = v := by
  cases v <;> rfl

/-- The notes on an analysis of a text after the first one, which tells of the enhancement. -/
def laterNotes (claimed : Option Category) (text : String) : List String :=
  let t := RecognizedText.of text
  let a := analyze t
  (if t.isEmpty then ["No text recognized"] else []) ++
    [s!"Type: {a.classification.category.label}"] ++
    (if a.inferred then ["Type inferred from identifier format only"] else []) ++
    claimNote claimed a.classification.category

namespace AnalysisResult

/-- The result is the one that an answer leads to. An error leads to one in which nothing is known
and nothing else is noted; a text to what the analysis of the text finds. -/
def Follows (claimed : Option Category) (preparation : Preparation) (result : AnalysisResult) :
    Recognition → Prop
  | .failure cause => result =
    { outcome := .failed
      classification := ⟨.unknown, 0.5⟩
      fields := {}
      confidence := 0.0
      verdict := .pending
      rawText := ""
      notes := "AI processing failed: " ++ cause.message }
  | .text text => result =
    { outcome := .completed
      classification := (analyze (.of text)).classification
      fields := (analyze (.of text)).fields
      confidence := (analyze (.of text)).confidence
      verdict := (analyze (.of text)).verdict
      rawText := text
      notes := joinNotes (preparation.note :: laterNotes claimed text) }
  | .breakdown _ => False

theorem follows_failed (claimed : Option Category) (preparation : Preparation) (cause : Error) :
    (failed cause.message).Follows claimed preparation (.failure cause) := by
  have hunknown : Classification.unknown = ⟨.unknown, 0.5⟩ := Classification.unknown_eq
  rw [Follows, failed, hunknown]
  rfl

/-- Keeping the confidence between bounds and taking the verdict from a status change nothing. -/
theorem follows_concludeText (claimed : Option Category) (preparation : Preparation)
    (text : String) :
    (concludeText claimed preparation text).Follows claimed preparation (.text text) := by
  have hnotes : notesOn preparation (.of text) (analyze (.of text)) ++
      claimNote claimed (analyze (.of text)).classification.category =
        preparation.note :: laterNotes claimed text := by
    simp only [notesOn, laterNotes, List.append_assoc]
    rfl
  simp only [Follows, concludeText, completed, clamp_confidence, Verdict.ofStatus_status, hnotes]

/-- An answer that is no breakdown leads to a result. -/
theorem exists_follows (claimed : Option Category) (preparation : Preparation)
    {answer : Recognition} (h : ∀ message, answer ≠ .breakdown message) :
    ∃ result, conclude claimed preparation answer = .ok result ∧
      result.Follows claimed preparation answer := by
  cases answer with
  | text text => exact ⟨_, rfl, follows_concludeText claimed preparation text⟩
  | failure cause => exact ⟨_, rfl, follows_failed claimed preparation cause⟩
  | breakdown message => exact absurd rfl (h message)

/-- The results agree in every field, but for the first note of an analysis that ran to its end. The
first notes are given. -/
structure AgreeButFirstNote (first first' : String) (r r' : AnalysisResult) : Prop where
  outcome : r'.outcome = r.outcome
  classification : r'.classification = r.classification
  fields : r'.fields = r.fields
  confidence : r'.confidence = r.confidence
  verdict : r'.verdict = r.verdict
  rawText : r'.rawText = r.rawText
  failed : r.outcome = .failed → r'.notes = r.notes
  completed : r.outcome = .completed → ∃ later,
    r.notes = joinNotes (first :: later) ∧ r'.notes = joinNotes (first' :: later)

/-- What an answer leads to depends on the preparation of the image in the first note alone. -/
theorem Follows.agree {claimed : Option Category} {preparation preparation' : Preparation}
    {r r' : AnalysisResult} {answer : Recognition} (h : r.Follows claimed preparation answer)
    (h' : r'.Follows claimed preparation' answer) :
    AgreeButFirstNote preparation.note preparation'.note r r' := by
  cases answer with
  | text text =>
    obtain rfl : r = _ := h
    obtain rfl : r' = _ := h'
    exact ⟨rfl, rfl, rfl, rfl, rfl, rfl, fun hfailed => Outcome.noConfusion hfailed,
      fun _ => ⟨_, rfl, rfl⟩⟩
  | failure cause =>
    obtain rfl : r = _ := h
    obtain rfl : r' = _ := h'
    exact ⟨rfl, rfl, rfl, rfl, rfl, rfl, fun _ => rfl,
      fun hcompleted => Outcome.noConfusion hcompleted⟩
  | breakdown message => exact absurd h id

end AnalysisResult

namespace Pipeline

variable {p : Pipeline} {job : Job} {files prepared : FileSystem}
  {preparation : Preparation}

/-! ## What is asked -/

/-- The image was enhanced just if there is a copy, and the copy is there. -/
theorem Prepares.of_preprocess_ok (h : Prepares p job files prepared preparation)
    (henhances : p.enhances = true) {path : Path}
    (hpath : (p.copier.preprocess files job.image).2 = .ok path) :
    preparation = .enhanced ∧ path = job.image.processed ∧ prepared.has path = true := by
  cases h with
  | disabled hdisabled => simp [henhances] at hdisabled
  | unprocessed _ hprocess => simp [Copier.preprocess, hprocess] at hpath
  | unwritten _ hprocess hwrite => simp [Copier.preprocess, hprocess, hwrite] at hpath
  | enhanced _ hprocess hwrite =>
    obtain rfl : job.image.processed = path := by
      simpa [Copier.preprocess, hprocess, hwrite] using hpath
    exact ⟨rfl, rfl, Copier.has_of_write job.image.endsAsDirectory_processed hwrite⟩

theorem Prepares.of_preprocess_error (h : Prepares p job files prepared preparation)
    (hnone : p.enhances = true → ∃ e, (p.copier.preprocess files job.image).2 = .error e) :
    preparation.path job = job.image := by
  cases h with
  | disabled | unprocessed | unwritten => rfl
  | enhanced henhances hprocess hwrite =>
    obtain ⟨e, herror⟩ := hnone henhances
    simp [Copier.preprocess, hprocess, hwrite] at herror

/-- A recognizer that is asked about the image sees it as it was. -/
theorem Prepares.read_image (h : Prepares p job files prepared preparation) :
    prepared.read job.image = files.read job.image := by
  have hread {copy : List UInt8} (hprocess : p.copier.process files job.image = .ok copy) :
      prepared.read job.image = files.read job.image := by
    obtain ⟨bytes, hbytes⟩ := Copier.exists_read_of_process hprocess
    rw [h.touchedAt.read_image hbytes, hbytes]
  cases h with
  | disabled | unprocessed => rfl
  | unwritten _ hprocess _ | enhanced _ hprocess _ => exact hread hprocess

/-- What an analysis asks, and what it makes of the answer. -/
structure Faithful (p : Pipeline) (job : Job) (files : FileSystem)
    (inquiry : Inquiry) (result : AnalysisResult) : Prop where
  run : (p.run job files).2 = (some inquiry, some (.ok result))
  /-- One question is asked. -/
  asked : p.questions job stageCount (files, .begun) = [inquiry]
  /-- A recognizer that gives the same answer to this question leads to the same end. -/
  alone : ∀ r : Recognizer,
    r.ask inquiry.files inquiry.path inquiry.language =
      p.recognizer.ask inquiry.files inquiry.path inquiry.language →
    r.leaves inquiry.files inquiry.path inquiry.language =
      p.recognizer.leaves inquiry.files inquiry.path inquiry.language →
    { p with recognizer := r }.run job files = p.run job files
  language : inquiry.language = job.language
  /-- Where enhancement succeeds the question is on the copy, which is there. -/
  ofCopy : p.enhances = true → ∀ path, (p.copier.preprocess files job.image).2 = .ok path →
    inquiry.path = path ∧ path = job.image.processed ∧ inquiry.files.has path = true
  /-- Where there is none, or it fails, the question is on the image. -/
  ofImage : (p.enhances = true → ∃ e, (p.copier.preprocess files job.image).2 = .error e) →
    inquiry.path = job.image ∧ inquiry.files.read job.image = files.read job.image
  follows : result.Follows job.claimed (p.prepare job files).2
    (p.recognizer.ask inquiry.files inquiry.path inquiry.language)

theorem exists_faithful (p : Pipeline) (hanswers : p.recognizer.Answers) (job : Job)
    (files : FileSystem) : ∃ inquiry result, Faithful p job files inquiry result := by
  have hprepares := p.prepares job files
  obtain ⟨result, hconclude, hfollows⟩ := AnalysisResult.exists_follows job.claimed
    (p.prepare job files).2 (hanswers (p.prepare job files).1
      ((p.prepare job files).2.path job) job.language)
  refine ⟨_, result, ?_, hprepares.questions_eq, ?_, rfl, ?_, ?_, hfollows⟩
  · rw [hprepares.run_eq]
    simp only [inquire, hconclude]
  · intro r hask hleaves
    have hsame : { p with recognizer := r }.finish job files = p.finish job files := by
      refine p.advance_congr job r stageCount _ ?_
      intro q hq
      rw [hprepares.questions_eq, List.mem_singleton] at hq
      rw [hq]
      exact ⟨hask, hleaves⟩
    rw [run, run, hsame]
  · intro henhances path hpath
    obtain ⟨henhanced, rfl, hhas⟩ := hprepares.of_preprocess_ok henhances hpath
    refine ⟨?_, rfl, hhas⟩
    rw [henhanced]
    rfl
  · exact fun hnone => ⟨hprepares.of_preprocess_error hnone, hprepares.read_image⟩

/-- **An analysis is faithful to its recognizer.** It gives a result in every case, which is what
the answer to its one question makes of it. If the image cannot be enhanced, the analysis comes to
what it comes to without enhancement, but for the first note of one that ran to its end. -/
theorem faithful_run {p : Pipeline} (hanswers : p.recognizer.Answers)
    (hlocal : p.recognizer.Local) (job : Job) (files : FileSystem) :
    ∃ inquiry result, Faithful p job files inquiry result ∧
      ∀ e, p.enhances = true → (p.copier.preprocess files job.image).2 = .error e →
        ∃ inquiry' result', Faithful { p with enhances := false } job files inquiry' result' ∧
          AnalysisResult.AgreeButFirstNote (Preparation.skipped e).note
            Preparation.disabled.note result result' := by
  obtain ⟨inquiry, result, hfaithful⟩ := exists_faithful p hanswers job files
  refine ⟨inquiry, result, hfaithful, fun e henhances herror => ?_⟩
  obtain ⟨inquiry', result', hplain⟩ :=
    exists_faithful { p with enhances := false } hanswers job files
  refine ⟨inquiry', result', hplain, ?_⟩
  -- both ask about the image, and see the same of it
  have hanswer : p.recognizer.ask inquiry.files inquiry.path inquiry.language =
      p.recognizer.ask inquiry'.files inquiry'.path inquiry'.language := by
    obtain ⟨hpath, hread⟩ := hfaithful.ofImage fun _ => ⟨e, herror⟩
    obtain ⟨hpath', hread'⟩ := hplain.ofImage fun hon => Bool.noConfusion hon
    rw [hpath, hpath', hfaithful.language, hplain.language]
    exact hlocal _ _ _ _ (hread.trans hread'.symm)
  have hskipped : (p.prepare job files).2 = .skipped e := by
    rw [prepare, if_pos henhances]
    generalize p.copier.preprocess files job.image = copied at herror
    obtain ⟨files', outcome⟩ := copied
    obtain rfl : outcome = .error e := herror
    rfl
  have hfollows := hfaithful.follows
  rw [hanswer, hskipped] at hfollows
  exact hfollows.agree hplain.follows

/-! ### An image whose copy cannot be written -/

/-- A recognizer that finds the language in every file, and an error where there is none. -/
def sampleRecognizer : Recognizer where
  name := "sample"
  ask files path language := match files.read path with
    | .ok _ => .text language
    | .error e => .failure (.file e)

theorem answers_sampleRecognizer : sampleRecognizer.Answers := by
  intro files path language message h
  simp only [sampleRecognizer] at h
  split at h <;> cases h

theorem local_sampleRecognizer : sampleRecognizer.Local := by
  intro files files' path language h
  simp only [sampleRecognizer, h]

/-- The writing of the copy breaks off, and the analysis comes to what it comes to without
enhancement. -/
theorem faithful_sampleFiles :
    sampleRecognizer.Answers ∧ sampleRecognizer.Local ∧
      (sampleCopier.preprocess sampleFiles sampleJob.image).2 =
        .error (.file (.reported "disk full")) ∧
      ∃ inquiry result inquiry' result',
        Faithful ⟨sampleRecognizer, true, sampleCopier⟩ sampleJob sampleFiles inquiry result ∧
        Faithful ⟨sampleRecognizer, false, sampleCopier⟩ sampleJob sampleFiles inquiry' result' ∧
        AnalysisResult.AgreeButFirstNote
          "Image enhancement skipped (file I/O error: disk full)" "Image enhancement disabled"
          result result' := by
  obtain ⟨inquiry, result, henhanced, hdegraded⟩ :=
    faithful_run (p := ⟨sampleRecognizer, true, sampleCopier⟩) answers_sampleRecognizer
      local_sampleRecognizer sampleJob sampleFiles
  obtain ⟨inquiry', result', hplain, hagree⟩ := hdegraded _ rfl rfl
  exact ⟨answers_sampleRecognizer, local_sampleRecognizer, rfl, inquiry, result, inquiry', result',
    henhanced, hplain, hagree⟩

end Pipeline

end IdentityDocs
