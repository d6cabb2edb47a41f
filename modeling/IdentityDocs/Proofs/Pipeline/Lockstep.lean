import IdentityDocs.Pipeline.Conclusion
import IdentityDocs.Proofs.Pipeline.Stages

/-!
# Analyses that see the same

What an analysis does depends on two files only, the image and its processed copy. If two file
systems show the same there, then an analysis takes the same step in both, and they show the same
afterwards. The recognizer has to answer from the file that it is asked about alone.

The stages are compared up to the inquiry, which keeps the whole files as the recognizer saw them.
-/

namespace IdentityDocs

open FileSystem (SameTree)

/-- The recognizer answers from the file that it is asked about. -/
def Recognizer.Local (r : Recognizer) : Prop :=
  ∀ files files' path language, files.read path = files'.read path →
    r.ask files path language = r.ask files' path language

/-- The stages are the same up to the inquiry. -/
inductive Stage.Like : Stage → Stage → Prop
  | same (stage : Stage) : Like stage stage
  | answered (preparation : Preparation) (inquiry inquiry' : Inquiry) (answer : Recognition) :
    Like (.answered preparation inquiry answer) (.answered preparation inquiry' answer)
  | finished (preparation : Preparation) (inquiry inquiry' : Inquiry) (answer : Recognition) :
    Like (.finished preparation inquiry answer) (.finished preparation inquiry' answer)

theorem Stage.Like.conclusion?_eq {stage stage' : Stage} (h : stage.Like stage')
    (claimed : Option Category) : stage.conclusion? claimed = stage'.conclusion? claimed := by
  cases h <;> rfl

/-- The locations of the image of a job and of its processed copy. -/
structure Job.Places (base : FileSystem) (job : Job) where
  source : Location
  copy : Location
  locate_source : base.locate job.image = .ok source
  locate_copy : base.locate job.image.processed = .ok copy

namespace Job.Places

variable {base files files' : FileSystem} {job : Job} (places : job.Places base)

theorem source_ne_copy : places.source ≠ places.copy :=
  (FileSystem.locate_processed_ne places.locate_source places.locate_copy).symm

/-- The file systems show the same to an analysis of the job. -/
structure Agree (files files' : FileSystem) : Prop where
  tree : SameTree base files
  tree' : SameTree base files'
  source : files.get? places.source = files'.get? places.source
  copy : files.get? places.copy = files'.get? places.copy

variable {places}

theorem Agree.read_source (h : places.Agree files files') :
    files.read job.image = files'.read job.image :=
  FileSystem.read_congr (h.tree'.locate places.locate_source) (h.tree.locate places.locate_source)
    h.source

theorem Agree.read_copy (h : places.Agree files files') :
    files.read job.image.processed = files'.read job.image.processed :=
  FileSystem.read_congr (h.tree'.locate places.locate_copy) (h.tree.locate places.locate_copy)
    h.copy

/-- A change at the place of the copy that leads to the same there keeps the agreement. -/
theorem Agree.touched (h : places.Agree files files') {next next' : FileSystem}
    (hnext : FileSystem.Touched places.copy files next)
    (hnext' : FileSystem.Touched places.copy files' next')
    (hcopy : next.get? places.copy = next'.get? places.copy) : places.Agree next next' where
  tree := h.tree.trans hnext.sameTree
  tree' := h.tree'.trans hnext'.sameTree
  source := by
    rw [hnext.get?_of_ne places.source_ne_copy, hnext'.get?_of_ne places.source_ne_copy, h.source]
  copy := hcopy

theorem Agree.discard (h : places.Agree files files') :
    places.Agree (files.discard job.image.processed) (files'.discard job.image.processed) := by
  have hend := job.image.endsAsDirectory_processed
  have hloc := h.tree.locate places.locate_copy
  have hloc' := h.tree'.locate places.locate_copy
  refine h.touched (FileSystem.touched_discard hloc hend)
    (FileSystem.touched_discard hloc' hend) ?_
  rw [FileSystem.discard_of_locate hloc hend, FileSystem.discard_of_locate hloc' hend, h.copy]
  cases hget : files'.get? places.copy with
  | none => simp [h.copy]
  | some node =>
    cases node with
    | directory => simp [h.copy]
    | file bytes kind =>
      have hne : places.copy ≠ [] := FileSystem.ne_nil_of_get? (by rw [hget]; simp)
      simp only [FileSystem.get?_erase_self hne]

/-- What is written for the copy is the same in both, and so is what goes wrong. -/
theorem Agree.write (h : places.Agree files files') (c : Copier) (copy : List UInt8) :
    (c.write files job.image.processed copy).2 = (c.write files' job.image.processed copy).2 ∧
      places.Agree (c.write files job.image.processed copy).1
        (c.write files' job.image.processed copy).1 := by
  have hend := job.image.endsAsDirectory_processed
  have hloc := h.tree.locate places.locate_copy
  have hloc' := h.tree'.locate places.locate_copy
  have hbytes : ∀ bytes : List UInt8,
      (∃ e, files.write job.image.processed bytes = .error e ∧
        files'.write job.image.processed bytes = .error e) ∨
      ∃ next next', files.write job.image.processed bytes = .ok next ∧
        files'.write job.image.processed bytes = .ok next' ∧ places.Agree next next' := by
    intro bytes
    rcases FileSystem.write_agree bytes hloc hloc' hend h.copy with
      hrefused | ⟨next, next', hwrite, hwrite', hget⟩
    · exact .inl hrefused
    · exact .inr ⟨next, next', hwrite, hwrite', h.touched
        (FileSystem.touched_write hloc hend hwrite) (FileSystem.touched_write hloc' hend hwrite')
        hget⟩
  unfold Copier.write
  split
  · rcases hbytes copy with ⟨e, hwrite, hwrite'⟩ | ⟨next, next', hwrite, hwrite', hagree⟩
    · simp only [hwrite, hwrite']
      exact ⟨trivial, h⟩
    · simp only [hwrite, hwrite']
      exact ⟨trivial, hagree⟩
  · exact ⟨rfl, h⟩
  · rename_i count cause _
    rcases hbytes (copy.take count) with
      ⟨e, hwrite, hwrite'⟩ | ⟨next, next', hwrite, hwrite', hagree⟩
    · simp only [hwrite, hwrite']
      exact ⟨trivial, h⟩
    · simp only [hwrite, hwrite']
      exact ⟨trivial, hagree⟩

end Job.Places

namespace Pipeline

variable {p : Pipeline} {base files files' : FileSystem} {job : Job} {places : job.Places base}
  {stage stage' : Stage}

/-- The last step that touches the files is the same in both. -/
theorem like_step_answered (h : places.Agree files files') (preparation : Preparation)
    (inquiry inquiry' : Inquiry) (answer : Recognition) :
    (p.step job files (.answered preparation inquiry answer)).2.Like
        (p.step job files' (.answered preparation inquiry' answer)).2 ∧
      places.Agree (p.step job files (.answered preparation inquiry answer)).1
        (p.step job files' (.answered preparation inquiry' answer)).1 := by
  cases preparation with
  | enhanced => exact ⟨.finished .., h.discard⟩
  | disabled | skipped => exact ⟨.finished .., h⟩

/-- Two analyses that see the same take the same step, and see the same afterwards. -/
theorem like_step (hreads : p.recognizer.Reads) (hlocal : p.recognizer.Local)
    (h : places.Agree files files') (hlike : stage.Like stage') :
    (p.step job files stage).2.Like (p.step job files' stage').2 ∧
      places.Agree (p.step job files stage).1 (p.step job files' stage').1 := by
  cases hlike with
  | answered preparation inquiry inquiry' answer =>
    exact like_step_answered h preparation inquiry inquiry' answer
  | finished preparation inquiry inquiry' answer => exact ⟨.finished .., h⟩
  | same stage =>
    cases stage with
    | begun =>
      simp only [step, Copier.process_congr h.read_source]
      split
      · split <;> exact ⟨.same _, h⟩
      · exact ⟨.same _, h⟩
    | decoded copy =>
      obtain ⟨hfault, hagree⟩ := h.write p.copier copy
      simp only [step]
      generalize p.copier.write files job.image.processed copy = outcome at hfault hagree
      generalize p.copier.write files' job.image.processed copy = outcome' at hfault hagree
      obtain ⟨written, fault⟩ := outcome
      obtain ⟨written', fault'⟩ := outcome'
      obtain rfl : fault = fault' := hfault
      cases fault with
      | none => exact ⟨.same _, hagree⟩
      | some e => exact ⟨.same _, hagree⟩
    | unwritten cause => exact ⟨.same _, h.discard⟩
    | ready preparation =>
      have hread : files.read (preparation.path job) = files'.read (preparation.path job) := by
        cases preparation with
        | enhanced => exact h.read_copy
        | disabled | skipped => exact h.read_source
      simp only [step, inquire, hreads files, hreads files', hlocal files files' _ _ hread]
      exact ⟨.answered .., h⟩
    | answered preparation inquiry answer =>
      exact like_step_answered h preparation inquiry inquiry answer
    | finished => exact ⟨.same _, h⟩

end Pipeline

end IdentityDocs
