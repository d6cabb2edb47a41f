import IdentityDocs.Proofs.Pipeline.Course

/-!
# What an analysis leaves behind

An analysis with a recognizer that only reads leaves nothing behind. Wherever it turns off, nothing
but the file at the path of the processed copy is touched, and no file is left there once one was
begun to be written: not if the writing broke off, not if the recognizer gave an error, and not if
it broke down.
-/

namespace IdentityDocs

open FileSystem (Touched SameTree)

namespace FileSystem

variable {fs fs' fs'' : FileSystem} {path other : Path} {loc : Location}

/-- What stands at a path. -/
def node? (fs : FileSystem) (path : Path) : Option Node :=
  match fs.find path with
  | .ok (_, node) => some node
  | .error _ => none

theorem node?_of_locate (h : fs.locate path = .ok loc) :
    fs.node? path = (fs.get? loc).filter fun node =>
      node = .directory ∨ path.endsAsDirectory = false := by
  simp only [node?, find, h]
  cases fs.get? loc with
  | none => rfl
  | some node =>
    cases node with
    | directory => rfl
    | file bytes kind => by_cases hend : path.endsAsDirectory = true <;> simp [hend, Option.filter]

theorem node?_of_not_locate (h : ∀ loc, fs.locate path ≠ .ok loc) : fs.node? path = none := by
  cases hloc : fs.locate path with
  | ok loc => exact absurd hloc (h loc)
  | error e => simp [node?, find, hloc]

/-- The file systems differ at most in the file at a path. -/
structure TouchedAt (path : Path) (fs fs' : FileSystem) : Prop where
  touched : ∀ loc, fs.locate path = .ok loc → Touched loc fs fs'
  same : (∀ loc, fs.locate path ≠ .ok loc) → fs' = fs

theorem TouchedAt.refl (path : Path) (fs : FileSystem) : TouchedAt path fs fs :=
  ⟨fun loc _ => Touched.refl loc fs, fun _ => rfl⟩

theorem TouchedAt.sameTree (h : TouchedAt path fs fs') : SameTree fs fs' := by
  by_cases hloc : ∃ loc, fs.locate path = .ok loc
  · obtain ⟨loc, hloc⟩ := hloc
    exact (h.touched loc hloc).sameTree
  · rw [h.same fun loc heq => hloc ⟨loc, heq⟩]
    exact SameTree.refl fs

theorem TouchedAt.trans (h : TouchedAt path fs fs') (h' : TouchedAt path fs' fs'') :
    TouchedAt path fs fs'' where
  touched loc hloc := (h.touched loc hloc).trans (h'.touched loc (h.sameTree.locate hloc))
  same hloc := by
    have hloc' : ∀ loc, fs'.locate path ≠ .ok loc := by
      intro loc heq
      exact hloc loc (h.sameTree.locate_iff.1 heq)
    rw [h'.same hloc', h.same hloc]

/-- Where the path does not lead, everything is as it was. -/
theorem TouchedAt.get?_eq (h : TouchedAt path fs fs') (hloc : fs.locate path ≠ .ok loc) :
    fs'.get? loc = fs.get? loc := by
  by_cases hplace : ∃ place, fs.locate path = .ok place
  · obtain ⟨place, hplace⟩ := hplace
    refine (h.touched place hplace).get?_of_ne ?_
    rintro rfl
    exact hloc hplace
  · rw [h.same fun place heq => hplace ⟨place, heq⟩]

/-- A path that does not lead to the same place is not concerned. -/
theorem TouchedAt.node?_eq (h : TouchedAt path fs fs')
    (hother : ∀ loc, fs.locate other = .ok loc → fs.locate path ≠ .ok loc) :
    fs'.node? other = fs.node? other := by
  cases hloc : fs.locate other with
  | ok loc =>
    rw [node?_of_locate hloc, node?_of_locate (h.sameTree.locate hloc), h.get?_eq (hother loc hloc)]
  | error e =>
    have hnone : ∀ loc, fs.locate other ≠ .ok loc := by simp [hloc]
    have hnone' : ∀ loc, fs'.locate other ≠ .ok loc := by
      intro loc heq
      exact hnone loc (h.sameTree.locate_iff.1 heq)
    rw [node?_of_not_locate hnone, node?_of_not_locate hnone']

/-- An image that can be read shows the same whatever happens at the path of its copy. -/
theorem TouchedAt.read_image {image : Path} {bytes : List UInt8}
    (h : TouchedAt image.processed fs fs') (hread : fs.read image = .ok bytes) :
    fs'.read image = .ok bytes := by
  obtain ⟨-, loc, kind, hloc, -⟩ := exists_of_read hread
  rw [← hread]
  refine read_congr hloc (h.sameTree.locate hloc) (h.get?_eq ?_)
  intro hcopy
  exact locate_processed_ne hloc hcopy rfl

theorem touchedAt_write {bytes : List UInt8} (hend : path.endsAsDirectory = false)
    (h : fs.write path bytes = .ok fs') : TouchedAt path fs fs' := by
  refine ⟨fun loc hloc => touched_write hloc hend h, fun hnone => ?_⟩
  cases hloc : fs.locate path with
  | ok loc => exact absurd hloc (hnone loc)
  | error e => simp [FileSystem.write, hloc] at h

theorem touchedAt_discard (hend : path.endsAsDirectory = false) :
    TouchedAt path fs (fs.discard path) :=
  ⟨fun _ hloc => touched_discard hloc hend, discard_of_not_locate⟩

/-- No file stands where one was removed. -/
theorem node?_discard (hend : path.endsAsDirectory = false) (bytes : List UInt8) (kind : FileKind) :
    (fs.discard path).node? path ≠ some (.file bytes kind) := by
  have htree : SameTree fs (fs.discard path) := (touchedAt_discard hend).sameTree
  cases hloc : fs.locate path with
  | error e =>
    have hnone : ∀ loc, (fs.discard path).locate path ≠ .ok loc := by
      intro loc heq
      rw [htree.locate_iff, hloc] at heq
      cases heq
    rw [node?_of_not_locate hnone]
    exact fun h => nomatch h
  | ok loc =>
    rw [node?_of_locate (htree.locate hloc), discard_of_locate hloc hend]
    cases hget : fs.get? loc with
    | none => simp [hget]
    | some node =>
      cases node with
      | directory => simp [hget, Option.filter]
      | file content _ =>
        have hdir : fs.get? loc ≠ some .directory := by simp [hget]
        have hne : loc ≠ [] := ne_nil_of_get? hdir
        simp [get?_erase_self hne]

end FileSystem

open FileSystem (TouchedAt)

namespace Copier

variable {c : Copier} {files written : FileSystem} {path : Path} {bytes : List UInt8}
  {fault : Option FileError}

/-- Writing touches nothing but the file at the path, whatever goes wrong. -/
theorem touchedAt_of_write (hend : path.endsAsDirectory = false)
    (h : c.write files path bytes = (written, fault)) : TouchedAt path files written := by
  rcases write_cases h with ⟨rfl, -⟩ | ⟨begun, hwrite⟩
  · exact TouchedAt.refl path _
  · exact FileSystem.touchedAt_write hend hwrite

end Copier

namespace Pipeline

variable {p : Pipeline} {job : Job} {files prepared : FileSystem}
  {preparation : Preparation}

theorem Prepares.touchedAt (h : Prepares p job files prepared preparation) :
    TouchedAt job.image.processed files prepared := by
  have hend := job.image.endsAsDirectory_processed
  cases h with
  | disabled | unprocessed => exact TouchedAt.refl _ _
  | unwritten _ _ hwrite =>
    exact (Copier.touchedAt_of_write hend hwrite).trans (FileSystem.touchedAt_discard hend)
  | enhanced _ _ hwrite => exact Copier.touchedAt_of_write hend hwrite

/-- A step in which nothing is asked touches nothing but the file at the path of the copy. -/
theorem touchedAt_step {stage : Stage} (h : ∀ preparation, stage ≠ .ready preparation) :
    TouchedAt job.image.processed files (p.step job files stage).1 := by
  have hend := job.image.endsAsDirectory_processed
  cases stage with
  | begun =>
    have hsame : (p.step job files .begun).1 = files := by
      simp only [step]
      split
      · split <;> rfl
      · rfl
    rw [hsame]
    exact TouchedAt.refl _ _
  | decoded copy =>
    simp only [step]
    generalize hwrite : p.copier.write files job.image.processed copy = outcome
    obtain ⟨written, fault⟩ := outcome
    cases fault with
    | none | some e => exact Copier.touchedAt_of_write hend hwrite
  | unwritten cause => exact FileSystem.touchedAt_discard hend
  | ready preparation => exact absurd rfl (h preparation)
  | answered preparation inquiry answer =>
    cases preparation with
    | enhanced => exact FileSystem.touchedAt_discard hend
    | disabled | skipped => exact TouchedAt.refl _ _
  | finished => exact TouchedAt.refl _ _

theorem touchedAt_tidy : TouchedAt job.image.processed files (tidy job files preparation) := by
  cases preparation with
  | enhanced => exact FileSystem.touchedAt_discard job.image.endsAsDirectory_processed
  | disabled | skipped => exact TouchedAt.refl _ _

/-- What was prepared and is tidied up leaves no file at the path of the copy, if one was to be
written. -/
theorem Prepares.node?_tidy (h : Prepares p job files prepared preparation)
    (henhances : p.enhances = true) {copy : List UInt8}
    (hprocess : p.copier.process files job.image = .ok copy) (bytes : List UInt8)
    (kind : FileKind) :
    (tidy job prepared preparation).node? job.image.processed ≠ some (.file bytes kind) := by
  have hend := job.image.endsAsDirectory_processed
  cases h with
  | disabled hdisabled => simp [henhances] at hdisabled
  | unprocessed _ herror => simp [hprocess] at herror
  | unwritten => exact FileSystem.node?_discard hend bytes kind
  | enhanced => exact FileSystem.node?_discard hend bytes kind

/-- What was not processed is not touched. -/
theorem Prepares.tidy_eq (h : Prepares p job files prepared preparation)
    (hnone : p.enhances = true → ∃ e, p.copier.process files job.image = .error e) :
    tidy job prepared preparation = files := by
  cases h with
  | disabled | unprocessed => rfl
  | unwritten henhances hprocess | enhanced henhances hprocess =>
    obtain ⟨e, herror⟩ := hnone henhances
    simp [hprocess] at herror

/-- The files after an analysis, compared with those before it. -/
structure CleanedUp (p : Pipeline) (job : Job) (files files' : FileSystem) : Prop where
  /-- Only where the path of the copy leads something may have changed. -/
  elsewhere : ∀ loc, files.locate job.image.processed ≠ .ok loc → files'.get? loc = files.get? loc
  /-- Other paths show what they showed. -/
  paths : ∀ other, (∀ loc, files.locate other = .ok loc →
    files.locate job.image.processed ≠ .ok loc) → files'.node? other = files.node? other
  source : files'.node? job.image = files.node? job.image
  /-- Once a copy was to be written, no file is left in its place. -/
  attempted : p.enhances = true → ∀ copy, p.copier.process files job.image = .ok copy →
    ∀ bytes kind, files'.node? job.image.processed ≠ some (.file bytes kind)
  /-- Without enhancement, and without an image that can be processed, nothing is touched. -/
  untouched : (p.enhances = true → ∃ e, p.copier.process files job.image = .error e) →
    files' = files

/-- **An analysis cleans up.** Whatever the image is, however its copy is made and whatever goes
wrong when it is written, and whatever the recognizer does besides changing the files: the analysis
ends, be it with a breakdown, and then nothing of it is left in the files. -/
theorem cleanedUp_run {p : Pipeline} (hreads : p.recognizer.Reads) (job : Job)
    (files : FileSystem) :
    (∃ conclusion, (p.run job files).2.2 = some conclusion) ∧
      CleanedUp p job files (p.run job files).1 := by
  obtain ⟨prepared, preparation, hprepares⟩ :
      ∃ prepared preparation, Prepares p job files prepared preparation :=
    ⟨_, _, p.prepares job files⟩
  rw [hprepares.run_eq, hreads]
  have htouched : TouchedAt job.image.processed files (tidy job prepared preparation) :=
    hprepares.touchedAt.trans touchedAt_tidy
  refine ⟨⟨_, rfl⟩, fun loc hloc => htouched.get?_eq hloc, fun other => htouched.node?_eq, ?_,
    fun henhances copy hprocess => hprepares.node?_tidy henhances hprocess, hprepares.tidy_eq⟩
  refine htouched.node?_eq fun loc hloc hcopy => ?_
  exact FileSystem.locate_processed_ne hloc hcopy rfl

/-! ### A write that breaks off, and a recognizer that breaks down -/

/-- A way to copy any image as it is, which never gets beyond the third byte. -/
def sampleCopier : Copier where
  convert _ bytes := .ok bytes
  fault _ := some (.brokenOff 3 (.reported "disk full"))

/-- A pipeline whose copies are never finished, and whose recognizer breaks down. -/
def samplePipeline : Pipeline := ⟨.always "broken" (.breakdown "lost"), true, sampleCopier⟩

/-- An image to be analysed. -/
def sampleJob : Job where
  documentId := { digits := List.replicate 32 (DocumentId.digitOf 3) }
  image := .ofText "a.pgm"

/-- The files with the image, and with a file in the place of its processed copy. -/
def sampleFiles : FileSystem where
  nodes := [([Text.encode "a.pgm"], .file [1, 2, 3, 4] .plain),
    ([Text.encode "a.pgm_processed.jpg"], .file [9] .plain)]
  current := []

/-- What was written of the copy is gone, although the writing broke off and the recognizer broke
down later on. -/
theorem cleanedUp_sampleFiles :
    samplePipeline.recognizer.Reads ∧
      samplePipeline.copier.process sampleFiles sampleJob.image = .ok [1, 2, 3, 4] ∧
      CleanedUp samplePipeline sampleJob sampleFiles
        (samplePipeline.run sampleJob sampleFiles).1 ∧
      (samplePipeline.run sampleJob sampleFiles).1.node? sampleJob.image.processed = none := by
  have hreads : samplePipeline.recognizer.Reads := fun _ _ _ => rfl
  refine ⟨hreads, rfl, (cleanedUp_run hreads sampleJob sampleFiles).2, ?_⟩
  decide +kernel

end Pipeline

end IdentityDocs
