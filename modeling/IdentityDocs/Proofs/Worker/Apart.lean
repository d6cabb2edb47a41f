import IdentityDocs.Image.PnmCodec
import IdentityDocs.Proofs.Worker.Kept

/-!
# Runs and the image files of other runs

A run that enhances its image writes and removes a processed copy, and its path follows from that
of the image alone. Two images may have the same copy, and an image may itself lie where the copy
of another one is put. Then a run removes what another one still has to read.
`Floor.harmless_iff_apart` says that it never comes to that, in no order of the steps, exactly if
the images are apart from each other: no copy is put where another image lies, or a copy that
another recognizer is to read. How the copies come about, and what goes wrong then, does not matter.
-/

namespace IdentityDocs

open FileSystem (Touched SameTree)

/-- Analysing an image touches neither another image nor the copy of that which its recognizer is to
read. -/
def Apart (p q : Pipeline) (files : FileSystem) (image other : Path) : Prop :=
  ∀ place, p.copyPlace? files image = some place →
    files.locate other ≠ .ok place ∧ q.readyPlace? files other ≠ some place

/-- The processed copy of the run is there, and the recognizer has still to read it. -/
def Run.AwaitsCopy (run : Run) : Prop :=
  ∃ digest, run.phase = .analysing digest (.ready .enhanced)

/-- The next step of the run removes its processed copy, or what was written of it. -/
def Run.Discards (run : Run) : Prop :=
  ∃ digest, (∃ cause, run.phase = .analysing digest (.unwritten cause)) ∨
    ∃ inquiry answer, run.phase = .analysing digest (.answered .enhanced inquiry answer)

namespace Floor

variable {p : Nat → Pipeline} {audited : Bool} {base : FileSystem} {jobs : List Job} {f : Floor}
  {i j : Nat}

/-- The next step of the run in a place changes no image of a run, and no processed copy that
another run has still to read. -/
def Harmless (p : Nat → Pipeline) (audited : Bool) (f : Floor) (i : Nat) : Prop :=
  ∀ (j : Nat) (run : Run), f.runs[j]? = some run →
    (f.turn p audited i).world.files.read run.job.image = f.world.files.read run.job.image ∧
      (j ≠ i → run.AwaitsCopy →
        (f.turn p audited i).world.files.read run.job.image.processed =
          f.world.files.read run.job.image.processed)

/-- All images can be read. -/
def Readable (base : FileSystem) (jobs : List Job) : Prop :=
  ∀ job ∈ jobs, ∃ bytes, base.read job.image = .ok bytes

theorem Readable.located (h : Readable base jobs) : Located base jobs := by
  intro job hjob
  obtain ⟨bytes, hbytes⟩ := h job hjob
  obtain ⟨-, loc, -, hloc, -⟩ := FileSystem.exists_of_read hbytes
  exact ⟨loc, hloc⟩

/-! ## Images that are apart -/

/-- While images and copies are apart, every step is harmless. -/
theorem Kept.harmless (hreads : (p i).recognizer.Reads) (hsafe : SourcesSafe p base jobs)
    (hlocated : Located base jobs) (h : f.Kept p base jobs)
    (hcopies : ∀ (j : Nat) (run other : Run) (place : Location), j ≠ i → f.runs[i]? = some run →
      f.runs[j]? = some other → (p i).copyPlace? base run.job.image = some place →
      (p j).readyPlace? base other.job.image ≠ some place) :
    f.Harmless p audited i := by
  have hkept := h.turn audited hreads hsafe hlocated
  intro j other hother
  have hjob : other.job ∈ jobs := List.mem_of_getElem? (h.getElem?_jobs hother)
  refine ⟨?_, ?_⟩
  · rw [hkept.read hsafe hlocated hjob, h.read hsafe hlocated hjob]
  · rintro hji ⟨digest, hphase⟩
    obtain ⟨place, hplace⟩ :=
      Option.isSome_iff_exists.1 ((h.fits j other hother digest _ hphase).1 rfl)
    have hloc := Pipeline.locate_of_copyPlace? (Pipeline.readyPlace?_eq_some.1 hplace).2
    refine FileSystem.read_congr (h.tree.locate hloc) (hkept.tree.locate hloc) ?_
    rcases h.files_turn audited hreads hsafe hlocated with
      hsame | ⟨run, touched, hrun, htouched, hchange⟩
    · rw [hsame]
    · refine hchange.get?_of_ne ?_
      rintro rfl
      exact hcopies j run other place hji hrun hother htouched hplace

/-! ## Images that are not apart -/

/-- A run keeps its place and its job. -/
theorem exists_run_afterAll (p : Nat → Pipeline) (audited : Bool) {run : Run}
    (h : f.runs[j]? = some run) (events : List Event) :
    ∃ next, (f.afterAll p audited events).runs[j]? = some next ∧ next.job = run.job := by
  refine exists_run_of_jobs (jobs_afterAll p audited f events) ?_
  rw [List.getElem?_map, h]
  rfl

/-- A run with an image that can be processed comes to the point where the content of the copy is
worked out, and nothing is touched on the way. -/
theorem exists_decoded (audited : Bool) {run : Run} (hrun : f.runs[i]? = some run)
    (hqueued : run.phase = .queued) {place : Location}
    (hplace : (p i).copyPlace? f.world.files run.job.image = some place) :
    ∃ events next digest copy, (f.afterAll p audited events).runs[i]? = some next ∧
      next.job = run.job ∧ next.phase = .analysing digest (.decoded copy) ∧
      (∀ k, k ≠ i → (f.afterAll p audited events).runs[k]? = f.runs[k]?) ∧
      (f.afterAll p audited events).world.files = f.world.files := by
  obtain ⟨henhances, hplace⟩ := Pipeline.copyPlace?_eq_some.1 hplace
  obtain ⟨⟨copy, hcopy⟩, -⟩ := Copier.copyPlace?_eq_some.1 hplace
  have hmark : (run.mark f.world).files = f.world.files := by
    have hstep : (run.step (p i) audited f.world).2.files = f.world.files :=
      Run.files_step_of_ne (p i) audited f.world (by simp [hqueued])
    rwa [Run.step, hqueued] at hstep
  obtain ⟨hi, -⟩ := List.getElem?_eq_some_iff.1 hrun
  -- mark, fingerprint, decode
  have hthree : f.afterAll p audited (List.replicate 3 (.turn i)) = _ := afterAll_replicate 3 hrun
  simp only [Run.advance, Run.step, hqueued, Stage.conclusion?, Pipeline.step, henhances, if_true,
    hmark, hcopy] at hthree
  refine ⟨List.replicate 3 (.turn i), ?_⟩
  rw [hthree]
  exact ⟨_, _, copy, List.getElem?_set_self hi, rfl, rfl, fun k hk => List.getElem?_set_ne hk.symm,
    rfl⟩

/-- A run with an image that can be processed comes to the point where it has written its copy, as
far as that went. -/
theorem exists_written (audited : Bool) {run : Run} (hrun : f.runs[i]? = some run)
    (hqueued : run.phase = .queued) {place : Location}
    (hplace : (p i).copyPlace? f.world.files run.job.image = some place) :
    ∃ copy written fault,
      (p i).copier.write f.world.files run.job.image.processed copy = (written, fault) ∧
      ∃ events next digest, (f.afterAll p audited events).runs[i]? = some next ∧
        next.job = run.job ∧
        next.phase = .analysing digest (fault.elim (.ready .enhanced) .unwritten) ∧
        (∀ k, k ≠ i → (f.afterAll p audited events).runs[k]? = f.runs[k]?) ∧
        (f.afterAll p audited events).world.files = written := by
  obtain ⟨events, decoded, digest, copy, hdecoded, hjob, hphase, hothers, hfiles⟩ :=
    exists_decoded audited hrun hqueued hplace
  generalize hwrite : (p i).copier.write f.world.files run.job.image.processed copy = outcome
  obtain ⟨written, fault⟩ := outcome
  have hstep : (decoded.step (p i) audited (f.afterAll p audited events).world).1.phase =
      .analysing digest (fault.elim (.ready .enhanced) .unwritten) ∧
      (decoded.step (p i) audited (f.afterAll p audited events).world).2.files = written := by
    simp only [Run.step, hphase, Stage.conclusion?, Pipeline.step, hfiles, hjob, hwrite]
    cases fault <;> exact ⟨rfl, rfl⟩
  refine ⟨copy, written, fault, hwrite, events ++ [.turn i],
    (decoded.step (p i) audited (f.afterAll p audited events).world).1, digest, ?_⟩
  simp only [afterAll_append, afterAll_cons, afterAll_nil, after]
  refine ⟨getElem?_turn_self p audited hdecoded, (Run.job_step ..).trans hjob, hstep.1,
    fun k hk => ?_, ?_⟩
  · rw [getElem?_turn_of_ne hk, hothers k hk]
  · rw [turn_of_some hdecoded]
    exact hstep.2

/-- Once a file is written to its place there is one, if nothing went wrong or there was one
before. -/
theorem exists_file_of_write {c : Copier} {files written : FileSystem} {path : Path}
    {bytes : List UInt8} {fault : Option FileError} {place : Location}
    (hloc : files.locate path = .ok place) (hend : path.endsAsDirectory = false)
    (hwrite : c.write files path bytes = (written, fault))
    (hfile : fault = none ∨ ∃ content kind, files.get? place = some (.file content kind)) :
    ∃ content kind, written.get? place = some (.file content kind) := by
  rcases Copier.write_cases hwrite with ⟨rfl, hfault⟩ | ⟨begun, hbegun⟩
  · exact hfile.resolve_left hfault
  · rcases FileSystem.write_cases begun hloc hend with
      ⟨-, e, herror⟩ | ⟨-, files', hok, -, hthere⟩
    · simp [hbegun] at herror
    · obtain rfl : files' = written := by simpa [hbegun] using hok.symm
      exact hthere

/-- A run whose copy nothing goes wrong with comes to the point where it has written it. -/
theorem exists_awaitsCopy (audited : Bool) {run : Run} (hrun : f.runs[i]? = some run)
    (hqueued : run.phase = .queued) {place : Location}
    (hready : (p i).readyPlace? f.world.files run.job.image = some place) :
    ∃ events, (∃ next, (f.afterAll p audited events).runs[i]? = some next ∧ next.job = run.job ∧
        next.AwaitsCopy) ∧
      (∀ k, k ≠ i → (f.afterAll p audited events).runs[k]? = f.runs[k]?) ∧
      Touched place f.world.files (f.afterAll p audited events).world.files ∧
      ∃ content kind,
        (f.afterAll p audited events).world.files.get? place = some (.file content kind) := by
  obtain ⟨hnofault, hplace⟩ := Pipeline.readyPlace?_eq_some.1 hready
  have hloc := Pipeline.locate_of_copyPlace? hplace
  have hend := run.job.image.endsAsDirectory_processed
  obtain ⟨copy, written, fault, hwrite, events, next, digest, hnext, hjob, hphase, hothers,
    hfiles⟩ := exists_written audited hrun hqueued hplace
  obtain rfl : fault = none := by
    rcases FileSystem.write_cases copy hloc hend with ⟨hdir, -⟩ | ⟨-, whole, hwhole, -⟩
    · exact absurd hdir (Pipeline.get?_of_copyPlace? hplace)
    · simp only [Copier.write, hnofault, hwhole] at hwrite
      exact (Prod.mk.inj hwrite).2.symm
  refine ⟨events, ⟨next, hnext, hjob, digest, hphase⟩, hothers, ?_⟩
  rw [hfiles]
  exact ⟨Copier.touched_of_write hloc hend hwrite, exists_file_of_write hloc hend hwrite (.inl rfl)⟩

/-- A run whose copy is put where a file lies comes to the point where it removes what is there,
whatever goes wrong when it writes the copy. -/
theorem exists_discards (audited : Bool) (hreads : (p i).recognizer.Reads) {run : Run}
    (hrun : f.runs[i]? = some run) (hqueued : run.phase = .queued) {place : Location}
    (hplace : (p i).copyPlace? f.world.files run.job.image = some place)
    (hfile : ∃ content kind, f.world.files.get? place = some (.file content kind)) :
    ∃ events, (∃ next, (f.afterAll p audited events).runs[i]? = some next ∧ next.job = run.job ∧
        next.Discards) ∧
      (∀ k, k ≠ i → (f.afterAll p audited events).runs[k]? = f.runs[k]?) ∧
      Touched place f.world.files (f.afterAll p audited events).world.files ∧
      ∃ content kind,
        (f.afterAll p audited events).world.files.get? place = some (.file content kind) := by
  have hloc := Pipeline.locate_of_copyPlace? hplace
  have hend := run.job.image.endsAsDirectory_processed
  obtain ⟨copy, written, fault, hwrite, events, next, digest, hnext, hjob, hphase, hothers,
    hfiles⟩ := exists_written audited hrun hqueued hplace
  have htouched := Copier.touched_of_write hloc hend hwrite
  have hthere := exists_file_of_write hloc hend hwrite (.inr hfile)
  cases fault with
  | some cause =>
    refine ⟨events, ⟨next, hnext, hjob, digest, .inl ⟨cause, hphase⟩⟩, hothers, ?_⟩
    rw [hfiles]
    exact ⟨htouched, hthere⟩
  | none =>
    -- the copy is there, and the next turn is the question
    have hasked : (next.step (p i) audited (f.afterAll p audited events).world).1.Discards := by
      simp only [Run.step, hphase, Option.elim_none, Stage.conclusion?, Pipeline.step]
      exact ⟨digest, .inr ⟨_, _, rfl⟩⟩
    refine ⟨events ++ [.turn i], ?_⟩
    simp only [afterAll_append, afterAll_cons, afterAll_nil, after]
    refine ⟨⟨_, getElem?_turn_self p audited hnext, (Run.job_step ..).trans hjob, hasked⟩,
      fun k hk => ?_, ?_⟩
    · rw [getElem?_turn_of_ne hk, hothers k hk]
    · have hsame : ((f.afterAll p audited events).turn p audited i).world.files = written := by
        rw [turn_of_some hnext, Run.files_step_of_analysing _ _ _ hphase, ← hfiles]
        exact hreads _ _ _
      rw [hsame]
      exact ⟨htouched, hthere⟩

/-- What a run removes is the file at the path of its copy. -/
theorem files_turn_of_discards (audited : Bool) {run : Run} (hrun : f.runs[i]? = some run)
    (hdiscards : run.Discards) :
    (f.turn p audited i).world.files = f.world.files.discard run.job.image.processed := by
  obtain ⟨digest, ⟨cause, hphase⟩ | ⟨inquiry, answer, hphase⟩⟩ := hdiscards
  · rw [turn_of_some hrun, Run.files_step_of_analysing _ _ _ hphase]
    rfl
  · rw [turn_of_some hrun, Run.files_step_of_analysing _ _ _ hphase]
    rfl

/-- What can be read cannot be read any more once it is discarded at its location. -/
theorem read_discard_ne {files : FileSystem} {place : Location} {path copy : Path}
    {content : List UInt8} {kind : FileKind} (hpath : files.locate path = .ok place)
    (hend : path.endsAsDirectory = false) (hcopy : files.locate copy = .ok place)
    (hcopyEnd : copy.endsAsDirectory = false)
    (hfile : files.get? place = some (.file content kind)) :
    (files.discard copy).read path ≠ files.read path := by
  have hplace : place ≠ [] := FileSystem.ne_nil_of_get? (by rw [hfile]; simp)
  have htree := (FileSystem.touched_discard hcopy hcopyEnd).sameTree
  rw [FileSystem.read_of_locate (htree.locate hpath), FileSystem.read_of_locate hpath,
    FileSystem.discard_of_locate hcopy hcopyEnd]
  simp [hfile, hend, FileSystem.get?_erase_self hplace]

/-- A run whose copy is put where an image lies removes the image. -/
theorem exists_not_harmless_of_source (audited : Bool) (hreads : (p i).recognizer.Reads)
    {run other : Run} (hrun : f.runs[i]? = some run) (hqueued : run.phase = .queued)
    (hother : f.runs[j]? = some other) {place : Location}
    (hplace : (p i).copyPlace? f.world.files run.job.image = some place)
    (hsource : f.world.files.locate other.job.image = .ok place) {bytes : List UInt8}
    (hread : f.world.files.read other.job.image = .ok bytes) :
    ∃ events, ¬ (f.afterAll p audited events).Harmless p audited i := by
  obtain ⟨hend, loc, kind, hloc, hfile⟩ := FileSystem.exists_of_read hread
  obtain rfl : loc = place := Except.ok.inj (hloc.symm.trans hsource)
  obtain ⟨events, ⟨next, hnext, hjob, hdiscards⟩, -, htouched, content, kind, hthere⟩ :=
    exists_discards audited hreads hrun hqueued hplace ⟨_, _, hfile⟩
  obtain ⟨late, hlate, hlateJob⟩ := exists_run_afterAll p audited hother events
  have hcopy := Pipeline.locate_of_copyPlace? hplace
  refine ⟨events, fun hharmless => ?_⟩
  have hsame := (hharmless j late hlate).1
  rw [files_turn_of_discards audited hnext hdiscards, hlateJob, hjob] at hsame
  exact read_discard_ne (htouched.sameTree.locate hsource) hend (htouched.sameTree.locate hcopy)
    run.job.image.endsAsDirectory_processed hthere hsame

/-- A run removes the copy that another one has still to read, if it puts its own in the same
place. -/
theorem exists_not_harmless_of_copy (audited : Bool) (hreads : (p i).recognizer.Reads)
    (hne : j ≠ i) {run other : Run} (hrun : f.runs[i]? = some run) (hqueued : run.phase = .queued)
    (hother : f.runs[j]? = some other) (hotherQueued : other.phase = .queued) {place : Location}
    (hplace : (p i).copyPlace? f.world.files run.job.image = some place)
    (hotherPlace : (p j).readyPlace? f.world.files other.job.image = some place)
    {bytes : List UInt8} (hread : f.world.files.read run.job.image = .ok bytes) :
    ∃ events, ¬ (f.afterAll p audited events).Harmless p audited i := by
  obtain ⟨first, ⟨waiting, hwaiting, hwaitingJob, hawaits⟩, hothers, htouched, hthere⟩ :=
    exists_awaitsCopy audited hother hotherQueued hotherPlace
  -- the other run has written its copy, and this run finds its image as it was
  obtain ⟨-, loc, kind, hloc, -⟩ := FileSystem.exists_of_read hread
  have hrun' := (hothers i hne.symm).trans hrun
  have hplace' : (p i).copyPlace? (f.afterAll p audited first).world.files run.job.image =
      some place := by
    have hne' : loc ≠ place := fun h =>
      FileSystem.locate_processed_ne hloc (Pipeline.locate_of_copyPlace? hplace) h.symm
    obtain ⟨henhances, hcopy⟩ := Pipeline.copyPlace?_eq_some.1 hplace
    rw [Pipeline.copyPlace?_eq_some, Copier.copyPlace?_congr htouched.sameTree
      (FileSystem.read_congr hloc (htouched.sameTree.locate hloc) (htouched.get?_of_ne hne'))]
    exact ⟨henhances, hcopy⟩
  obtain ⟨second, ⟨next, hnext, hjob, hdiscards⟩, hothers', htouched', content, kind, hfile⟩ :=
    exists_discards audited hreads hrun' hqueued hplace' hthere
  have hwaiting' : (f.afterAll p audited (first ++ second)).runs[j]? = some waiting := by
    rw [afterAll_append, hothers' j hne, hwaiting]
  have hcopy := Pipeline.locate_of_copyPlace? hplace
  have hotherCopy := Pipeline.locate_of_copyPlace? (Pipeline.readyPlace?_eq_some.1 hotherPlace).2
  have htree := htouched.sameTree.trans htouched'.sameTree
  refine ⟨first ++ second, fun hharmless => ?_⟩
  have hcopyRead := (hharmless j waiting hwaiting').2 hne hawaits
  simp only [afterAll_append] at hcopyRead
  rw [files_turn_of_discards audited hnext hdiscards, hjob, hwaitingJob] at hcopyRead
  exact read_discard_ne (htree.locate hotherCopy) other.job.image.endsAsDirectory_processed
    (htree.locate hcopy) run.job.image.endsAsDirectory_processed hfile hcopyRead

/-- Every job of a worker has a run that has not begun. -/
theorem exists_queued {worker : Worker} (world : World) {job : Job}
    (h : worker.queue[i]? = some job) : ∃ run,
      (worker.floor world).runs[i]? = some run ∧ run.job = job ∧ run.phase = .queued := by
  obtain ⟨run, hrun, hjob⟩ := exists_run_of_jobs (jobs_floor worker world) h
  exact ⟨run, hrun, hjob, phase_floor worker world run (List.mem_of_getElem? hrun)⟩

/-- **Runs leave each other's files alone exactly if their images are apart.** However copies are
made of the images, whatever the recognizers answer and in whatever order the runs take their steps,
no step changes an image or a processed copy that another run has still to read, and all images are
there as they were, if and only if no copy is put where another image lies, or a copy that another
recognizer is to read. -/
theorem harmless_iff_apart (p : Nat → Pipeline) (worker : Worker) (world : World)
    (hreads : ∀ i, (p i).recognizer.Reads) (hreadable : Readable world.files worker.queue) :
    (∀ events, (∀ job ∈ worker.queue,
        ((worker.floor world).afterAll p worker.audited events).world.files.read job.image =
          world.files.read job.image) ∧
        ∀ i, ((worker.floor world).afterAll p worker.audited events).Harmless p
          worker.audited i) ↔
      ∀ (i j : Nat) (job other : Job), i ≠ j → worker.queue[i]? = some job →
        worker.queue[j]? = some other → Apart (p i) (p j) world.files job.image other.image := by
  constructor
  · intro hall i j job other hij hjob hother place hplace
    obtain ⟨run, hrun, rfl, hqueued⟩ := exists_queued world hjob
    obtain ⟨run', hrun', rfl, hqueued'⟩ := exists_queued world hother
    obtain ⟨bytes, hbytes⟩ := hreadable run.job (List.mem_of_getElem? hjob)
    obtain ⟨bytes', hbytes'⟩ := hreadable run'.job (List.mem_of_getElem? hother)
    refine ⟨fun hsource => ?_, fun hshared => ?_⟩
    · obtain ⟨events, hharm⟩ := exists_not_harmless_of_source worker.audited (hreads i) hrun hqueued
        hrun' hplace hsource hbytes'
      exact hharm ((hall events).2 i)
    · obtain ⟨events, hharm⟩ := exists_not_harmless_of_copy worker.audited (hreads i) hij.symm hrun
        hqueued hrun' hqueued' hplace hshared hbytes
      exact hharm ((hall events).2 i)
  · intro hapart events
    have hlocated := hreadable.located
    have hsafe : SourcesSafe p world.files worker.queue :=
      sourcesSafe_of_ne fun i j job other hij hi hj place hplace =>
        (hapart i j job other hij hi hj place hplace).1
    have hkept := (kept_floor p worker world).afterAll worker.audited hreads hsafe hlocated events
    refine ⟨fun job hjob => hkept.read hsafe hlocated hjob, fun i => ?_⟩
    refine hkept.harmless (hreads i) hsafe hlocated ?_
    intro j run other place hji hrun hother hplace
    exact (hapart i j _ _ hji.symm (hkept.getElem?_jobs hrun) (hkept.getElem?_jobs hother)
      place hplace).2

/-! ### An image that is named like a copy -/

/-- A grey image of one pixel. -/
def sampleImage : List UInt8 := Text.encode "P5 1 1 255\n~"

/-- Two images, of which the second is named like the processed copy of the first. -/
def sampleFiles : FileSystem where
  nodes := [([Text.encode "a.pgm"], .file sampleImage .plain),
    ([Text.encode "a.pgm_processed.jpg"], .file sampleImage .plain)]
  current := []

/-- A worker that accepted both images, for different documents. -/
def sampleWorker : Worker where
  pipeline := ⟨.always "silent" (.text ""), true, Pnm.copier⟩
  audited := true
  tickets := fun i => i + 1
  queue := [{ documentId := Store.sampleId, image := .ofText "a.pgm" },
    { documentId := Store.otherId, image := .ofText "a.pgm_processed.jpg" }]

/-- The world of the two images. -/
def sampleFilesWorld : World := ⟨sampleFiles, .empty, .empty, ⟨0, 0⟩⟩

theorem readable_sampleFiles : Readable sampleFiles sampleWorker.queue := by
  intro job hjob
  rcases List.mem_cons.1 hjob with rfl | hjob
  · exact ⟨sampleImage, rfl⟩
  · obtain rfl := List.mem_singleton.1 hjob
    exact ⟨sampleImage, rfl⟩

/-- The first run removes the image of the second: it was uploaded and can be read, and it is gone
once the first run is over. -/
theorem enhancing_removes_another_image :
    Readable sampleFiles sampleWorker.queue ∧
      ¬ ∀ events, ∀ job ∈ sampleWorker.queue,
        ((sampleWorker.floor sampleFilesWorld).afterAll (fun _ => sampleWorker.pipeline) true
          events).world.files.read job.image = sampleFiles.read job.image := by
  refine ⟨readable_sampleFiles, fun hall => ?_⟩
  -- six turns are enough: mark, fingerprint, decode, write, ask, remove
  have hgone : (((sampleWorker.floor sampleFilesWorld).afterAll (fun _ => sampleWorker.pipeline)
      true (List.replicate 6 (.turn 0))).world.files.read (.ofText "a.pgm_processed.jpg")).toOption
        = none := by
    decide +kernel
  rw [hall (List.replicate 6 (.turn 0)) _ (List.mem_cons_of_mem _ List.mem_cons_self)] at hgone
  exact absurd hgone (by decide)

/-- The two images are not apart, so the runs are not harmless. -/
theorem harmless_iff_apart_sampleFiles :
    (∀ _ : Nat, sampleWorker.pipeline.recognizer.Reads) ∧
      Readable sampleFiles sampleWorker.queue ∧
      ((∀ events, (∀ job ∈ sampleWorker.queue,
          ((sampleWorker.floor sampleFilesWorld).afterAll (fun _ => sampleWorker.pipeline) true
            events).world.files.read job.image = sampleFiles.read job.image) ∧
          ∀ i, ((sampleWorker.floor sampleFilesWorld).afterAll (fun _ => sampleWorker.pipeline) true
            events).Harmless (fun _ => sampleWorker.pipeline) true i) ↔
        ∀ (i j : Nat) (job other : Job), i ≠ j → sampleWorker.queue[i]? = some job →
          sampleWorker.queue[j]? = some other →
          Apart sampleWorker.pipeline sampleWorker.pipeline sampleFiles job.image other.image) := by
  have hreads : ∀ _ : Nat, sampleWorker.pipeline.recognizer.Reads := fun _ _ _ _ => rfl
  exact ⟨hreads, readable_sampleFiles, harmless_iff_apart (fun _ => sampleWorker.pipeline)
    sampleWorker sampleFilesWorld hreads readable_sampleFiles⟩

end Floor

end IdentityDocs
