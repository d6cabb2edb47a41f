import IdentityDocs.Proofs.Pipeline.Stages
import IdentityDocs.Proofs.Worker.Floor

/-!
# What the runs leave of the files

The runs of a worker touch nothing but the places of their processed copies. `Floor.Kept` is the
invariant of all orders of their steps, as long as no copy is put where an image lies: elsewhere the
files are as they were at first, and the stage of every analysis fits these first files.
-/

namespace IdentityDocs

open FileSystem (Touched SameTree)

namespace Floor

variable {p : Nat → Pipeline} {audited : Bool} {base : FileSystem} {jobs : List Job} {f : Floor}
  {i j : Nat}

/-- The places at which the runs put processed copies. -/
def places (p : Nat → Pipeline) (base : FileSystem) (jobs : List Job) : List Location :=
  jobs.zipIdx.filterMap fun (job, i) => (p i).copyPlace? base job.image

theorem mem_places {place : Location} : place ∈ places p base jobs ↔
    ∃ i job, jobs[i]? = some job ∧ (p i).copyPlace? base job.image = some place := by
  simp only [places, List.mem_filterMap, Prod.exists, List.mem_zipIdx_iff_getElem?]
  exact exists_comm

/-- No copy is put where an image lies. -/
def SourcesSafe (p : Nat → Pipeline) (base : FileSystem) (jobs : List Job) : Prop :=
  ∀ job ∈ jobs, ∀ place ∈ places p base jobs, base.locate job.image ≠ .ok place

/-- All images have a location. -/
def Located (base : FileSystem) (jobs : List Job) : Prop :=
  ∀ job ∈ jobs, ∃ loc, base.locate job.image = .ok loc

/-- A copy is never put where its own image lies, so only the other images matter. -/
theorem sourcesSafe_of_ne (h : ∀ (i j : Nat) (job other : Job), i ≠ j → jobs[i]? = some job →
    jobs[j]? = some other → ∀ place, (p i).copyPlace? base job.image = some place →
      base.locate other.image ≠ .ok place) : SourcesSafe p base jobs := by
  intro other hother place hplace hsource
  obtain ⟨i, job, hi, hcopy⟩ := mem_places.1 hplace
  obtain ⟨j, hj⟩ := List.mem_iff_getElem?.1 hother
  by_cases hij : i = j
  · subst hij
    obtain rfl : job = other := Option.some_inj.1 (hi.symm.trans hj)
    exact FileSystem.locate_processed_ne hsource (Pipeline.locate_of_copyPlace? hcopy) rfl
  · exact h i j job other hij hi hj place hcopy hsource

/-- The files are as they were at first, but for the places of processed copies. -/
structure Kept (p : Nat → Pipeline) (base : FileSystem) (jobs : List Job) (f : Floor) : Prop where
  jobs_eq : f.runs.map Run.job = jobs
  tree : SameTree base f.world.files
  rest : f.world.files.eraseAll (places p base jobs) = base.eraseAll (places p base jobs)
  fits : ∀ (i : Nat) (run : Run), f.runs[i]? = some run → ∀ digest stage,
    run.phase = .analysing digest stage → stage.Fits (p i) base run.job.image

theorem Kept.getElem?_jobs (h : f.Kept p base jobs) {run : Run} (hrun : f.runs[i]? = some run) :
    jobs[i]? = some run.job := by
  rw [← h.jobs_eq, List.getElem?_map, hrun]
  rfl

theorem Kept.exists_run (h : f.Kept p base jobs) {job : Job} (hjob : jobs[i]? = some job) :
    ∃ run, f.runs[i]? = some run ∧ run.job = job :=
  exists_run_of_jobs h.jobs_eq hjob

theorem Kept.get? (h : f.Kept p base jobs) {loc : Location} (hloc : loc ∉ places p base jobs) :
    f.world.files.get? loc = base.get? loc := by
  rw [← FileSystem.get?_eraseAll hloc, h.rest, FileSystem.get?_eraseAll hloc]

theorem Kept.read (h : f.Kept p base jobs) (hsafe : SourcesSafe p base jobs)
    (hlocated : Located base jobs) {job : Job} (hjob : job ∈ jobs) :
    f.world.files.read job.image = base.read job.image := by
  obtain ⟨loc, hloc⟩ := hlocated job hjob
  refine FileSystem.read_congr hloc (h.tree.locate hloc) (h.get? fun hplace => ?_)
  exact hsafe job hjob loc hplace hloc

/-- A turn touches nothing but the place of the copy of the run whose turn it is. -/
theorem Kept.files_turn (audited : Bool) (hreads : (p i).recognizer.Reads)
    (hsafe : SourcesSafe p base jobs) (hlocated : Located base jobs) (h : f.Kept p base jobs) :
    (f.turn p audited i).world.files = f.world.files ∨
      ∃ run place, f.runs[i]? = some run ∧ (p i).copyPlace? base run.job.image = some place ∧
        Touched place f.world.files (f.turn p audited i).world.files := by
  cases hrun : f.runs[i]? with
  | none =>
    rw [turn_of_none hrun]
    exact .inl rfl
  | some run =>
    have hread := h.read hsafe hlocated (List.mem_of_getElem? (h.getElem?_jobs hrun))
    rw [turn_of_some hrun]
    by_cases hphase : ∃ digest stage, run.phase = .analysing digest stage
    · obtain ⟨digest, stage, hphase⟩ := hphase
      simp only [Run.files_step_of_analysing (p i) audited f.world hphase]
      rcases (Pipeline.fits_step hreads h.tree hread (h.fits i run hrun digest stage hphase)).2 with
        hsame | ⟨place, hplace, htouched⟩
      · exact .inl hsame
      · exact .inr ⟨run, place, rfl, hplace, htouched⟩
    · exact .inl (Run.files_step_of_ne (p i) audited f.world fun digest stage hstage =>
        hphase ⟨digest, stage, hstage⟩)

theorem Kept.turn (audited : Bool) (hreads : (p i).recognizer.Reads)
    (hsafe : SourcesSafe p base jobs) (hlocated : Located base jobs) (h : f.Kept p base jobs) :
    (f.turn p audited i).Kept p base jobs := by
  have hfiles := h.files_turn audited hreads hsafe hlocated
  refine ⟨?_, ?_, ?_, ?_⟩
  · rw [← h.jobs_eq]
    exact jobs_turn p audited f i
  · rcases hfiles with hsame | ⟨run, place, -, -, htouched⟩
    · rw [hsame]
      exact h.tree
    · exact h.tree.trans htouched.sameTree
  · rcases hfiles with hsame | ⟨run, place, hrun, hplace, htouched⟩
    · rw [hsame]
      exact h.rest
    · rw [htouched.eraseAll (mem_places.2 ⟨i, run.job, h.getElem?_jobs hrun, hplace⟩), h.rest]
  · intro j next hnext digest stage hphase
    rcases getElem?_turn hnext with hj | ⟨rfl, old, hold, rfl⟩
    · exact h.fits j next hj digest stage hphase
    · rw [Run.job_step]
      rcases Run.analysing_step hphase with ⟨-, rfl⟩ | ⟨before, hbefore, rfl⟩
      · exact trivial
      · have hread := h.read hsafe hlocated (List.mem_of_getElem? (h.getElem?_jobs hold))
        exact (Pipeline.fits_step hreads h.tree hread (h.fits i old hold digest before hbefore)).1

theorem Kept.afterAll (audited : Bool) (hreads : ∀ i, (p i).recognizer.Reads)
    (hsafe : SourcesSafe p base jobs) (hlocated : Located base jobs) (events : List Event) :
    ∀ {f : Floor}, f.Kept p base jobs → (f.afterAll p audited events).Kept p base jobs := by
  induction events with
  | nil => exact fun h => h
  | cons e events ih =>
    intro f h
    apply ih
    cases e with
    | turn i => exact h.turn audited (hreads i) hsafe hlocated
    | call op => exact ⟨h.jobs_eq, h.tree, h.rest, h.fits⟩

theorem kept_floor (p : Nat → Pipeline) (worker : Worker) (world : World) :
    (worker.floor world).Kept p world.files worker.queue := by
  refine ⟨jobs_floor worker world, SameTree.refl _, rfl, fun i run hrun digest stage hphase => ?_⟩
  obtain ⟨job, -, rfl⟩ := getElem?_floor hrun
  cases hphase

end Floor

end IdentityDocs
