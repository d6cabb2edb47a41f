import IdentityDocs.Proofs.Fingerprint.Digest
import IdentityDocs.Proofs.Worker.Dispatch
import IdentityDocs.Proofs.Worker.Settled

/-!
# Every accepted job is audited once

Once an audited worker has let everything go, its log holds one more entry for each job that it
accepted, and nothing else: `Dispatcher.audited_once`. The entry tells what the analysis of the job
came to and which image it saw. Neither a refusal of the store nor a breakdown of the recognizer
keeps a run from making its entry, as the phase before the last one does not depend on them.

That a run makes one entry is counted on the floor, and what the entry says follows from what the
run has behind it when it makes it (`Floor.tells_of_mem_entered`). `Dispatcher.whole_afterAll` takes
both to the dispatcher.
-/

namespace IdentityDocs

/-- The result that is recorded of an analysis. A breakdown counts as a failure. -/
def AnalysisResult.ofConclusion (ticket : Nat) : Except String AnalysisResult → AnalysisResult
  | .ok result => result
  | .error message => .failed (breakdownNote ticket message)

/-- The fingerprint that is recorded with what an analysis came to: the digest of the image, or the
identifier of the document if the image could not be read or the recognizer broke down. -/
def Job.fingerprintIn (job : Job) (files : FileSystem) : Except String AnalysisResult → String
  | .ok _ => match files.read job.image with
    | .ok bytes => hexBytes (Sha256.digest bytes)
    | .error _ => job.documentId.text
  | .error _ => job.documentId.text

namespace Audit.Item

/-- What an item says of a result. -/
inductive Reports (item : Item) (r : AnalysisResult) : Prop
  | completed (outcome : r.outcome = .completed) (action : item.action = "analysis_completed")
      (success : item.success = true)
      (details : item.details = some s!"{r.category.label} {r.percent} {r.status.name}")
  | failed (outcome : r.outcome = .failed) (action : item.action = "analysis_failed")
      (success : item.success = false) (details : item.details = some r.notes)

/-- The item tells what the analysis of a job came to, and the image that it was of. -/
structure Tells (item : Item) (job : Job) (ticket : Nat) (files : FileSystem)
    (conclusion : Except String AnalysisResult) : Prop where
  documentId : item.documentId = job.documentId.text
  reports : item.Reports (.ofConclusion ticket conclusion)
  fingerprint : item.fingerprint = job.fingerprintIn files conclusion

theorem reports_of_describe {item : Item} {r : AnalysisResult}
    (haction : item.action = (describe r).1.name) (hsuccess : item.success = (describe r).2.1)
    (hdetails : item.details = some (describe r).2.2) : item.Reports r := by
  unfold describe at haction hsuccess hdetails
  cases houtcome : r.outcome with
  | completed =>
    rw [houtcome] at haction hsuccess hdetails
    exact .completed houtcome haction hsuccess hdetails
  | failed =>
    rw [houtcome] at haction hsuccess hdetails
    exact .failed houtcome haction hsuccess hdetails

end Audit.Item

namespace Run

theorem fingerprintOf_eq (files : FileSystem) (job : Job) (result : AnalysisResult) :
    fingerprintOf files job.documentId job.image = job.fingerprintIn files (.ok result) := by
  unfold fingerprintOf Job.fingerprintIn
  rw [fingerprint_eq]
  cases files.read job.image <;> rfl

/-- The fingerprint and the result with which an audited run goes on after its analysis. -/
theorem concluded_eq {run : Run} {files : FileSystem} {conclusion : Except String AnalysisResult}
    {digest : Option String} {result : AnalysisResult}
    (h : run.concludedPhase (run.digestIn true files) conclusion = .concluded digest result) :
    result = .ofConclusion run.ticket conclusion ∧
      digest.getD run.job.documentId.text = run.job.fingerprintIn files conclusion := by
  cases conclusion with
  | ok r =>
    obtain ⟨rfl, rfl⟩ : run.digestIn true files = digest ∧ r = result := by
      simpa only [concludedPhase, Phase.concluded.injEq] using h
    refine ⟨rfl, ?_⟩
    rw [← fingerprintOf_eq]
    rfl
  | error message =>
    obtain ⟨rfl, rfl⟩ : none = digest ∧ .failed (breakdownNote run.ticket message) = result := by
      simpa only [concludedPhase, Phase.concluded.injEq] using h
    exact ⟨rfl, rfl⟩

end Run

namespace Floor

variable {p : Nat → Pipeline} {i : Nat} {item : Audit.Item}

/-- Every entry of a worker's runs tells what the analysis of its job came to. -/
theorem tells_of_mem_entered (worker : Worker) (world : World) {events : List Event}
    (h : (i, item) ∈ (worker.floor world).entered p true events) :
    ∃ job files conclusion, worker.queue[i]? = some job ∧
      ((worker.floor world).Meets p true events i fun run w =>
        run.phase = .marked ∧ w.files = files) ∧
      ((worker.floor world).Meets p true events i fun run _ =>
        ∃ digest, run.Concluding digest conclusion) ∧
      item.Tells job (worker.tickets i) files conclusion := by
  obtain ⟨before, after, last, rfl, hlast, hitem, hjob, -⟩ := (meets_of_mem_entered h).of_floor
  obtain ⟨-, digest, result, hphase⟩ := Run.stored_of_mem_entries hitem
  have hbehind := behind (p := p) (phase_floor worker world) before hlast
  rw [hphase] at hbehind
  obtain ⟨⟨taken, conclusion, htaken, hcame⟩, -⟩ := hbehind
  have hfirst := Meets.of_floor (htaken.append (.turn i :: after))
  have hsecond := (hcame.append (.turn i :: after)).of_floor
  obtain ⟨start, rest, first, hsplit, hfirst, ⟨hmarked, rfl⟩, hjob₁, -⟩ := hfirst
  obtain ⟨start', rest', second, hsplit', hsecond, ⟨hover, hphase'⟩, hjob₂, hticket⟩ := hsecond
  -- all three moments are of the run of one job
  have hsame₁ : last.job = first.job := Option.some_inj.1 (hjob.symm.trans hjob₁)
  have hsame₂ : last.job = second.job := Option.some_inj.1 (hjob.symm.trans hjob₂)
  have htook : first.digestIn true ((worker.floor world).afterAll p true start).world.files =
      second.digestIn true ((worker.floor world).afterAll p true start).world.files := by
    simp only [Run.digestIn, ← hsame₁, hsame₂]
  rw [htook] at hphase'
  obtain ⟨hresult, hdigest⟩ := Run.concluded_eq hphase'
  rw [← hsame₂] at hdigest
  rw [Run.entries_of_stored hphase, List.mem_singleton] at hitem
  refine ⟨last.job, _, conclusion, hjob, ⟨start, rest, first, hsplit, hfirst, hmarked, rfl⟩,
    ⟨start', rest', second, hsplit', hsecond, _, hover⟩, ?_⟩
  rw [hitem]
  constructor
  · rfl
  · rw [← hticket, ← hresult]
    exact Audit.Item.reports_of_describe rfl rfl rfl
  · exact hdigest

end Floor

namespace Dispatcher

section AuditedOnce

variable (p : Nat → Pipeline)

/-- In a history of the dispatcher the run in a place took a step, and right before it the run and
the world were such. -/
def Meets (d : Dispatcher) (events : List Event) (i : Nat) (P : Run → World → Prop) : Prop :=
  ∃ before after run, events = before ++ .floor (.turn i) :: after ∧
    (d.afterAll p before).floor.runs[i]? = some run ∧ P run (d.afterAll p before).floor.world

/-- In a history after which the log holds the given items, an audited worker made one entry for
each job that was accepted, and each entry tells what the analysis of its job came to: of the image
as it was when the run looked at it. -/
def AuditsEach (d : Dispatcher) (events : List Event) (items : List Audit.Item) : Prop :=
  let jobs := d.worker.queue ++ d.accepted p events
  ∃ made : List (Nat × Audit.Item),
    (d.afterAll p events).floor.world.log.items = some (items ++ made.map Prod.snd) ∧
    (made.map Prod.fst).Perm (List.range jobs.length) ∧
    ∀ i item, (i, item) ∈ made → ∃ job files conclusion, jobs[i]? = some job ∧
      (d.Meets p events i fun run w => run.phase = .marked ∧ w.files = files) ∧
      (d.Meets p events i fun run _ => ∃ digest, run.Concluding digest conclusion) ∧
      item.Tells job (d.worker.tickets i) files conclusion

variable {p} {i : Nat} {P : Run → World → Prop}

theorem Meets.cons {d : Dispatcher} {e : Event} {events : List Event}
    (h : (d.after p e).Meets p events i P) : d.Meets p (e :: events) i P := by
  obtain ⟨before, after, run, rfl, hrun, hP⟩ := h
  exact ⟨e :: before, after, run, rfl, hrun, hP⟩

/-- What is met on the floor in an event of the dispatcher is met by the dispatcher. -/
theorem meets_of_floorEvents {d : Dispatcher} {e : Event} {later : List Job}
    (h : (d.whole later).Meets p d.worker.audited (d.floorEvents e) i P) (events : List Event) :
    d.Meets p (e :: events) i P := by
  obtain ⟨before, after, run, hsplit, hrun, hP⟩ := h
  have hmem : Floor.Event.turn i ∈ d.floorEvents e := by simp [hsplit]
  have hturn : e = .floor (.turn i) ∧ i < d.floor.runs.length := by
    unfold floorEvents at hmem
    split at hmem
    · split at hmem
      case isTrue hi =>
        obtain rfl := Floor.Event.turn.inj (List.mem_singleton.1 hmem)
        exact ⟨rfl, hi⟩
      case isFalse => cases hmem
    · simp at hmem
    · cases hmem
  obtain ⟨rfl, hi⟩ := hturn
  -- the event is one turn, so nothing was before it
  obtain rfl : before = [] := by
    simp only [floorEvents, if_pos hi] at hsplit
    cases before with
    | nil => rfl
    | cons e before => simp at hsplit
  simp only [Floor.afterAll_nil, whole, List.getElem?_append_left hi] at hrun hP
  exact ⟨[], events, run, rfl, hrun, hP⟩

/-- What is met on the floor with all accepted jobs is met by the dispatcher. -/
theorem meets_of_floorHistory {events : List Event} : ∀ {d : Dispatcher} (later : List Job),
    (d.whole (d.accepted p events ++ later)).Meets p d.worker.audited (d.floorHistory p events) i
      P → d.Meets p events i P := by
  induction events with
  | nil =>
    rintro d later ⟨before, after, run, hsplit, -⟩
    simp [floorHistory] at hsplit
  | cons e events ih =>
    intro d later h
    rw [accepted, floorHistory, List.append_assoc, Floor.meets_append_iff, whole_after] at h
    rcases h with hnow | hlater
    · exact meets_of_floorEvents hnow events
    · rw [← audited_after p d e] at hlater
      exact (ih later hlater).cons

/-- **Every accepted job is audited once.** Jobs are handed in at any time, each run analyses in a
pipeline of its own, the runs take their steps in any order, and others may call the store between
them. Once an audited worker has let everything go, the log has grown by one entry for each accepted
job and by nothing else. -/
theorem audited_once (p : Nat → Pipeline) {worker : Worker} {world : World}
    {items : List Audit.Item} (haudited : worker.audited = true)
    (hitems : world.log.items = some items) {events : List Event}
    (hover : ((start worker world).afterAll p events).Over) :
    (start worker world).AuditsEach p events items := by
  have hkept : ((start worker world).afterAll p events).Kept := (kept_start worker world).afterAll
  -- the worker that had all accepted jobs from the beginning
  let jobs := worker.queue ++ (start worker world).accepted p events
  let all : Worker := { worker with queue := jobs }
  let history := (start worker world).floorHistory p events
  have hhistory : (all.floor world).afterAll p true history =
      ((start worker world).afterAll p events).floor := by
    have hwhole := whole_afterAll (p := p) events (start worker world) []
    have hflag : (start worker world).worker.audited = true := haudited
    rwa [hkept.whole_of_over hover, List.append_nil, whole_start, hflag] at hwhole
  refine ⟨(all.floor world).entered p true history, ?_, ?_, ?_⟩
  · have hlog : ((all.floor world).afterAll p true history).world.log.items =
        world.log.items.map (· ++ ((all.floor world).entered p true history).map Prod.snd) :=
      Floor.items_afterAll history (all.floor world)
    rw [← hhistory, hlog, hitems]
    rfl
  · have hdone : ((all.floor world).afterAll p true history).Finished := by
      rw [hhistory]
      exact hkept.finished_of_over hover
    have hlength : (all.floor world).runs.length = all.queue.length := by
      rw [← List.length_map (f := Run.job), Floor.jobs_floor]
    have hperm := Floor.perm_entered (Floor.phase_floor all world) hdone
    rwa [hlength] at hperm
  · intro i item hmade
    obtain ⟨job, files, conclusion, hjob, hfirst, hsecond, htells⟩ :=
      Floor.tells_of_mem_entered all world hmade
    have hmet : ∀ {P : Run → World → Prop}, (all.floor world).Meets p true history i P →
        (start worker world).Meets p events i P := by
      intro P hP
      rw [← haudited] at hP
      exact meets_of_floorHistory (d := start worker world) [] (by rwa [List.append_nil])
    exact ⟨job, files, conclusion, hjob, hmet hfirst, hmet hsecond, htells⟩

/-! ### A breakdown and a missing document -/

/-- An audited worker that has accepted nothing yet. -/
def sampleWorker : Worker where
  pipeline := ⟨.always "silent" (.text ""), false, Pnm.copier⟩
  audited := true
  tickets := fun i => i + 1

/-- The first recognizer breaks down; the second reads nothing. -/
def samplePipelines (i : Nat) : Pipeline :=
  if i = 0 then { sampleWorker.pipeline with recognizer := .always "broken" (.breakdown "boom") }
  else sampleWorker.pipeline

/-- A document without a record is handed in twice, the second time while its first run is under
way, and a third time when it is too late. -/
def sampleHistory : List Event :=
  let job : Job := { documentId := Store.sampleId, image := .ofText "pan.jpg" }
  let turns (i : Nat) : List Event := List.replicate Run.stepCount (.floor (.turn i))
  [.submit job, .receive, .floor (.turn 0), .submit job, .receive, .close, .submit job] ++
    turns 1 ++ [.reap 1, .receive] ++ turns 0 ++ [.reap 0]

/-- Two jobs of one document are audited once each. -/
theorem two_jobs_audited_once :
    sampleWorker.audited = true ∧ Floor.sampleWorld.log.items = some [] ∧
      ((start sampleWorker Floor.sampleWorld).afterAll samplePipelines sampleHistory).Over ∧
      (start sampleWorker Floor.sampleWorld).AuditsEach samplePipelines sampleHistory [] := by
  have hover :
      ((start sampleWorker Floor.sampleWorld).afterAll samplePipelines sampleHistory).Over := by
    constructor
    · rfl
    · rfl
  exact ⟨rfl, rfl, hover, audited_once samplePipelines rfl rfl hover⟩

end AuditedOnce

end Dispatcher

end IdentityDocs
