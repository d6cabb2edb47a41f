import IdentityDocs.Proofs.Pipeline.Claimed
import IdentityDocs.Proofs.Worker.Dispatch
import IdentityDocs.Proofs.Worker.Related

/-!
# A claim decides nothing

Two histories of a worker in which a document is handed in with different claims, all else being
equal, are followed side by side. Whatever happens in them, the runs stay in step, and the worlds
agree: in their files, in what the log says, and in the table, of which only the comments on that
document may differ (`Dispatcher.Alike.afterAll`). One step keeps all this up because a run looks at
its claim at the end of its analysis alone, the store never looks at comments, and the log takes the
notes of a result only if the analysis failed, in which case they say nothing of the claim.

The clocks of the two histories may differ, and with them the times that they leave behind.
-/

namespace IdentityDocs

/-! ## Rows and worlds -/

/-- The rows agree in everything but the times of the last change and, if they are those of the
document, the comments. -/
abbrev Row.AgreeButComments (key : String) (row row' : Row) : Prop :=
  row.AgreeUpTo (fun id comments comments' => id ≠ key → comments = comments') row'

/-- The worlds agree in everything but the comments on the document, the times that were noted down,
and the time it is. -/
structure World.AgreeButComments (key : String) (w w' : World) : Prop where
  files : w.files = w'.files
  table : Option.Rel (List.Forall₂ (Row.AgreeButComments key)) w.store.table w'.store.table
  log : w.log.items.map (·.map Audit.Item.untimed) = w'.log.items.map (·.map Audit.Item.untimed)

theorem World.AgreeButComments.refl (key : String) (w : World) (now : Instant) :
    w.AgreeButComments key { w with now } where
  files := rfl
  table := by
    cases w.store.table with
    | none => exact .none
    | some t => exact .some (Table.AgreeUpTo.refl (fun _ _ _ => rfl) t)
  log := rfl

theorem World.AgreeButComments.call {key : String} {w w' : World} (h : w.AgreeButComments key w')
    (op : Store.Operation) :
    AgreeButComments key { w with store := w.store.after op }
      { w' with store := w'.store.after op } where
  files := h.files
  table := by
    rw [Store.table_after, Store.table_after]
    exact rel_option_map h.table fun t t' ht =>
      Table.AgreeUpTo.effect (fun _ _ _ => rfl) ht op
  log := h.log

/-! ## Runs -/

/-- The jobs are the same, or they are on the document and differ in their claims. -/
structure Job.Alike (key : String) (job job' : Job) : Prop where
  claiming : ∃ claimed, job' = job.claiming claimed
  elsewhere : job.documentId.text ≠ key → job = job'

theorem Job.Alike.refl (key : String) (job : Job) : job.Alike key job :=
  ⟨⟨job.claimed, rfl⟩, fun _ => rfl⟩

/-- The phases are the same up to the notes of a result. -/
inductive Phase.Alike : Phase → Phase → Prop
  | same (phase : Phase) : Alike phase phase
  | concluded (digest : Option String) {r r' : AnalysisResult} (h : r.AgreeButNotes r') :
    Alike (.concluded digest r) (.concluded digest r')
  | stored (digest : Option String) {r r' : AnalysisResult} (h : r.AgreeButNotes r') :
    Alike (.stored digest r) (.stored digest r')

theorem Phase.Alike.ahead_eq {phase phase' : Phase} (h : phase.Alike phase') :
    phase.ahead = phase'.ahead := by
  cases h <;> rfl

/-- The runs are the same, or they are on the document and differ in their claims and in the notes
of their results. -/
structure Run.Alike (key : String) (run run' : Run) : Prop where
  ticket : run.ticket = run'.ticket
  claiming : ∃ claimed, run'.job = run.job.claiming claimed
  inquiry : run.inquiry = run'.inquiry
  phase : run.phase.Alike run'.phase
  elsewhere : run.job.documentId.text ≠ key → run = run'

namespace Run

variable {key : String} {run run' : Run}

theorem Alike.of_job {job job' : Job} (h : job.Alike key job') (ticket : Nat) :
    Run.Alike key { ticket, job } { ticket, job := job' } where
  ticket := rfl
  claiming := h.claiming
  inquiry := rfl
  phase := .same _
  elsewhere hkey := by rw [h.elsewhere hkey]

theorem Alike.documentId (h : run.Alike key run') :
    run'.job.documentId = run.job.documentId := by
  obtain ⟨claimed, hjob⟩ := h.claiming
  rw [hjob]
  rfl

/-- Runs that are alike do the same to rows that agree. -/
theorem Alike.rowChange (h : run.Alike key run') (now now' : Instant) {row row' : Row}
    (hrow : row.AgreeButComments key row') (hid : row.id = run.job.documentId.text) :
    (run.rowChange now row).AgreeButComments key (run'.rowChange now' row') := by
  have hphase := h.phase
  generalize hphase₁ : run.phase = phase₁ at hphase
  generalize hphase₂ : run'.phase = phase₂ at hphase
  cases hphase with
  | same =>
    cases phase₁ with
    | queued =>
      simp only [Run.rowChange, hphase₁, hphase₂]
      exact hrow.marked now now'
    | concluded digest r =>
      simp only [Run.rowChange, hphase₁, hphase₂]
      split
      · exact hrow
      · exact hrow.analysed rfl rfl rfl (fun _ => rfl) now now'
    | marked | analysing | stored | finished =>
      simpa only [Run.rowChange, hphase₁, hphase₂] using hrow
  | concluded digest hresult =>
    -- The results may differ in their notes, but on another document the runs are the same run.
    have hnotes (hne : row.id ≠ key) := h.elsewhere (hid ▸ hne)
    simp only [Run.rowChange, hphase₁, hphase₂, ← hresult.confidence]
    split
    · exact hrow
    · refine hrow.analysed hresult.status hresult.confidence hresult.extractedData (fun hne => ?_)
        now now'
      rw [hnotes hne, hphase₂] at hphase₁
      rw [(Phase.concluded.inj hphase₁).2]
  | stored => simpa only [Run.rowChange, hphase₁, hphase₂] using hrow

end Run

/-- The log takes the notes of a result only if the analysis failed. -/
theorem Audit.describe_congr {r r' : AnalysisResult} (h : r.AgreeButNotes r') :
    describe r = describe r' := by
  cases houtcome : r.outcome with
  | completed =>
    simp only [describe, ← h.outcome, houtcome, ← h.status, AnalysisResult.category,
      AnalysisResult.percent, h.classification, h.confidence]
  | failed => simp only [describe, ← h.outcome, houtcome, h.failed houtcome]

namespace Run

variable {key : String} {run run' : Run} {w w' : World}

/-- Runs that are alike enter the same in the log, but for the time. -/
theorem Alike.entries (h : run.Alike key run') (audited : Bool) (now now' : Instant) :
    (run.entries audited now).map Audit.Item.untimed =
      (run'.entries audited now').map Audit.Item.untimed := by
  have hphase := h.phase
  generalize hphase₁ : run.phase = phase₁ at hphase
  generalize hphase₂ : run'.phase = phase₂ at hphase
  cases hphase with
  | same =>
    cases phase₁ with
    | stored digest r =>
      simp only [Run.entries, hphase₁, hphase₂, h.documentId]
      split <;> rfl
    | queued | marked | analysing | concluded | finished =>
      simp only [Run.entries, hphase₁, hphase₂]
  | concluded => simp only [Run.entries, hphase₁, hphase₂]
  | stored digest hresult =>
    simp only [Run.entries, hphase₁, hphase₂, h.documentId, Audit.describe_congr hresult]
    split <;> rfl

section Steps

variable (p : Pipeline) (audited : Bool)

/-- How a run goes on depends on the files of its world alone. -/
theorem step_congr (run : Run) (hfiles : w.files = w'.files) :
    (run.step p audited w).1 = (run.step p audited w').1 := by
  unfold step
  split <;> simp only [hfiles]
  split <;> rfl

/-- The end of an analysis is the only stage that a claim has a part in. -/
theorem Alike.step_analysing (h : run.Alike key run') (hfiles : w.files = w'.files)
    {digest : Option String} {stage : Stage} (hphase : run.phase = .analysing digest stage)
    (hphase' : run'.phase = .analysing digest stage) :
    (run.step p audited w).1.phase.Alike (run'.step p audited w').1.phase ∧
      (run.step p audited w).1.inquiry = (run'.step p audited w').1.inquiry ∧
      (run.step p audited w).2.files = (run'.step p audited w').2.files := by
  obtain ⟨claimed, hjob⟩ := h.claiming
  have hclaim := stage.conclusion?_claimed run.job.claimed
  have hclaim' := stage.conclusion?_claimed claimed
  have hpipeline := p.step_claiming run.job claimed w.files stage
  have hjobClaimed : (run.job.claiming claimed).claimed = claimed := rfl
  simp only [step, hphase, hphase', hjob, hjobClaimed, hclaim, hclaim', ← hfiles, hpipeline]
  cases stage.conclusion? none with
  | none => exact ⟨.same _, h.inquiry, rfl⟩
  | some conclusion =>
    cases conclusion with
    | ok r =>
      exact ⟨.concluded digest (r.agreeButNotes_remarked run.job.claimed claimed), rfl, hfiles⟩
    | error message =>
      refine ⟨?_, rfl, hfiles⟩
      simp only [Except.map, concludedPhase, h.ticket]
      exact .same _

/-- Outside its analysis a run puts no question. -/
theorem inquiry_step_of_ne (h : ∀ digest stage, run.phase ≠ .analysing digest stage) :
    (run.step p audited w).1.inquiry = run.inquiry := by
  cases hphase : run.phase with
  | analysing digest stage => exact absurd hphase (h digest stage)
  | queued | marked | concluded | stored | finished => simp only [step, hphase]

/-- In worlds with the same files runs that are alike take steps that are alike. -/
theorem Alike.step_phase (h : run.Alike key run') (hfiles : w.files = w'.files) :
    (run.step p audited w).1.phase.Alike (run'.step p audited w').1.phase ∧
      (run.step p audited w).1.inquiry = (run'.step p audited w').1.inquiry ∧
      (run.step p audited w).2.files = (run'.step p audited w').2.files := by
  obtain ⟨claimed, hjob⟩ := h.claiming
  have hother (hne : ∀ digest stage, run.phase ≠ .analysing digest stage)
      (hne' : ∀ digest stage, run'.phase ≠ .analysing digest stage) :
      (run.step p audited w).1.inquiry = (run'.step p audited w').1.inquiry ∧
        (run.step p audited w).2.files = (run'.step p audited w').2.files := by
    rw [inquiry_step_of_ne p audited hne, inquiry_step_of_ne p audited hne',
      files_step_of_ne p audited w hne, files_step_of_ne p audited w' hne']
    exact ⟨h.inquiry, hfiles⟩
  have hphase := h.phase
  generalize hphase₁ : run.phase = phase₁ at hphase
  generalize hphase₂ : run'.phase = phase₂ at hphase
  cases hphase with
  | same =>
    cases phase₁ with
    | analysing digest stage => exact h.step_analysing p audited hfiles hphase₁ hphase₂
    | marked =>
      -- The digest is taken of the file of the job, and no claim is part of it.
      refine ⟨?_, hother (by simp [hphase₁]) (by simp [hphase₂])⟩
      simp only [step, hphase₁, hphase₂, hjob, hfiles]
      exact .same _
    | queued | concluded | stored | finished =>
      refine ⟨?_, hother (by simp [hphase₁]) (by simp [hphase₂])⟩
      simp only [step, hphase₁, hphase₂]
      exact .same _
  | concluded digest hresult =>
    refine ⟨?_, hother (by simp [hphase₁]) (by simp [hphase₂])⟩
    simp only [step, hphase₁, hphase₂]
    exact .stored digest hresult
  | stored digest hresult =>
    refine ⟨?_, hother (by simp [hphase₁]) (by simp [hphase₂])⟩
    simp only [step, hphase₁, hphase₂]
    exact .same _

/-- In worlds that agree runs that are alike stay alike, and the worlds agree afterwards. -/
theorem Alike.step (h : run.Alike key run') (hw : w.AgreeButComments key w') :
    (run.step p audited w).1.Alike key (run'.step p audited w').1 ∧
      (run.step p audited w).2.AgreeButComments key (run'.step p audited w').2 := by
  obtain ⟨hphase, hinquiry, hfiles⟩ := h.step_phase p audited hw.files
  refine ⟨⟨?_, ?_, hinquiry, hphase, fun hkey => ?_⟩, hfiles, ?_, ?_⟩
  · rw [ticket_step, ticket_step, h.ticket]
  · simpa only [job_step] using h.claiming
  · rw [job_step] at hkey
    obtain rfl := h.elsewhere hkey
    exact step_congr p audited run hw.files
  · rw [table_step, table_step, h.documentId]
    refine rel_option_map hw.table fun t t' ht => ?_
    exact Table.AgreeUpTo.onDocument ht _ fun row row' hrow hid => h.rowChange _ _ hrow hid
  · rw [items_step, items_step, Option.map_map, Option.map_map]
    refine World.stored_congr hw.log fun items _ items' _ hsame => ?_
    have hentries := h.entries audited w.later.now w'.later.now
    simp only [Function.comp_apply, List.map_append, hsame, hentries]

end Steps

end Run

/-! ## The floor -/

/-- The runs are alike, one by one, and the worlds agree. -/
abbrev Floor.Alike (key : String) (f f' : Floor) : Prop :=
  f.Related (Run.Alike key) (World.AgreeButComments key) f'

namespace Floor

variable {key : String} {f f' : Floor} (p : Nat → Pipeline) (audited : Bool)

theorem Alike.after (h : f.Alike key f') (e : Event) :
    (f.after p audited e).Alike key (f'.after p audited e) :=
  Related.after (fun p _ _ _ _ hrun hw => hrun.step p audited hw) (fun op _ _ hw => hw.call op) h e

/-- Floors that are alike stay alike, whatever happens on both. -/
theorem Alike.afterAll (events : List Event) (h : f.Alike key f') :
    (f.afterAll p audited events).Alike key (f'.afterAll p audited events) :=
  Related.afterAll (fun p _ _ _ _ hrun hw => hrun.step p audited hw) (fun op _ _ hw => hw.call op)
    events h

end Floor

/-! ## The dispatcher -/

/-- The jobs that wait and the runs that were begun are alike, one by one, and the worlds agree. -/
structure Dispatcher.Alike (key : String) (d d' : Dispatcher) : Prop where
  audited : d.worker.audited = d'.worker.audited
  tickets : d.worker.tickets = d'.worker.tickets
  stopped : d.worker.stopped = d'.worker.stopped
  queue : List.Forall₂ (Job.Alike key) d.worker.queue d'.worker.queue
  floor : d.floor.Alike key d'.floor
  inFlight : d.inFlight = d'.inFlight
  draining : d.draining = d'.draining

/-- The events are the same, or they hand jobs in that are alike. -/
inductive Dispatcher.Event.Alike (key : String) : Event → Event → Prop
  | same (e : Event) : Alike key e e
  | submit {job job' : Job} (h : job.Alike key job') : Alike key (.submit job) (.submit job')

namespace Dispatcher

variable {key : String} {d d' : Dispatcher} {p : Nat → Pipeline}

theorem Alike.submit (h : d.Alike key d') {job job' : Job} (hjob : job.Alike key job') :
    (d.after p (.submit job)).Alike key (d'.after p (.submit job')) := by
  by_cases hstopped : d.worker.stopped = true
  · simpa only [Dispatcher.after, Worker.accept_of_stopped hstopped,
      Worker.accept_of_stopped (h.stopped ▸ hstopped)] using h
  · simp only [Dispatcher.after, Worker.accept_of_not_stopped hstopped,
      Worker.accept_of_not_stopped (h.stopped ▸ hstopped)]
    exact { h with queue := List.rel_append h.queue (.cons hjob .nil) }

theorem Alike.receive (h : d.Alike key d') : d.receive.Alike key d'.receive := by
  have hqueue := h.queue
  generalize hqueue₁ : d.worker.queue = queue₁ at hqueue
  generalize hqueue₂ : d'.worker.queue = queue₂ at hqueue
  unfold Dispatcher.receive
  rw [← h.draining]
  split
  case isTrue => exact h
  case isFalse =>
    cases hqueue with
    | nil =>
      simp only [hqueue₁, hqueue₂]
      exact { h with draining := h.stopped }
    | cons hjob hrest =>
      have hplace : d.floor.runs.length = d'.floor.runs.length := h.floor.runs.length_eq
      simp only [hqueue₁, hqueue₂, ← hplace, ← h.tickets]
      exact { h with
        tickets := rfl
        queue := hrest
        floor := ⟨List.rel_append h.floor.runs (.cons (.of_job hjob _) .nil), h.floor.world⟩
        inFlight := by rw [h.inFlight]
        draining := rfl }

theorem Alike.reap (h : d.Alike key d') (i : Nat) : (d.reap i).Alike key (d'.reap i) := by
  have hrun := forall₂_getElem? h.floor.runs i
  generalize hrun₁ : d.floor.runs[i]? = run₁ at hrun
  generalize hrun₂ : d'.floor.runs[i]? = run₂ at hrun
  unfold Dispatcher.reap
  cases hrun with
  | none => simpa only [hrun₁, hrun₂] using h
  | some halike =>
    simp only [hrun₁, hrun₂, ← halike.phase.ahead_eq]
    split
    · exact { h with inFlight := by rw [h.inFlight] }
    · exact h

theorem Alike.after (h : d.Alike key d') {e e' : Event} (he : e.Alike key e') :
    (d.after p e).Alike key (d'.after p e') := by
  cases he with
  | submit hjob => exact h.submit hjob
  | same =>
    cases e with
    | submit job => exact h.submit (.refl key job)
    | close => exact { h with stopped := rfl }
    | receive => exact h.receive
    | reap i => exact h.reap i
    | floor e =>
      refine { h with floor := ?_ }
      simp only [Dispatcher.after, ← h.audited]
      exact h.floor.after p d.worker.audited e

/-- Workers that are alike stay alike in histories that are alike. -/
theorem Alike.afterAll {events events' : List Event}
    (he : List.Forall₂ (Event.Alike key) events events') : ∀ {d d' : Dispatcher}, d.Alike key d' →
      (d.afterAll p events).Alike key (d'.afterAll p events') := by
  induction he with
  | nil => exact fun h => h
  | cons he _ ih => exact fun h => ih (h.after he)

theorem alike_start (key : String) (worker : Worker) (world : World) (now : Instant) :
    (start worker world).Alike key (start worker { world with now }) where
  audited := rfl
  tickets := rfl
  stopped := rfl
  queue := List.forall₂_same.2 fun job _ => .refl key job
  floor := ⟨.nil, .refl key world now⟩
  inFlight := rfl
  draining := rfl

end Dispatcher

/-! ## What a claim decides -/

theorem Worker.forall₂_runsFrom {key : String} (tickets : Nat → Nat) {jobs jobs' : List Job}
    (h : List.Forall₂ (Job.Alike key) jobs jobs') (n : Nat) :
    List.Forall₂ (Run.Alike key) (runsFrom tickets n jobs) (runsFrom tickets n jobs') := by
  induction h generalizing n with
  | nil => exact .nil
  | cons hjob _ ih =>
    rw [runsFrom_cons, runsFrom_cons]
    exact .cons (.of_job hjob _) (ih (n + 1))

theorem Job.alike_claiming (job : Job) (claimed claimed' : Option Category) :
    (job.claiming claimed).Alike job.documentId.text (job.claiming claimed') where
  claiming := ⟨claimed', rfl⟩
  elsewhere h := absurd rfl h

/-- One after the other the runs of two queues that are alike lead to worlds that agree. -/
theorem Worker.agree_drain {key : String} {worker : Worker} {queue queue' : List Job}
    (h : List.Forall₂ (Job.Alike key) queue queue') {w w' : World}
    (hw : w.AgreeButComments key w') :
    ({ worker with queue }.drain w).2.AgreeButComments key
      ({ worker with queue := queue' }.drain w').2 := by
  have hfloor : Floor.Alike key ({ worker with queue }.floor w)
      ({ worker with queue := queue' }.floor w') := ⟨forall₂_runsFrom worker.tickets h 0, hw⟩
  have hend := Floor.Alike.afterAll (fun _ => worker.pipeline) worker.audited
    ((Floor.oneByOne 0 queue.length).map .turn) hfloor
  have hdrain := Worker.drain_eq { worker with queue } w
  have hdrain' := Worker.drain_eq { worker with queue := queue' } w'
  rw [← h.length_eq] at hdrain'
  rw [hdrain, hdrain'] at hend
  exact hend.world

/-- **A claim decides nothing.** Whatever a document is said to be, its analysis does the same to
the files, asks the same question, and comes to results that agree in everything but the notes; the
notes have one remark more just if the analysis ran to its end and detected another, known category
than the claimed one. And whatever happens to a worker while a document is handed in with one claim
or the other, the worlds agree afterwards, but for the comments on this document and for times; so
they do if the worker works its queue off, one job after the other. -/
theorem claim_decides_nothing :
    (∀ (p : Pipeline) (job : Job) (files : FileSystem),
      ∃ (files' : FileSystem) (inquiry : Inquiry) (conclusion : Except String AnalysisResult),
        (∀ claimed, p.run (job.claiming claimed) files =
          (files', some inquiry, some (conclusion.map (·.remarked claimed)))) ∧
        ∀ claimed claimed', Pipeline.AgreeingConclusions (conclusion.map (·.remarked claimed))
          (conclusion.map (·.remarked claimed'))) ∧
    (∀ (p : Nat → Pipeline) (worker : Worker) (world : World) (now : Instant) (job : Job)
      (before after : List Dispatcher.Event) (claimed claimed' : Option Category),
      World.AgreeButComments job.documentId.text
        ((Dispatcher.start worker world).afterAll p
          (before ++ .submit (job.claiming claimed) :: after)).floor.world
        ((Dispatcher.start worker { world with now }).afterAll p
          (before ++ .submit (job.claiming claimed') :: after)).floor.world) ∧
    (∀ (worker : Worker) (world : World) (now : Instant) (job : Job) (before after : List Job)
      (claimed claimed' : Option Category),
      World.AgreeButComments job.documentId.text
        ({ worker with queue := before ++ job.claiming claimed :: after }.drain world).2
        ({ worker with queue := before ++ job.claiming claimed' :: after }.drain
          { world with now }).2) := by
  refine ⟨?analysis, ?history, ?drain⟩
  case analysis =>
    intro p job files
    obtain ⟨files', inquiry, conclusion, hrun⟩ := p.exists_run_claiming job files
    exact ⟨files', inquiry, conclusion, hrun, Pipeline.agreeingConclusions_remarked conclusion⟩
  case history =>
    intro p worker world now job before after claimed claimed'
    have hsubmit := Dispatcher.Event.Alike.submit (job.alike_claiming claimed claimed')
    have hevents (events : List Dispatcher.Event) :
        List.Forall₂ (Dispatcher.Event.Alike job.documentId.text) events events :=
      List.forall₂_same.2 fun e _ => .same e
    have hhistory := List.rel_append (hevents before) (.cons hsubmit (hevents after))
    exact (Dispatcher.alike_start _ worker world now).afterAll hhistory |>.floor.world
  case drain =>
    intro worker world now job before after claimed claimed'
    have hjobs (jobs : List Job) : List.Forall₂ (Job.Alike job.documentId.text) jobs jobs :=
      List.forall₂_same.2 fun job _ => .refl _ job
    have hqueue := List.rel_append (hjobs before)
      (.cons (job.alike_claiming claimed claimed') (hjobs after))
    exact Worker.agree_drain hqueue (.refl _ world now)

end IdentityDocs
