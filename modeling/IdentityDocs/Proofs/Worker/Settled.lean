import IdentityDocs.Image.PnmCodec
import IdentityDocs.Proofs.Analysis.Confidence
import IdentityDocs.Proofs.Records.Processing
import IdentityDocs.Proofs.Worker.Floor

/-!
# No document is left in processing

Once all runs have finished, no document that was submitted is still being analysed, in whatever
order the runs of one or several documents took their steps, and whatever the recognizer did. Later
marks may move a document back to `processing` after it got a result. The invariant is therefore not
about one run: whenever a submitted document is being analysed, some run of it still has its result
to store (`Floor.Tended`), and a result is never refused, as its confidence is a number.
-/

namespace IdentityDocs

/-- The result of the run is still to be stored. -/
def Phase.isOpen : Phase → Bool
  | stored .. | finished => false
  | queued | marked | analysing .. | concluded .. => true

namespace Run

/-- A run whose result is still to be stored has it still to be stored after one step more, unless
that step stored it. -/
theorem isOpen_step {p : Pipeline} {audited : Bool} {run : Run} {w : World}
    (h : run.phase.isOpen = true) (hresult : ∀ digest r, run.phase ≠ .concluded digest r) :
    (run.step p audited w).1.phase.isOpen = true := by
  cases hphase : run.phase with
  | queued | marked => simp [step, hphase, Phase.isOpen]
  | analysing digest stage =>
    simp only [step, hphase]
    split
    · rename_i conclusion _
      cases conclusion <;> rfl
    · rfl
  | concluded digest r => exact absurd hphase (hresult digest r)
  | stored | finished => simp [hphase, Phase.isOpen] at h

/-- The confidence in the result that the run came to is a number. -/
def Sound (run : Run) : Prop :=
  ∀ digest r, run.phase = .concluded digest r → r.confidence.isNaN = false

theorem Sound.step (p : Pipeline) (audited : Bool) (run : Run) (w : World) :
    (run.step p audited w).1.Sound := by
  intro digest r h
  cases hphase : run.phase with
  | analysing digest' stage =>
    simp only [Run.step, hphase] at h
    cases hc : stage.conclusion? run.job.claimed with
    | none => simp [hc] at h
    | some conclusion =>
      cases conclusion with
      | error message =>
        simp only [hc, concludedPhase, Phase.concluded.injEq] at h
        rw [← h.2]
        exact AnalysisResult.isNaN_failed _
      | ok result =>
        simp only [hc, concludedPhase, Phase.concluded.injEq] at h
        rw [← h.2]
        cases stage with
        | finished preparation inquiry answer =>
          exact isNaN_conclude (by simpa [Stage.conclusion?] using hc)
        | begun | decoded | unwritten | ready | answered => simp [Stage.conclusion?] at hc
  | queued | marked | concluded | stored | finished => simp [Run.step, hphase] at h

end Run

namespace Floor

/-- Some run of the document still has its result to store. -/
def Awaits (f : Floor) (id : DocumentId) : Prop :=
  ∃ run ∈ f.runs, run.job.documentId = id ∧ run.phase.isOpen = true

/-- Whoever else calls the store begins no analysis of a submitted document, unless some run of it
still has its result to store. -/
def Event.Proper (f : Floor) : Event → Prop
  | turn _ => True
  | call op => ∀ run ∈ f.runs, op.Begins run.job.documentId f.world.store →
      f.Awaits run.job.documentId

/-- Whenever a submitted document is being analysed, some run of it still has its result to store,
and that will not be refused. -/
structure Tended (f : Floor) : Prop where
  awaits : ∀ run ∈ f.runs, ∀ row ∈ f.world.store.rowsOf run.job.documentId, row.Processing →
    f.Awaits run.job.documentId
  sound : ∀ run ∈ f.runs, run.Sound

section Tended

variable {p : Nat → Pipeline} {audited : Bool} {f : Floor} {i j : Nat} {old run : Run}

theorem awaits_of_getElem? (h : f.runs[j]? = some run) (hopen : run.phase.isOpen = true) :
    f.Awaits run.job.documentId :=
  ⟨run, List.mem_of_getElem? h, rfl, hopen⟩

/-- In the turn of another run nothing that is awaited is lost. -/
theorem Awaits.turn_of_ne {id : DocumentId} (hold : f.runs[i]? = some old)
    (hne : old.job.documentId ≠ id ∨ old.phase.isOpen = false) (h : f.Awaits id) :
    (f.turn p audited i).Awaits id := by
  obtain ⟨run, hrun, rfl, hopen⟩ := h
  obtain ⟨j, hj⟩ := List.mem_iff_getElem?.1 hrun
  have hji : j ≠ i := by
    rintro rfl
    obtain rfl : old = run := Option.some_inj.1 (hold.symm.trans hj)
    rcases hne with hne | hclosed
    · exact hne rfl
    · rw [hopen] at hclosed
      cases hclosed
  exact awaits_of_getElem? (by rw [getElem?_turn_of_ne hji, hj]) hopen

theorem Tended.turn (h : f.Tended) (i : Nat) : (f.turn p audited i).Tended := by
  cases hold : f.runs[i]? with
  | none => rwa [turn_of_none hold]
  | some old =>
    have hself := getElem?_turn_self p audited hold
    refine ⟨?_, ?_⟩
    · intro run hrun row hrow hproc
      obtain ⟨before, hbefore, hjob⟩ := exists_run_of_turn hrun
      have htended := h.awaits before hbefore
      rw [hjob] at htended
      simp only [turn_of_some hold, Run.store_step] at hrow
      by_cases hid : old.job.documentId = run.job.documentId
      · by_cases hopen : (old.step (p i) audited f.world).1.phase.isOpen = true
        · have := awaits_of_getElem? hself hopen
          rwa [Run.job_step, hid] at this
        · cases hphase : old.phase with
          | queued | marked | analysing =>
            exact absurd (Run.isOpen_step (by simp [hphase, Phase.isOpen]) (by simp [hphase])) hopen
          | concluded digest r =>
            -- the result is stored in this very step
            simp only [Run.operation?, hphase, hid] at hrow
            have hr := h.sound old (List.mem_of_getElem? hold) digest r hphase
            exact absurd hproc (Store.not_processing_after_update hr hrow)
          | stored | finished =>
            simp only [Run.operation?, hphase] at hrow
            exact (htended row hrow hproc).turn_of_ne hold
              (.inr (by simp [hphase, Phase.isOpen]))
      · refine (htended row ?_ hproc).turn_of_ne hold (.inl hid)
        cases hop : old.operation? f.world with
        | none => simpa [hop] using hrow
        | some op =>
          have htarget : op.target? ≠ some run.job.documentId := by
            unfold Run.operation? at hop
            split at hop <;> cases hop <;> simpa [Store.Operation.target?] using hid
          simpa [hop, Store.rowsOf_after_of_ne f.world.store op htarget] using hrow
    · intro run hrun
      obtain ⟨j, hj⟩ := List.mem_iff_getElem?.1 hrun
      rcases getElem?_turn hj with hj | ⟨-, before, -, rfl⟩
      · exact h.sound run (List.mem_of_getElem? hj)
      · exact Run.Sound.step (p j) audited before f.world

theorem Tended.call (h : f.Tended) {op : Store.Operation} (hproper : (Event.call op).Proper f) :
    (f.after p audited (.call op)).Tended := by
  refine ⟨?_, h.sound⟩
  intro run hrun row hrow hproc
  rcases Store.begins_of_processing hrow hproc with hbefore | hbegins
  · exact h.awaits run hrun row hbefore hproc
  · exact hproper run hrun hbegins

theorem Tended.after (h : f.Tended) {e : Event} (hproper : e.Proper f) :
    (f.after p audited e).Tended := by
  cases e with
  | turn i => exact h.turn i
  | call op => exact h.call hproper

end Tended

/-! ## Whole histories -/

section Histories

variable (p : Nat → Pipeline) (audited : Bool)

/-- In a history nobody begins an analysis that no run ends. -/
def Proper : Floor → List Event → Prop
  | _, [] => True
  | f, e :: events => e.Proper f ∧ Proper (f.after p audited e) events

variable {p audited}

/-- Calls that begin nothing may come at any time. -/
theorem proper_of_not_begins {events : List Event}
    (h : ∀ op, .call op ∈ events → ∀ id s, ¬ op.Begins id s) (f : Floor) :
    f.Proper p audited events := by
  induction events generalizing f with
  | nil => exact trivial
  | cons e events ih =>
    refine ⟨?_, ih (fun op hop => h op (List.mem_cons_of_mem _ hop)) _⟩
    cases e with
    | turn i => exact trivial
    | call op => exact fun run _ hbegins => absurd hbegins (h op List.mem_cons_self _ _)

theorem Tended.afterAll {events : List Event} :
    ∀ {f : Floor}, f.Tended → f.Proper p audited events → (f.afterAll p audited events).Tended := by
  induction events with
  | nil => exact fun h _ => h
  | cons e events ih => exact fun h hproper => ih (h.after hproper.1) hproper.2

/-- Before the first steps all runs are open, so whatever is being analysed is awaited. -/
theorem tended_floor (worker : Worker) (world : World) : (worker.floor world).Tended := by
  have hqueued := phase_floor worker world
  refine ⟨fun run hrun _ _ _ => ?_, fun run hrun digest r hphase => ?_⟩
  · exact ⟨run, hrun, rfl, by rw [hqueued run hrun]; rfl⟩
  · rw [hqueued run hrun] at hphase
    cases hphase

/-- Whatever happens on the floor, the store stays one that its operations reach. -/
theorem reachable_afterAll (p : Nat → Pipeline) (audited : Bool) (events : List Event)
    (f : Floor) (h : f.world.store.Reachable) :
    (f.afterAll p audited events).world.store.Reachable := by
  induction events generalizing f with
  | nil => exact h
  | cons e events ih =>
    apply ih
    cases e with
    | call op => exact h.after op
    | turn i =>
      cases hrun : f.runs[i]? with
      | none => rwa [after, turn_of_none hrun]
      | some run =>
        simp only [after, turn_of_some hrun, Run.store_step]
        split
        · exact h.after _
        · exact h

/-- **No document is left in processing.** The runs of a worker take their steps in any order, each
in a pipeline of its own choice, and between the steps others call the store; they only may not
begin an analysis of a submitted document after its last result. Once all runs have finished, no
reader finds a submitted document in processing. -/
theorem none_left_in_processing (p : Nat → Pipeline) (worker : Worker) {world : World}
    (hstore : world.store.Reachable) {events : List Event}
    (hproper : (worker.floor world).Proper p worker.audited events)
    (hdone : ((worker.floor world).afterAll p worker.audited events).Finished) :
    ∀ job ∈ worker.queue,
      ∀ row ∈ ((worker.floor world).afterAll p worker.audited events).world.store.rowsOf
          job.documentId,
        row.standing? ≠ some .processing := by
  intro job hjob row hrow
  have htended := (tended_floor worker world).afterAll hproper
  obtain ⟨run, hrun, rfl⟩ : ∃ run ∈
      ((worker.floor world).afterAll p worker.audited events).runs, run.job = job := by
    rw [← jobs_floor worker world, ← jobs_afterAll p worker.audited _ events] at hjob
    exact List.mem_map.1 hjob
  obtain ⟨t, ht, -, hcanonical⟩ := Store.Reachable.sound
    (reachable_afterAll p worker.audited events (worker.floor world) hstore)
  have hmem := hrow
  rw [Store.rowsOf_of_some ht] at hmem
  rw [Ne, (hcanonical row (Table.mem_rowsOf.1 hmem).1).standing?_eq_iff]
  intro hproc
  obtain ⟨other, hother, -, hopen⟩ := htended.awaits run hrun row hrow hproc
  rw [hdone other hother] at hopen
  cases hopen

/-! ### Two runs of one document -/

/-- A worker that accepted one document twice. -/
def sampleTwice : Worker where
  pipeline := ⟨.always "silent" (.text ""), true, Pnm.copier⟩
  audited := true
  tickets := fun i => i + 1
  queue := List.replicate 2 { documentId := Store.sampleId, image := .ofText "pan.jpg" }

/-- The first recognizer breaks down; the second reads nothing. -/
def samplePipelines (i : Nat) : Pipeline :=
  if i = 0 then { sampleTwice.pipeline with recognizer := .always "broken" (.breakdown "boom") }
  else sampleTwice.pipeline

/-- A world without files and documents. -/
def sampleWorld : World := ⟨⟨[], []⟩, .empty, .empty, ⟨0, 0⟩⟩

/-- The document is entered after its first mark; its second mark comes after its first result. -/
def sampleEvents : List Event :=
  .turn 0 :: .call (.insert Store.sampleRecord) ::
    (List.replicate 8 (.turn 0) ++ .call (.review Store.sampleId .verified none ⟨5, 0⟩) ::
      List.replicate 10 (.turn 1) ++ [.turn 0])

/-- A document with two runs, one of which breaks down, is not left in processing. -/
theorem two_runs_leave_nothing_in_processing :
    sampleWorld.store.Reachable ∧
      (sampleTwice.floor sampleWorld).Proper samplePipelines true sampleEvents ∧
      ((sampleTwice.floor sampleWorld).afterAll samplePipelines true sampleEvents).Finished ∧
      ∀ job ∈ sampleTwice.queue,
        ∀ row ∈ ((sampleTwice.floor sampleWorld).afterAll samplePipelines true
            sampleEvents).world.store.rowsOf job.documentId,
          row.standing? ≠ some .processing := by
  have hstore : sampleWorld.store.Reachable := ⟨[], rfl⟩
  have hproper : (sampleTwice.floor sampleWorld).Proper samplePipelines true sampleEvents := by
    refine ⟨trivial, fun run hrun _ => ?_, proper_of_not_begins ?_ _⟩
    · -- the second run has not begun yet
      refine ⟨_, List.mem_cons_of_mem _ List.mem_cons_self, ?_, rfl⟩
      rcases List.mem_cons.1 hrun with rfl | hrun
      · rfl
      · obtain rfl := List.mem_singleton.1 hrun
        rfl
    · intro op hop id s
      obtain rfl : op = .review Store.sampleId .verified none ⟨5, 0⟩ := by simpa using hop
      exact fun h => h
  have hdone : ((sampleTwice.floor sampleWorld).afterAll samplePipelines true
      sampleEvents).Finished :=
    finished_of_turns samplePipelines sampleTwice sampleWorld (by decide)
  exact ⟨hstore, hproper, hdone,
    none_left_in_processing samplePipelines sampleTwice hstore hproper hdone⟩

end Histories

end Floor

end IdentityDocs
