import IdentityDocs.Proofs.Records.Operation
import IdentityDocs.Worker.Basic

/-!
# Runs side by side

The runs of a worker take their steps in any order, and between two steps anybody may call the
store. A `Floor` is what this happens on: the runs and the world that they share. Whatever happens,
a run comes nearer to its end in each of its turns: `Floor.finished_of_turns` says that every order
in which each run has enough turns finishes all of them.

To the store a run is a caller like others: `Run.store_step` gives the operation that a step asks
for.
-/

namespace IdentityDocs

/-- The clock is not in the store. -/
@[simp] theorem World.store_later (w : World) : w.later.store = w.store := rfl

/-! ## The steps that are ahead -/

/-- The greatest number of stages that are still ahead of an analysis. -/
def Stage.ahead : Stage → Nat
  | begun => 5
  | decoded _ => 4
  | unwritten _ => 3
  | ready _ => 2
  | answered .. => 1
  | finished .. => 0

/-- The greatest number of steps that are still ahead of a run. -/
def Phase.ahead : Phase → Nat
  | queued => Run.stepCount
  | marked => Pipeline.stageCount + 4
  | analysing _ stage => stage.ahead + 3
  | concluded .. => 2
  | stored .. => 1
  | finished => 0

theorem Phase.ahead_eq_zero {phase : Phase} : phase.ahead = 0 ↔ phase = .finished := by
  cases phase <;> simp [Phase.ahead, Run.stepCount]

theorem Stage.ahead_pos_of_conclusion?_eq_none {claimed : Option Category} {stage : Stage}
    (h : stage.conclusion? claimed = none) : 0 < stage.ahead := by
  cases stage <;> first | (simp [Stage.ahead]; done) | simp [Stage.conclusion?] at h

/-- Every step of an analysis has one stage less ahead. -/
theorem Pipeline.ahead_step (p : Pipeline) (job : Job) (files : FileSystem) (stage : Stage) :
    (p.step job files stage).2.ahead ≤ stage.ahead - 1 := by
  cases stage with
  | begun =>
    simp only [Pipeline.step]
    split
    · split <;> simp [Stage.ahead]
    · simp [Stage.ahead]
  | decoded copy =>
    simp only [Pipeline.step]
    split <;> simp [Stage.ahead]
  | answered preparation inquiry answer => cases preparation <;> simp [Pipeline.step, Stage.ahead]
  | unwritten | ready | finished => simp [Pipeline.step, Stage.ahead]

namespace Run

/-- Every step of a run has one step less ahead. -/
theorem ahead_step (p : Pipeline) (audited : Bool) (run : Run) (w : World) :
    (run.step p audited w).1.phase.ahead ≤ run.phase.ahead - 1 := by
  unfold step
  split
  case h_3 digest stage hphase =>
    cases hc : stage.conclusion? run.job.claimed with
    | some conclusion =>
      have hconcluded : (run.concludedPhase digest conclusion).ahead = 2 := by
        cases conclusion <;> rfl
      simp only [hconcluded, hphase]
      simp [Phase.ahead]
    | none =>
      have hpos := Stage.ahead_pos_of_conclusion?_eq_none hc
      have hstep := p.ahead_step run.job w.files stage
      simp only [hphase, Phase.ahead]
      omega
  all_goals
    rename_i hphase
    simp [hphase, Phase.ahead, stepCount, Pipeline.stageCount, Stage.ahead]

@[simp] theorem job_step (p : Pipeline) (audited : Bool) (run : Run) (w : World) :
    (run.step p audited w).1.job = run.job := by
  unfold step
  split <;> first | rfl | (split <;> rfl)

/-! ## What a run asks of the store -/

/-- What the next step of a run asks of the store. -/
def operation? (run : Run) (w : World) : Option Store.Operation :=
  match run.phase with
  | .queued => some (.mark run.job.documentId w.later.now)
  | .concluded _ result => some (.update run.job.documentId result w.later.now)
  | _ => none

theorem store_step (p : Pipeline) (audited : Bool) (run : Run) (w : World) :
    (run.step p audited w).2.store =
      match run.operation? w with
      | some op => w.store.after op
      | none => w.store := by
  cases hphase : run.phase with
  | queued =>
    simp only [step, operation?, hphase, mark, Store.after, Store.Operation.run, World.store_later]
    generalize w.store.mark run.job.documentId w.later.now = outcome
    cases outcome <;> rfl
  | marked => simp [step, operation?, hphase]
  | analysing digest stage =>
    simp only [step, operation?, hphase]
    split <;> rfl
  | concluded digest result =>
    simp only [step, operation?, hphase, save, Store.after, Store.Operation.run, World.store_later]
    generalize w.store.update run.job.documentId result w.later.now = outcome
    cases outcome <;> rfl
  | stored digest result =>
    simp only [step, operation?, hphase, recordResult]
    split
    · split <;> rfl
    · rfl
  | finished => simp [step, operation?, hphase]

/-! ## What a run does to the files -/

theorem files_step_of_analysing (p : Pipeline) (audited : Bool) {run : Run} (w : World)
    {digest : Option String} {stage : Stage} (h : run.phase = .analysing digest stage) :
    (run.step p audited w).2.files = (p.step run.job w.files stage).1 := by
  simp only [step, h]
  cases hc : stage.conclusion? run.job.claimed with
  | none => rfl
  | some conclusion => cases stage <;> first | rfl | (simp [Stage.conclusion?] at hc)

/-- Outside its analysis a run does not touch the files. -/
theorem files_step_of_ne (p : Pipeline) (audited : Bool) {run : Run} (w : World)
    (h : ∀ digest stage, run.phase ≠ .analysing digest stage) :
    (run.step p audited w).2.files = w.files := by
  cases hphase : run.phase with
  | analysing digest stage => exact absurd hphase (h digest stage)
  | queued =>
    simp only [step, hphase, mark]
    split <;> rfl
  | concluded digest result =>
    simp only [step, hphase, save]
    split <;> rfl
  | stored digest result =>
    simp only [step, hphase, recordResult]
    split
    · split <;> rfl
    · rfl
  | marked | finished => simp only [step, hphase]

/-- A stage of an analysis is the first one or follows from the stage before. -/
theorem analysing_step {p : Pipeline} {audited : Bool} {run : Run} {w : World}
    {digest : Option String} {stage : Stage}
    (h : (run.step p audited w).1.phase = .analysing digest stage) :
    (run.phase = .marked ∧ stage = .begun) ∨
      ∃ old, run.phase = .analysing digest old ∧ stage = (p.step run.job w.files old).2 := by
  cases hphase : run.phase with
  | marked =>
    simp only [step, hphase, Phase.analysing.injEq] at h
    exact .inl ⟨rfl, h.2.symm⟩
  | analysing digest' old =>
    simp only [step, hphase] at h
    cases hc : old.conclusion? run.job.claimed with
    | none =>
      simp only [hc, Phase.analysing.injEq] at h
      exact .inr ⟨old, by rw [h.1], h.2.symm⟩
    | some conclusion => cases conclusion <;> simp [hc, concludedPhase] at h
  | queued | concluded | stored | finished => simp [step, hphase] at h

end Run

/-! ## The floor -/

/-- Runs and what they share. -/
structure Floor where
  runs : List Run
  world : World

namespace Floor

/-- What can happen next. -/
inductive Event
  /-- The run in a place takes its next step. -/
  | turn (i : Nat)
  /-- Somebody calls the store. -/
  | call (op : Store.Operation)

/-- Whether an event is a turn of the run in a place. -/
def Event.isTurn (i : Nat) : Event → Bool
  | turn j => j = i
  | call _ => false

/-- The number of turns of the run in a place. -/
def turns (i : Nat) (events : List Event) : Nat := events.countP (Event.isTurn i)

section Steps

variable (p : Nat → Pipeline) (audited : Bool)

/-- The floor after the run in a place took its next step, in the pipeline of that place. -/
def turn (f : Floor) (i : Nat) : Floor :=
  match f.runs[i]? with
  | some run =>
    let (run, world) := run.step (p i) audited f.world
    ⟨f.runs.set i run, world⟩
  | none => f

/-- The floor after an event. -/
def after (f : Floor) : Event → Floor
  | .turn i => f.turn p audited i
  | .call op => { f with world := { f.world with store := f.world.store.after op } }

/-- The floor after events, one after the other. -/
def afterAll (f : Floor) (events : List Event) : Floor := events.foldl (after p audited) f

@[simp] theorem afterAll_nil (f : Floor) : f.afterAll p audited [] = f := rfl

@[simp] theorem afterAll_cons (f : Floor) (e : Event) (events : List Event) :
    f.afterAll p audited (e :: events) = (f.after p audited e).afterAll p audited events := rfl

theorem afterAll_append (f : Floor) (events more : List Event) :
    f.afterAll p audited (events ++ more) =
      (f.afterAll p audited events).afterAll p audited more :=
  List.foldl_append

variable {p audited} {f : Floor} {i j : Nat} {run : Run}

theorem turn_of_some (h : f.runs[i]? = some run) :
    f.turn p audited i =
      ⟨f.runs.set i (run.step (p i) audited f.world).1, (run.step (p i) audited f.world).2⟩ := by
  simp [turn, h]

theorem turn_of_none (h : f.runs[i]? = none) : f.turn p audited i = f := by simp [turn, h]

/-- In its turn a run takes one step. -/
theorem getElem?_turn_self (p : Nat → Pipeline) (audited : Bool) (h : f.runs[i]? = some run) :
    (f.turn p audited i).runs[i]? = some (run.step (p i) audited f.world).1 := by
  obtain ⟨hi, -⟩ := List.getElem?_eq_some_iff.1 h
  simp [turn_of_some h, hi]

/-- In the turn of another run a run stays as it is. -/
theorem getElem?_turn_of_ne (h : j ≠ i) : (f.turn p audited i).runs[j]? = f.runs[j]? := by
  cases hrun : f.runs[i]? with
  | none => rw [turn_of_none hrun]
  | some run => simp [turn_of_some hrun, List.getElem?_set_ne h.symm]

/-- Every run after a turn is one from before it, or one step further. -/
theorem getElem?_turn (h : (f.turn p audited i).runs[j]? = some run) :
    f.runs[j]? = some run ∨
      (i = j ∧ ∃ old, f.runs[j]? = some old ∧ run = (old.step (p j) audited f.world).1) := by
  by_cases hij : i = j
  · subst hij
    cases hold : f.runs[i]? with
    | none =>
      rw [turn_of_none hold, hold] at h
      cases h
    | some old =>
      rw [getElem?_turn_self p audited hold, Option.some.injEq] at h
      exact .inr ⟨rfl, old, rfl, h.symm⟩
  · rw [getElem?_turn_of_ne (Ne.symm hij)] at h
    exact .inl h

/-- The jobs stay the same. -/
theorem jobs_turn (p : Nat → Pipeline) (audited : Bool) (f : Floor) (i : Nat) :
    (f.turn p audited i).runs.map Run.job = f.runs.map Run.job := by
  cases hrun : f.runs[i]? with
  | none => rw [turn_of_none hrun]
  | some run =>
    obtain ⟨hi, hget⟩ := List.getElem?_eq_some_iff.1 hrun
    rw [turn_of_some hrun, List.map_set, Run.job_step, ← hget]
    apply List.ext_getElem?
    intro j
    by_cases hij : i = j
    · subst hij
      simp [hi]
    · simp [List.getElem?_set_ne hij]

/-- The runs before and after a turn are runs of the same documents. -/
theorem exists_run_of_turn (hrun : run ∈ (f.turn p audited i).runs) :
    ∃ old ∈ f.runs, old.job = run.job := by
  have hjob : run.job ∈ (f.turn p audited i).runs.map Run.job := List.mem_map_of_mem hrun
  rw [jobs_turn] at hjob
  exact List.mem_map.1 hjob

theorem exists_run_of_jobs {jobs : List Job} {job : Job} (h : f.runs.map Run.job = jobs)
    (hjob : jobs[i]? = some job) : ∃ run, f.runs[i]? = some run ∧ run.job = job := by
  rw [← h, List.getElem?_map] at hjob
  exact Option.map_eq_some_iff.1 hjob

theorem jobs_after (p : Nat → Pipeline) (audited : Bool) (f : Floor) (e : Event) :
    (f.after p audited e).runs.map Run.job = f.runs.map Run.job := by
  cases e with
  | call op => rfl
  | turn i => exact jobs_turn p audited f i

theorem jobs_afterAll (p : Nat → Pipeline) (audited : Bool) (f : Floor) (events : List Event) :
    (f.afterAll p audited events).runs.map Run.job = f.runs.map Run.job := by
  induction events generalizing f with
  | nil => rfl
  | cons e events ih => rw [afterAll_cons, ih, jobs_after]

@[simp] theorem length_runs_afterAll (f : Floor) (events : List Event) :
    (f.afterAll p audited events).runs.length = f.runs.length := by
  rw [← List.length_map (f := Run.job), jobs_afterAll p audited, List.length_map]

/-- Turns of one run take this run forward and leave the others where they are. -/
theorem afterAll_replicate (n : Nat) : ∀ {f : Floor} {run : Run}, f.runs[i]? = some run →
    f.afterAll p audited (List.replicate n (.turn i)) =
      ⟨f.runs.set i (Run.advance (p i) audited n (run, f.world)).1,
        (Run.advance (p i) audited n (run, f.world)).2⟩ := by
  induction n with
  | zero =>
    intro f run h
    obtain ⟨hi, rfl⟩ := List.getElem?_eq_some_iff.1 h
    simp [Run.advance]
  | succ n ih =>
    intro f run h
    rw [List.replicate_succ, afterAll_cons, after, ih (getElem?_turn_self p audited h),
      turn_of_some h]
    simp [Run.advance]

/-! ## Runs finish -/

/-- All runs are over. -/
def Finished (f : Floor) : Prop := ∀ run ∈ f.runs, run.phase = .finished

/-- Each turn of a run is one step less ahead of it, whatever else happens. -/
theorem ahead_afterAll (events : List Event) :
    ∀ {f : Floor} {run : Run}, (f.afterAll p audited events).runs[i]? = some run →
      ∃ old, f.runs[i]? = some old ∧ run.phase.ahead ≤ old.phase.ahead - turns i events := by
  induction events with
  | nil => exact fun h => ⟨_, h, by simp [turns]⟩
  | cons e events ih =>
    intro f run h
    obtain ⟨next, hnext, hle⟩ := ih h
    have hturns : turns i (e :: events) = turns i events + if e.isTurn i then 1 else 0 :=
      List.countP_cons
    cases e with
    | call op => exact ⟨next, hnext, by simpa [hturns, Event.isTurn] using hle⟩
    | turn j =>
      by_cases hij : j = i
      · subst hij
        cases hold : f.runs[j]? with
        | none =>
          rw [after, turn_of_none hold, hold] at hnext
          cases hnext
        | some old =>
          rw [after, getElem?_turn_self p audited hold, Option.some.injEq] at hnext
          have hstep := Run.ahead_step (p j) audited old f.world
          rw [hnext] at hstep
          refine ⟨old, rfl, ?_⟩
          rw [hturns, if_pos (by simp [Event.isTurn])]
          omega
      · rw [after, getElem?_turn_of_ne (Ne.symm hij)] at hnext
        refine ⟨next, hnext, ?_⟩
        rw [hturns, if_neg (by simpa [Event.isTurn] using hij)]
        exact hle

end Steps

end Floor

/-- The runs of a worker before their first steps. -/
def Worker.floor (worker : Worker) (world : World) : Floor := ⟨worker.runs, world⟩

namespace Floor

variable {p : Nat → Pipeline} {worker : Worker} {world : World}

theorem getElem?_floor {i : Nat} {run : Run} (h : (worker.floor world).runs[i]? = some run) :
    ∃ job, worker.queue[i]? = some job ∧ run = { ticket := worker.tickets i, job } := by
  simp only [Worker.floor, Worker.runs, List.getElem?_map, List.getElem?_zipIdx,
    Option.map_map, Option.map_eq_some_iff] at h
  obtain ⟨job, hjob, rfl⟩ := h
  exact ⟨job, hjob, by simp⟩

theorem phase_floor (worker : Worker) (world : World) :
    ∀ run ∈ (worker.floor world).runs, run.phase = .queued := by
  intro run hrun
  obtain ⟨i, hi⟩ := List.mem_iff_getElem?.1 hrun
  obtain ⟨job, -, rfl⟩ := getElem?_floor hi
  rfl

theorem jobs_floor (worker : Worker) (world : World) :
    (worker.floor world).runs.map Run.job = worker.queue := by
  simp only [Worker.floor, Worker.runs, List.map_map]
  exact List.zipIdx_map_fst 0 worker.queue

/-- Every order in which each run has enough turns finishes all runs. -/
theorem finished_of_turns (p : Nat → Pipeline) (worker : Worker) (world : World)
    {events : List Event}
    (h : ∀ i < worker.queue.length, Run.stepCount ≤ turns i events) :
    ((worker.floor world).afterAll p worker.audited events).Finished := by
  intro run hrun
  obtain ⟨i, hi, hget⟩ := List.getElem_of_mem hrun
  have hlen : i < worker.queue.length := by
    rwa [length_runs_afterAll, ← List.length_map (f := Run.job), jobs_floor worker world] at hi
  obtain ⟨old, hold, hle⟩ := ahead_afterAll events (List.getElem?_eq_some_iff.2 ⟨hi, hget⟩)
  obtain ⟨job, -, rfl⟩ := getElem?_floor hold
  have hqueued : ({ ticket := worker.tickets i, job } : Run).phase.ahead = Run.stepCount := rfl
  have hturns := h i hlen
  exact Phase.ahead_eq_zero.1 (by omega)

end Floor

end IdentityDocs
