import IdentityDocs.Proofs.Worker.History
import IdentityDocs.Proofs.Worker.Sequential

/-!
# From the queue to the runs

Jobs are handed in while runs are under way. A `Dispatcher` receives them one after the other,
begins a run for each, and lets go of the runs that have finished. Once nobody can hand in more and
the queue is empty, it only waits for the runs that are left.

A job that nobody has received yet may as well be a run that gets no turn. `Dispatcher.whole` is the
floor with such runs, and `Dispatcher.whole_afterAll` says that a history of the dispatcher is one
of that floor: no job is lost or doubled on its way. `Dispatcher.Kept` is what the dispatcher keeps
up, from which it follows that in the end all runs have finished. The other way round, every history
that finishes the runs of a worker is one of the dispatcher (`Dispatcher.exists_over`).
-/

namespace IdentityDocs

namespace Worker

/-- Stops to accept jobs; what was accepted is still worked off. -/
def close (w : Worker) : Worker := { w with stopped := true }

/-- The runs that jobs become after a number of others, with the numbers that are drawn for them. -/
def runsFrom (tickets : Nat → Nat) (n : Nat) (jobs : List Job) : List Run :=
  (jobs.zipIdx n).map fun (job, i) => { ticket := tickets i, job }

theorem runsFrom_cons (tickets : Nat → Nat) (n : Nat) (job : Job) (jobs : List Job) :
    runsFrom tickets n (job :: jobs) =
      { ticket := tickets n, job } :: runsFrom tickets (n + 1) jobs := by
  simp [runsFrom, List.zipIdx_cons]

end Worker

/-- A worker at its work. -/
structure Dispatcher where
  /-- The worker, in whose queue jobs wait to be received. -/
  worker : Worker
  /-- The runs that were begun. -/
  floor : Floor
  /-- The places of the runs that are waited for. -/
  inFlight : List Nat := []
  /-- Whether no more jobs are to come. -/
  draining : Bool := false

namespace Dispatcher

/-- A worker that has begun no run. -/
def start (worker : Worker) (world : World) : Dispatcher where
  worker
  floor := ⟨[], world⟩

/-- What can happen next. -/
inductive Event
  /-- Somebody hands a job in. -/
  | submit (job : Job)
  /-- From now on nobody can hand jobs in. -/
  | close
  /-- The dispatcher looks into the queue. -/
  | receive
  /-- The dispatcher looks whether the run in a place has finished. -/
  | reap (i : Nat)
  /-- Something happens on the floor. -/
  | floor (e : Floor.Event)

/-- Begins the run of the next job. If there is none, and none can come, there is only the rest of
the runs to wait for. -/
def receive (d : Dispatcher) : Dispatcher :=
  if d.draining then d
  else match d.worker.queue with
    | job :: queue =>
      let place := d.floor.runs.length
      { d with
        worker := { d.worker with queue }
        floor := { d.floor with
          runs := d.floor.runs ++ [{ ticket := d.worker.tickets place, job }] }
        inFlight := d.inFlight ++ [place] }
    | [] => { d with draining := d.worker.stopped }

/-- Lets go of the run in a place if it has finished. -/
def reap (d : Dispatcher) (i : Nat) : Dispatcher :=
  match d.floor.runs[i]? with
  | some run => if run.phase.ahead = 0 then { d with inFlight := d.inFlight.erase i } else d
  | none => d

/-- The dispatcher is done. -/
def Over (d : Dispatcher) : Prop := d.draining = true ∧ d.inFlight = []

/-- The jobs that an event adds to the queue. -/
def acceptedBy (d : Dispatcher) : Event → List Job
  | .submit job => match d.worker.accept job with
    | .ok _ => [job]
    | .error _ => []
  | _ => []

/-- What an event is on the floor. A run that was not begun takes no turn. -/
def floorEvents (d : Dispatcher) : Event → List Floor.Event
  | .floor (.turn i) => if i < d.floor.runs.length then [.turn i] else []
  | .floor (.call op) => [.call op]
  | _ => []

section Histories

variable (p : Nat → Pipeline)

/-- The dispatcher after an event. -/
def after (d : Dispatcher) : Event → Dispatcher
  | .submit job => match d.worker.accept job with
    | .ok worker => { d with worker }
    | .error _ => d
  | .close => { d with worker := d.worker.close }
  | .receive => d.receive
  | .reap i => d.reap i
  | .floor e => { d with floor := d.floor.after p d.worker.audited e }

/-- The dispatcher after events, one after the other. -/
def afterAll (d : Dispatcher) (events : List Event) : Dispatcher := events.foldl (after p) d

/-- The jobs that are accepted in a history. -/
def accepted : Dispatcher → List Event → List Job
  | _, [] => []
  | d, e :: events => d.acceptedBy e ++ accepted (d.after p e) events

/-- What a history is on the floor. -/
def floorHistory : Dispatcher → List Event → List Floor.Event
  | _, [] => []
  | d, e :: events => d.floorEvents e ++ floorHistory (d.after p e) events

@[simp] theorem afterAll_nil (d : Dispatcher) : d.afterAll p [] = d := rfl

@[simp] theorem afterAll_cons (d : Dispatcher) (e : Event) (events : List Event) :
    d.afterAll p (e :: events) = (d.after p e).afterAll p events := rfl

@[simp] theorem audited_after (d : Dispatcher) (e : Event) :
    (d.after p e).worker.audited = d.worker.audited := by
  cases e with
  | submit job =>
    by_cases hstopped : d.worker.stopped = true
    · simp only [after, Worker.accept_of_stopped hstopped]
    · simp only [after, Worker.accept_of_not_stopped hstopped]
  | receive =>
    simp only [after, receive]
    split
    · rfl
    · split <;> rfl
  | reap i =>
    simp only [after, reap]
    split
    · split <;> rfl
    · rfl
  | close | floor => rfl

theorem afterAll_append (d : Dispatcher) (events more : List Event) :
    d.afterAll p (events ++ more) = (d.afterAll p events).afterAll p more :=
  List.foldl_append

/-! ## No job is lost or doubled -/

/-- The floor on which the jobs in the queue, and those that are still to come, are runs already. -/
def whole (d : Dispatcher) (later : List Job) : Floor where
  runs := d.floor.runs ++
    Worker.runsFrom d.worker.tickets d.floor.runs.length (d.worker.queue ++ later)
  world := d.floor.world

theorem whole_start (worker : Worker) (world : World) (later : List Job) :
    (start worker world).whole later =
      { worker with queue := worker.queue ++ later }.floor world := rfl

variable {p} {d : Dispatcher}

theorem whole_submit (d : Dispatcher) (job : Job) (later : List Job) :
    d.whole (d.acceptedBy (.submit job) ++ later) = (d.after p (.submit job)).whole later := by
  by_cases hstopped : d.worker.stopped = true
  · simp only [acceptedBy, after, Worker.accept_of_stopped hstopped, List.nil_append]
  · simp only [acceptedBy, after, Worker.accept_of_not_stopped hstopped, whole, List.append_assoc]

theorem whole_receive (d : Dispatcher) (later : List Job) :
    d.receive.whole later = d.whole later := by
  unfold receive
  split
  case isTrue => rfl
  case isFalse =>
    split
    case h_1 job queue hqueue =>
      simp only [whole, hqueue, List.cons_append, Worker.runsFrom_cons, List.length_append,
        List.length_singleton, List.append_assoc, List.nil_append]
    case h_2 => rfl

theorem whole_reap (d : Dispatcher) (i : Nat) (later : List Job) :
    (d.reap i).whole later = d.whole later := by
  unfold reap
  split
  · split <;> rfl
  · rfl

/-- Among more runs a run takes the same turn. -/
theorem turn_append {audited : Bool} {runs : List Run} (more : List Run) (world : World) {i : Nat}
    (hi : i < runs.length) :
    (Floor.mk (runs ++ more) world).turn p audited i =
      ⟨((Floor.mk runs world).turn p audited i).runs ++ more,
        ((Floor.mk runs world).turn p audited i).world⟩ := by
  have hrun : runs[i]? = some runs[i] := List.getElem?_eq_getElem hi
  have hsame : (runs ++ more)[i]? = some runs[i] := by rw [List.getElem?_append_left hi, hrun]
  rw [Floor.turn_of_some (f := ⟨runs ++ more, world⟩) hsame,
    Floor.turn_of_some (f := ⟨runs, world⟩) hrun, List.set_append_left _ _ hi]

theorem whole_floor (d : Dispatcher) (e : Floor.Event) (later : List Job) :
    (d.whole later).afterAll p d.worker.audited (d.floorEvents (.floor e)) =
      (d.after p (.floor e)).whole later := by
  cases e with
  | call op => rfl
  | turn i =>
    have hlength : (d.floor.turn p d.worker.audited i).runs.length = d.floor.runs.length :=
      Floor.length_runs_afterAll d.floor [.turn i]
    by_cases hi : i < d.floor.runs.length
    · simp only [floorEvents, if_pos hi, Floor.afterAll_cons, Floor.afterAll_nil, Floor.after,
        after, whole, turn_append _ _ hi, hlength]
    · have hnone : d.floor.runs[i]? = none := List.getElem?_eq_none (Nat.le_of_not_lt hi)
      simp only [floorEvents, if_neg hi, Floor.afterAll_nil, after, Floor.after,
        Floor.turn_of_none hnone]

theorem whole_after (d : Dispatcher) (e : Event) (later : List Job) :
    (d.whole (d.acceptedBy e ++ later)).afterAll p d.worker.audited (d.floorEvents e) =
      (d.after p e).whole later := by
  cases e with
  | submit job => exact whole_submit d job later
  | close => rfl
  | receive => exact (whole_receive d later).symm
  | reap i => exact (whole_reap d i later).symm
  | floor e => exact whole_floor d e later

/-- A history of the dispatcher is a history of the floor with all accepted jobs. -/
theorem whole_afterAll (events : List Event) : ∀ (d : Dispatcher) (later : List Job),
    (d.whole (d.accepted p events ++ later)).afterAll p d.worker.audited (d.floorHistory p events) =
      (d.afterAll p events).whole later := by
  induction events with
  | nil => exact fun _ _ => rfl
  | cons e events ih =>
    intro d later
    have hlater := ih (d.after p e) later
    rw [audited_after] at hlater
    rw [accepted, floorHistory, List.append_assoc, Floor.afterAll_append, whole_after]
    exact hlater

/-! ## In the end all runs have finished -/

/-- What the dispatcher keeps up: every run is waited for until it has finished, and only when no
job can come any more is there nothing else to wait for. -/
structure Kept (d : Dispatcher) : Prop where
  waited : ∀ (i : Nat) (run : Run), d.floor.runs[i]? = some run →
    run.phase = .finished ∨ i ∈ d.inFlight
  drained : d.draining = true → d.worker.queue = [] ∧ d.worker.stopped = true

theorem kept_start (worker : Worker) (world : World) : (start worker world).Kept where
  waited i run hrun := by simp [start] at hrun
  drained h := by simp [start] at h

theorem Kept.submit (h : d.Kept) (job : Job) : (d.after p (.submit job)).Kept := by
  by_cases hstopped : d.worker.stopped = true
  · simpa only [after, Worker.accept_of_stopped hstopped] using h
  · simp only [after, Worker.accept_of_not_stopped hstopped]
    exact ⟨h.waited, fun hdraining => absurd (h.drained hdraining).2 hstopped⟩

theorem Kept.receive (h : d.Kept) : d.receive.Kept := by
  unfold Dispatcher.receive
  split
  case isTrue => exact h
  case isFalse hdraining =>
    split
    case h_1 job queue hqueue =>
      refine ⟨fun i run hrun => ?_, fun hnow => absurd hnow hdraining⟩
      rcases Nat.lt_or_ge i d.floor.runs.length with hi | hi
      · rw [List.getElem?_append_left hi] at hrun
        exact (h.waited i run hrun).imp_right (List.mem_append_left _)
      · -- the run that was just begun
        obtain ⟨hlt, -⟩ := List.getElem?_eq_some_iff.1 hrun
        rw [List.length_append, List.length_singleton] at hlt
        obtain rfl : i = d.floor.runs.length := by omega
        exact .inr (List.mem_append_right _ (List.mem_singleton_self _))
    case h_2 hqueue => exact ⟨h.waited, fun hstopped => ⟨hqueue, hstopped⟩⟩

theorem Kept.reap (h : d.Kept) (i : Nat) : (d.reap i).Kept := by
  unfold Dispatcher.reap
  cases hold : d.floor.runs[i]? with
  | none => exact h
  | some old =>
    by_cases hover : old.phase.ahead = 0
    · simp only [if_pos hover]
      refine ⟨fun j run hrun => ?_, h.drained⟩
      by_cases hji : j = i
      · subst hji
        obtain rfl : old = run := Option.some_inj.1 (hold.symm.trans hrun)
        exact .inl (Phase.ahead_eq_zero.1 hover)
      · exact (h.waited j run hrun).imp_right (List.mem_erase_of_ne hji).2
    · simpa only [if_neg hover] using h

theorem Kept.floor (h : d.Kept) (e : Floor.Event) : (d.after p (.floor e)).Kept := by
  refine ⟨fun j run hrun => ?_, h.drained⟩
  cases e with
  | call op => exact h.waited j run hrun
  | turn i =>
    rcases Floor.getElem?_turn hrun with hrun | ⟨-, old, hold, rfl⟩
    · exact h.waited j run hrun
    · refine (h.waited j old hold).imp_left fun hfinished => ?_
      simp only [Run.step, hfinished]

theorem Kept.after (h : d.Kept) (e : Event) : (d.after p e).Kept := by
  cases e with
  | submit job => exact h.submit job
  | close => exact ⟨h.waited, fun hdraining => ⟨(h.drained hdraining).1, rfl⟩⟩
  | receive => exact h.receive
  | reap i => exact h.reap i
  | floor e => exact h.floor e

theorem Kept.afterAll {events : List Event} : ∀ {d : Dispatcher}, d.Kept →
    (d.afterAll p events).Kept := by
  induction events with
  | nil => exact fun h => h
  | cons e events ih => exact fun h => ih (h.after e)

theorem Kept.finished_of_over (h : d.Kept) (hover : d.Over) : d.floor.Finished := by
  intro run hrun
  obtain ⟨i, hi⟩ := List.mem_iff_getElem?.1 hrun
  rcases h.waited i run hi with hfinished | hwaited
  · exact hfinished
  · rw [hover.2] at hwaited
    exact absurd hwaited List.not_mem_nil

theorem Kept.whole_of_over (h : d.Kept) (hover : d.Over) : d.whole [] = d.floor := by
  simp only [whole, (h.drained hover.1).1, List.append_nil, Worker.runsFrom, List.zipIdx_nil,
    List.map_nil]

/-! ## What is finished can be let go -/

/-- The dispatcher may first receive everything that waits. -/
theorem afterAll_receive (queue : List Job) : ∀ {d : Dispatcher}, d.draining = false →
    d.worker.queue = queue →
      d.afterAll p (List.replicate queue.length .receive) =
        { d with
          worker := { d.worker with queue := [] }
          floor := ⟨d.floor.runs ++ Worker.runsFrom d.worker.tickets d.floor.runs.length queue,
            d.floor.world⟩
          inFlight := d.inFlight ++ List.range' d.floor.runs.length queue.length } := by
  induction queue with
  | nil =>
    intro d _ hqueue
    obtain ⟨⟨pipeline, audited, tickets, language, stopped, queue⟩, floor, inFlight, draining⟩ := d
    obtain rfl : queue = [] := hqueue
    simp [Worker.runsFrom]
  | cons job queue ih =>
    intro d hdraining hqueue
    let next : Dispatcher :=
      { d with
        worker := { d.worker with queue }
        floor := { d.floor with
          runs := d.floor.runs ++ [{ ticket := d.worker.tickets d.floor.runs.length, job }] }
        inFlight := d.inFlight ++ [d.floor.runs.length] }
    have hreceive : d.after p .receive = next := by
      simp [after, receive, hdraining, hqueue, next]
    have hlater := ih (d := next) hdraining rfl
    rw [List.length_cons, List.replicate_succ, afterAll_cons, hreceive, hlater]
    simp [next, Worker.runsFrom_cons, List.range'_succ]

theorem afterAll_floor (events : List Floor.Event) : ∀ d : Dispatcher,
    d.afterAll p (events.map .floor) =
      { d with floor := d.floor.afterAll p d.worker.audited events } := by
  induction events with
  | nil => exact fun _ => rfl
  | cons e events ih => exact fun d => ih (d.after p (.floor e))

theorem afterAll_reap (places : List Nat) : ∀ {d : Dispatcher}, d.inFlight = places →
    (∀ i ∈ places, ∃ run, d.floor.runs[i]? = some run ∧ run.phase = .finished) →
      d.afterAll p (places.map .reap) = { d with inFlight := [] } := by
  induction places with
  | nil =>
    rintro ⟨worker, floor, inFlight, draining⟩ hplaces _
    obtain rfl : inFlight = [] := hplaces
    rfl
  | cons i places ih =>
    intro d hplaces hfinished
    obtain ⟨run, hrun, hphase⟩ := hfinished i List.mem_cons_self
    have hreap : d.after p (.reap i) = { d with inFlight := places } := by
      have hover : run.phase.ahead = 0 := Phase.ahead_eq_zero.2 hphase
      simp only [after, reap, hrun, if_pos hover, hplaces, List.erase_cons_head]
    rw [List.map_cons, afterAll_cons, hreap]
    exact ih rfl fun j hj => hfinished j (List.mem_cons_of_mem _ hj)

/-- Whatever finishes all runs of a worker may happen while the dispatcher works its queue off, and
then the dispatcher may be done. -/
theorem exists_over (p : Nat → Pipeline) (worker : Worker) (world : World)
    {history : List Floor.Event}
    (hdone : ((worker.floor world).afterAll p worker.audited history).Finished) :
    ∃ events, ((start worker world).afterAll p events).Over ∧
      ((start worker world).afterAll p events).floor =
        (worker.floor world).afterAll p worker.audited history := by
  let n := worker.queue.length
  have hreceived : (start worker world).afterAll p (List.replicate n .receive) =
      { worker := { worker with queue := [] }, floor := worker.floor world
        inFlight := List.range' 0 n } :=
    afterAll_receive worker.queue rfl rfl
  have hlength : ((worker.floor world).afterAll p worker.audited history).runs.length = n := by
    rw [Floor.length_runs_afterAll, ← List.length_map (f := Run.job), Floor.jobs_floor]
  refine ⟨List.replicate n .receive ++ (history.map .floor ++
    ([.close, .receive] ++ (List.range' 0 n).map .reap)), ?_⟩
  rw [afterAll_append, hreceived, afterAll_append, afterAll_floor, afterAll_append,
    afterAll_reap (List.range' 0 n) rfl]
  · exact ⟨⟨rfl, rfl⟩, rfl⟩
  · intro i hi
    have hlt : i < ((worker.floor world).afterAll p worker.audited history).runs.length := by
      rw [hlength]
      simpa using (List.mem_range'_1.1 hi).2
    exact ⟨_, List.getElem?_eq_getElem hlt, hdone _ (List.getElem_mem hlt)⟩

/-- To work the queue off one job after the other is what the dispatcher may do. -/
theorem exists_over_drain (worker : Worker) (world : World) :
    ∃ events, ((start worker world).afterAll (fun _ => worker.pipeline) events).Over ∧
      ((start worker world).afterAll (fun _ => worker.pipeline) events).floor =
        ⟨(worker.drain world).1, (worker.drain world).2⟩ := by
  have hdone := Floor.finished_oneByOne (fun _ => worker.pipeline) worker world
  obtain ⟨events, hover, hfloor⟩ := exists_over (fun _ => worker.pipeline) worker world hdone
  rw [worker.drain_eq world] at hfloor
  exact ⟨events, hover, hfloor⟩

end Histories

end Dispatcher

end IdentityDocs
