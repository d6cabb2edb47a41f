import IdentityDocs.Proofs.Worker.Effects
import Mathlib.Data.List.Induction
import Mathlib.Data.List.Nodup

/-!
# What runs went through

A phase of a run does not tell where its contents come from: the fingerprint was taken of the files
as they were at one moment, and the result is that of an analysis that ended at another.
`Floor.Meets` names such moments in a history of the floor, and `Floor.Behind` says which of them a
phase has behind it. Every phase is explained by the turn that led to it, so the proof goes by the
last event of the history (`Floor.behind`).

The entries of a history are counted in the same way: `Floor.entered` lists them with the places of
the runs that made them, and each audited run owes the log one entry until it is finished
(`Floor.count_entered`).
-/

namespace IdentityDocs

namespace Run

@[simp] theorem ticket_step (p : Pipeline) (audited : Bool) (run : Run) (w : World) :
    (run.step p audited w).1.ticket = run.ticket := by
  unfold step
  split <;> first | rfl | (split <;> rfl)

/-- The fingerprint that an audited run takes of its image. -/
def digestIn (run : Run) (audited : Bool) (files : FileSystem) : Option String :=
  if audited then some (fingerprintOf files run.job.documentId run.job.image) else none

/-- The analysis of the run is over, and this is what it came to. -/
def Concluding (run : Run) (digest : Option String)
    (conclusion : Except String AnalysisResult) : Prop :=
  ∃ stage, run.phase = .analysing digest stage ∧
    stage.conclusion? run.job.claimed = some conclusion

/-- The entries that a run has still to make. -/
def owed (run : Run) : Nat := if run.phase.ahead = 0 then 0 else 1

theorem entries_of_stored {run : Run} {digest : Option String} {r : AnalysisResult}
    (h : run.phase = .stored digest r) (now : Instant) :
    run.entries true now =
      [{ timestamp := now.stamp
         action := (Audit.describe r).1.name
         documentId := run.job.documentId.text
         fingerprint := digest.getD run.job.documentId.text
         success := (Audit.describe r).2.1
         details := some (Audit.describe r).2.2 }] := by
  simp only [entries, h, if_true]

theorem stored_of_mem_entries {run : Run} {audited : Bool} {now : Instant} {item : Audit.Item}
    (h : item ∈ run.entries audited now) :
    audited = true ∧ ∃ digest r, run.phase = .stored digest r := by
  unfold entries at h
  split at h
  case h_1 digest r hphase =>
    split at h
    case isTrue haudited => exact ⟨haudited, digest, r, hphase⟩
    case isFalse => cases h
  case h_2 => cases h

/-- A run makes the entry that it owes in its last step. -/
theorem owed_step (p : Pipeline) (run : Run) (w : World) (now : Instant) :
    (run.entries true now).length + (run.step p true w).1.owed = run.owed := by
  cases hphase : run.phase with
  | stored digest r => simp [entries_of_stored hphase, owed, step, hphase, Phase.ahead]
  | analysing digest stage =>
    cases hc : stage.conclusion? run.job.claimed with
    | none => simp [entries, owed, step, hphase, hc, Phase.ahead]
    | some conclusion =>
      cases conclusion <;> simp [entries, owed, step, hphase, hc, concludedPhase, Phase.ahead]
  | queued | marked | concluded | finished =>
    simp [entries, owed, step, hphase, Phase.ahead, stepCount, Pipeline.stageCount]

end Run

namespace Floor

variable (p : Nat → Pipeline) (audited : Bool)

/-! ## Moments -/

/-- In a history of the floor the run in a place took a step, and right before it the run and the
world were such. -/
def Meets (f : Floor) (events : List Event) (i : Nat) (P : Run → World → Prop) : Prop :=
  ∃ before after run, events = before ++ .turn i :: after ∧
    (f.afterAll p audited before).runs[i]? = some run ∧ P run (f.afterAll p audited before).world

variable {p audited} {f : Floor} {events : List Event} {i : Nat} {run : Run}
  {P : Run → World → Prop}

/-- What was met in a history was met in every longer one. -/
theorem Meets.append (h : f.Meets p audited events i P) (more : List Event) :
    f.Meets p audited (events ++ more) i P := by
  obtain ⟨before, after, run, rfl, hrun, hP⟩ := h
  exact ⟨before, after ++ more, run, by simp, hrun, hP⟩

/-- The last turn is met as the history before it left things. -/
theorem meets_turn (hrun : (f.afterAll p audited events).runs[i]? = some run)
    (hP : P run (f.afterAll p audited events).world) :
    f.Meets p audited (events ++ [.turn i]) i P :=
  ⟨events, [], run, rfl, hrun, hP⟩

/-- What was met was met in the first part of the history, or in the second. -/
theorem meets_append_iff {more : List Event} :
    f.Meets p audited (events ++ more) i P ↔
      f.Meets p audited events i P ∨ (f.afterAll p audited events).Meets p audited more i P := by
  constructor
  · rintro ⟨before, after, run, hsplit, hrun, hP⟩
    rcases List.append_eq_append_iff.1 hsplit with ⟨rest, rfl, hmore⟩ | ⟨rest, rfl, hrest⟩
    · rw [afterAll_append] at hrun hP
      exact .inr ⟨rest, after, run, hmore, hrun, hP⟩
    · cases rest with
      | nil =>
        rw [List.append_nil]
        exact .inr ⟨[], after, run, hrest.symm, hrun, hP⟩
      | cons e rest =>
        obtain ⟨rfl, rfl⟩ := List.cons.inj hrest
        exact .inl ⟨before, rest, run, rfl, hrun, hP⟩
  · rintro (h | ⟨before, after, run, rfl, hrun, hP⟩)
    · exact h.append more
    · rw [← afterAll_append] at hrun hP
      exact ⟨events ++ before, after, run, by simp, hrun, hP⟩

/-- A run keeps its job and its number. -/
theorem exists_initial (events : List Event) : ∀ {f : Floor} {run : Run},
    (f.afterAll p audited events).runs[i]? = some run →
      ∃ old, f.runs[i]? = some old ∧ old.job = run.job ∧ old.ticket = run.ticket := by
  induction events with
  | nil => exact fun h => ⟨_, h, rfl, rfl⟩
  | cons e events ih =>
    intro f run h
    obtain ⟨next, hnext, hjob, hticket⟩ := ih h
    cases e with
    | call op => exact ⟨next, hnext, hjob, hticket⟩
    | turn j =>
      rcases getElem?_turn hnext with hold | ⟨-, old, hold, rfl⟩
      · exact ⟨next, hold, hjob, hticket⟩
      · rw [Run.job_step] at hjob
        rw [Run.ticket_step] at hticket
        exact ⟨old, hold, hjob, hticket⟩

/-- A run that is met is that of the job in its place. -/
theorem Meets.of_floor {worker : Worker} {world : World}
    (h : (worker.floor world).Meets p audited events i P) :
    (worker.floor world).Meets p audited events i fun run w =>
      P run w ∧ worker.queue[i]? = some run.job ∧ run.ticket = worker.tickets i := by
  obtain ⟨before, after, run, hsplit, hrun, hP⟩ := h
  obtain ⟨old, hold, hjob, hticket⟩ := exists_initial before hrun
  obtain ⟨job, hqueue, rfl⟩ := getElem?_floor hold
  refine ⟨before, after, run, hsplit, hrun, hP, ?_, hticket.symm⟩
  rw [← hjob]
  exact hqueue

/-! ## What a phase has behind it -/

section Behind

variable (p audited f events i)

/-- The run in a place took this fingerprint. -/
def Fingerprinted (digest : Option String) : Prop :=
  f.Meets p audited events i fun run w =>
    run.phase = .marked ∧ digest = run.digestIn audited w.files

/-- The analysis of the run in a place came to this fingerprint and this result. -/
def Analysed (digest : Option String) (result : AnalysisResult) : Prop :=
  ∃ taken conclusion, f.Fingerprinted p audited events i taken ∧
    f.Meets p audited events i fun run _ =>
      run.Concluding taken conclusion ∧
        run.concludedPhase taken conclusion = .concluded digest result

/-- What happened to the run in a place before it came as far as it has. -/
def Behind : Phase → Prop
  | .queued | .marked | .finished => True
  | .analysing digest _ => f.Fingerprinted p audited events i digest
  | .concluded digest result => f.Analysed p audited events i digest result
  | .stored digest result => f.Analysed p audited events i digest result ∧
      f.Meets p audited events i fun run _ => run.phase = .concluded digest result

end Behind

theorem Fingerprinted.append {digest : Option String}
    (h : f.Fingerprinted p audited events i digest) (more : List Event) :
    f.Fingerprinted p audited (events ++ more) i digest :=
  Meets.append h more

theorem Analysed.append {digest : Option String} {result : AnalysisResult}
    (h : f.Analysed p audited events i digest result) (more : List Event) :
    f.Analysed p audited (events ++ more) i digest result := by
  obtain ⟨taken, conclusion, htaken, hmet⟩ := h
  exact ⟨taken, conclusion, htaken.append more, hmet.append more⟩

theorem Behind.append {phase : Phase} (h : f.Behind p audited events i phase)
    (more : List Event) : f.Behind p audited (events ++ more) i phase := by
  cases phase with
  | queued | marked | finished => exact trivial
  | analysing digest stage => exact Fingerprinted.append h more
  | concluded digest result => exact Analysed.append h more
  | stored digest result => exact ⟨h.1.append more, h.2.append more⟩

/-- The turn that leads to a phase is what this phase has behind it beyond the phase before. -/
theorem Behind.turn (hrun : (f.afterAll p audited events).runs[i]? = some run)
    (h : f.Behind p audited events i run.phase) :
    f.Behind p audited (events ++ [.turn i]) i
      (run.step (p i) audited (f.afterAll p audited events).world).1.phase := by
  have hkept := h.append [.turn i]
  cases hphase : run.phase with
  | queued | finished => simp only [Run.step, hphase, Behind]
  | marked =>
    have htaken : f.Fingerprinted p audited (events ++ [.turn i]) i
        (run.digestIn audited (f.afterAll p audited events).world.files) :=
      meets_turn hrun ⟨hphase, rfl⟩
    simp only [Run.step, hphase]
    exact htaken
  | analysing digest stage =>
    rw [hphase] at hkept
    cases hc : stage.conclusion? run.job.claimed with
    | none =>
      simp only [Run.step, hphase, hc]
      exact hkept
    | some conclusion =>
      have hover : run.Concluding digest conclusion := ⟨stage, hphase, hc⟩
      simp only [Run.step, hphase, hc]
      cases conclusion with
      | ok result => exact ⟨digest, .ok result, hkept, meets_turn hrun ⟨hover, rfl⟩⟩
      | error message => exact ⟨digest, .error message, hkept, meets_turn hrun ⟨hover, rfl⟩⟩
  | concluded digest result =>
    rw [hphase] at hkept
    simp only [Run.step, hphase]
    exact ⟨hkept, meets_turn hrun hphase⟩
  | stored digest result => simp only [Run.step, hphase, Behind]

/-- Every phase of a run has behind it what leads there. -/
theorem behind (hfresh : ∀ run ∈ f.runs, run.phase = .queued) (events : List Event) :
    ∀ {run : Run}, (f.afterAll p audited events).runs[i]? = some run →
      f.Behind p audited events i run.phase := by
  induction events using List.reverseRecOn with
  | nil =>
    intro run hrun
    rw [hfresh run (List.mem_of_getElem? hrun)]
    exact trivial
  | append_singleton events e ih =>
    intro run hrun
    rw [afterAll_append] at hrun
    cases e with
    | call op => exact (ih hrun).append _
    | turn j =>
      rcases getElem?_turn hrun with hrun | ⟨rfl, old, hold, rfl⟩
      · exact (ih hrun).append _
      · exact (ih hold).turn hold

/-! ## The entries of a history -/

section Entered

variable (p audited)

/-- What an event enters in the log, and the place of the run that made it. -/
def enteredBy (f : Floor) : Event → List (Nat × Audit.Item)
  | .turn i => match f.runs[i]? with
    | some run => (run.entries audited f.world.later.now).map fun item => (i, item)
    | none => []
  | .call _ => []

/-- What a history enters in the log. -/
def entered : Floor → List Event → List (Nat × Audit.Item)
  | _, [] => []
  | f, e :: events => f.enteredBy audited e ++ entered (f.after p audited e) events

variable {p audited}

theorem items_after (f : Floor) (e : Event) :
    (f.after p audited e).world.log.items =
      f.world.log.items.map (· ++ (f.enteredBy audited e).map Prod.snd) := by
  cases e with
  | call op => simp [after, enteredBy]
  | turn i =>
    cases hrun : f.runs[i]? with
    | none => simp [after, enteredBy, turn_of_none hrun, hrun]
    | some run =>
      simp only [after, enteredBy, turn_of_some hrun, hrun, Run.items_step, List.map_map,
        Function.comp_def, List.map_id']

/-- The log grows by the entries of the history and by nothing else. -/
theorem items_afterAll (events : List Event) : ∀ f : Floor,
    (f.afterAll p audited events).world.log.items =
      f.world.log.items.map (· ++ (f.entered p audited events).map Prod.snd) := by
  induction events with
  | nil => simp [entered]
  | cons e events ih =>
    intro f
    rw [afterAll_cons, ih, items_after, Option.map_map, entered, List.map_append]
    congr 1
    funext items
    exact List.append_assoc ..

/-- Every entry was made by its run in a turn of this run. -/
theorem meets_of_mem_entered {item : Audit.Item} : ∀ {f : Floor} {events : List Event},
    (i, item) ∈ f.entered p audited events →
      f.Meets p audited events i fun run w => item ∈ run.entries audited w.later.now := by
  intro f events
  induction events generalizing f with
  | nil => exact fun h => absurd h List.not_mem_nil
  | cons e events ih =>
    intro h
    rcases List.mem_append.1 h with hnow | hlater
    · cases e with
      | call op => exact absurd hnow List.not_mem_nil
      | turn j =>
        cases hrun : f.runs[j]? with
        | none => simp [enteredBy, hrun] at hnow
        | some run =>
          simp only [enteredBy, hrun, List.mem_map, Prod.mk.injEq] at hnow
          obtain ⟨item, hitem, rfl, rfl⟩ := hnow
          exact ⟨[], events, run, rfl, hrun, hitem⟩
    · obtain ⟨before, after, run, rfl, hrun, hP⟩ := ih hlater
      exact ⟨e :: before, after, run, rfl, hrun, hP⟩

/-- The entries that the run in a place has still to make. -/
def owed (f : Floor) (i : Nat) : Nat := (f.runs[i]?).elim 0 Run.owed

theorem count_enteredBy (f : Floor) (e : Event) (i : Nat) :
    ((f.enteredBy true e).map Prod.fst).count i + (f.after p true e).owed i = f.owed i := by
  cases e with
  | call op => simp [enteredBy, after, owed]
  | turn j =>
    cases hrun : f.runs[j]? with
    | none => simp [enteredBy, after, turn_of_none hrun, hrun]
    | some run =>
      have hplaces : (f.enteredBy true (.turn j)).map Prod.fst =
          List.replicate (run.entries true f.world.later.now).length j := by
        simp only [enteredBy, hrun, List.map_map]
        exact List.map_const' ..
      rw [hplaces, List.count_replicate]
      by_cases hij : j = i
      · subst hij
        have hself := getElem?_turn_self p true hrun
        simp only [after, owed, hself, hrun, beq_self_eq_true, if_true, Option.elim_some]
        exact run.owed_step (p j) f.world _
      · have hother : (f.turn p true j).runs[i]? = f.runs[i]? := getElem?_turn_of_ne (Ne.symm hij)
        simp [after, owed, hother, hij]

/-- Every audited run makes the entries that it owes. -/
theorem count_entered (events : List Event) : ∀ (f : Floor) (i : Nat),
    ((f.entered p true events).map Prod.fst).count i + (f.afterAll p true events).owed i =
      f.owed i := by
  induction events with
  | nil => simp [entered]
  | cons e events ih =>
    intro f i
    have hnow := f.count_enteredBy (p := p) e i
    have hlater := ih (f.after p true e) i
    rw [entered, List.map_append, List.count_append, afterAll_cons]
    omega

/-- Once all runs have finished, each run has made one entry. -/
theorem perm_entered (hfresh : ∀ run ∈ f.runs, run.phase = .queued)
    (hdone : (f.afterAll p true events).Finished) :
    ((f.entered p true events).map Prod.fst).Perm (List.range f.runs.length) := by
  rw [List.perm_iff_count]
  intro i
  have hcount := count_entered (p := p) events f i
  have hlast : (f.afterAll p true events).owed i = 0 := by
    cases hrun : (f.afterAll p true events).runs[i]? with
    | none => simp [owed, hrun]
    | some run => simp [owed, hrun, Run.owed, Phase.ahead, hdone run (List.mem_of_getElem? hrun)]
  have hfirst : f.owed i = (List.range f.runs.length).count i := by
    rw [List.nodup_range.count]
    by_cases hi : i < f.runs.length
    · have hrun : f.runs[i]? = some f.runs[i] := List.getElem?_eq_getElem hi
      simp [owed, Run.owed, hi, hfresh _ (List.getElem_mem hi), Phase.ahead, Run.stepCount]
    · simp [owed, hi]
  omega

end Entered

end Floor

end IdentityDocs
