import IdentityDocs.Proofs.Records.Decision
import IdentityDocs.Proofs.Records.Failure
import IdentityDocs.Proofs.Worker.History
import IdentityDocs.Proofs.Worker.Settled

/-!
# What an entry promises of the table

A run puts its result to the store and then records it, whatever became of it there: the log tells
what analyses came to, and the table what was decided. An entry on a completed analysis therefore
does not promise that the table took the result. `Floor.reported_after_landing` says what it does
promise: the result was put to the store before, and it either landed in a row that was being
analysed or changed nothing at all (`Store.Lands`).
-/

namespace IdentityDocs

namespace Row

/-- A result lands in a row that is being analysed. -/
theorem analysed_of_processing {row : Row} (h : row.Processing) (r : AnalysisResult)
    (now : Instant) :
    (row.analysed r now).status = statusText r.status ∧
      (row.analysed r now).confidence = storedNumber r.confidence := by
  unfold analysed
  rw [if_pos ((admits_processing row).2 h)]
  exact ⟨rfl, rfl⟩

theorem analysed_of_not_processing {row : Row} (h : ¬ row.Processing) (r : AnalysisResult)
    (now : Instant) : row.analysed r now = row :=
  if_neg fun hadmits => h ((admits_processing row).1 hadmits)

end Row

/-- What becomes of a result that is put to the store. -/
inductive Store.Lands (id : DocumentId) (r : AnalysisResult) (s s' : Store) : Prop
  /-- The document was being analysed, and its row now has the status and the confidence of the
  result. -/
  | applied (row : Row) (was : row ∈ s.rowsOf id) (processing : row.Processing)
      (row' : Row) (became : row' ∈ s'.rowsOf id) (status : row'.status = Row.statusText r.status)
      (confidence : row'.confidence = Row.storedNumber r.confidence)
  /-- There was no row of the document, or it was not being analysed, and nothing changed. -/
  | dropped (idle : ∀ row ∈ s.rowsOf id, ¬ row.Processing) (same : s'.table = s.table)

/-- A result whose confidence is a number lands, or it is dropped. -/
theorem Run.lands_step (p : Pipeline) (audited : Bool) {run : Run} (w : World)
    {digest : Option String} {r : AnalysisResult} (hphase : run.phase = .concluded digest r)
    (hr : r.confidence.isNaN = false) :
    Store.Lands run.job.documentId r w.store (run.step p audited w).2.store := by
  have hchange : run.rowChange w.later.now = Row.analysed r w.later.now := by
    simp only [rowChange, hphase, hr, Bool.false_eq_true, if_false]
  have htable := run.table_step p audited w
  rw [hchange] at htable
  by_cases hbusy : ∃ row ∈ w.store.rowsOf run.job.documentId, row.Processing
  · obtain ⟨row, hrow, hproc⟩ := hbusy
    cases ht : w.store.table with
    | none => simp [Store.rowsOf, ht] at hrow
    | some t =>
      have hlanded : row.analysed r w.later.now ∈
          (run.step p audited w).2.store.rowsOf run.job.documentId := by
        rw [ht, Option.map_some] at htable
        rw [Store.rowsOf_of_some ht] at hrow
        rw [Store.rowsOf_of_some htable, Table.rowsOf_onDocument (Row.id_analysed r _)]
        exact List.mem_map_of_mem hrow
      obtain ⟨hstatus, hconfidence⟩ := Row.analysed_of_processing hproc r w.later.now
      exact .applied row hrow hproc _ hlanded hstatus hconfidence
  · have hidle : ∀ row ∈ w.store.rowsOf run.job.documentId, ¬ row.Processing :=
      fun row hrow hproc => hbusy ⟨row, hrow, hproc⟩
    refine .dropped hidle ?_
    cases ht : w.store.table with
    | none => rw [htable, ht, Option.map_none]
    | some t =>
      have hsame : t.onDocument run.job.documentId.text (Row.analysed r w.later.now) = t := by
        apply Table.onDocument_eq_self
        intro row hrow hid
        have hmem : row ∈ w.store.rowsOf run.job.documentId := by
          rw [Store.rowsOf_of_some ht]
          exact Table.mem_rowsOf.2 ⟨hrow, hid⟩
        exact Row.analysed_of_not_processing (hidle row hmem) r _
      rw [htable, ht, Option.map_some, hsame]

namespace Floor

variable {p : Nat → Pipeline} {audited : Bool} {f : Floor}

/-- The confidence in every result that a run comes to is a number. -/
theorem sound_afterAll (hfresh : ∀ run ∈ f.runs, run.phase = .queued) (events : List Event) :
    ∀ {i : Nat} {run : Run}, (f.afterAll p audited events).runs[i]? = some run → run.Sound := by
  induction events using List.reverseRecOn with
  | nil =>
    intro i run hrun digest r hphase
    rw [hfresh run (List.mem_of_getElem? hrun)] at hphase
    cases hphase
  | append_singleton events e ih =>
    intro i run hrun
    rw [afterAll_append] at hrun
    cases e with
    | call op => exact ih hrun
    | turn j =>
      rcases getElem?_turn hrun with hrun | ⟨-, old, -, rfl⟩
      · exact ih hrun
      · exact Run.Sound.step (p i) audited old _

/-- **An entry on a completed analysis promises that its result was put to the store.** The runs of
a worker take their steps in any order, and others call the store between them. The log grows by
entries of the runs only, and before a run entered that its analysis was completed, it put the
result that the entry names to the store. If the document was being analysed at that moment, its row
then had the status and the confidence of this result; otherwise nothing changed. -/
theorem reported_after_landing (p : Nat → Pipeline) (worker : Worker) (world : World)
    (events : List Event) :
    ∃ made : List (Nat × Audit.Item),
      ((worker.floor world).afterAll p worker.audited events).world.log.items =
        world.log.items.map (· ++ made.map Prod.snd) ∧
      ∀ i item, (i, item) ∈ made → item.action = "analysis_completed" →
        ∃ job r digest before after, worker.queue[i]? = some job ∧
          item.documentId = job.documentId.text ∧ item.success = true ∧
          r.outcome = .completed ∧
          item.details = some s!"{r.category.label} {r.percent} {r.status.name}" ∧
          events = before ++ .turn i :: after ∧
          ((worker.floor world).afterAll p worker.audited before).enteredBy worker.audited
            (.turn i) = [(i, item)] ∧
          (worker.floor world).Meets p worker.audited before i fun run w =>
            run.phase = .concluded digest r ∧
              Store.Lands job.documentId r w.store (run.step (p i) worker.audited w).2.store := by
  refine ⟨(worker.floor world).entered p worker.audited events, items_afterAll events _, ?_⟩
  intro i item hmade haction
  obtain ⟨before, after, last, rfl, hlast, hitem, hjob, -⟩ := (meets_of_mem_entered hmade).of_floor
  obtain ⟨haudited, digest, r, hphase⟩ := Run.stored_of_mem_entries hitem
  have hbehind := behind (phase_floor worker world) before hlast
  rw [hphase] at hbehind
  obtain ⟨-, hput⟩ := hbehind
  obtain ⟨start, rest, run, hsplit, hrun, hconcluded, hjob', -⟩ := Meets.of_floor hput
  have hsame : last.job = run.job := Option.some_inj.1 (hjob.symm.trans hjob')
  have hentries := Run.entries_of_stored hphase
    ((worker.floor world).afterAll p worker.audited before).world.later.now
  rw [← haudited] at hentries
  have hentered : ((worker.floor world).afterAll p worker.audited before).enteredBy
      worker.audited (.turn i) = [(i, item)] := by
    rw [hentries, List.mem_singleton] at hitem
    simp only [enteredBy, hlast, hentries, hitem, List.map_singleton]
  rw [hentries, List.mem_singleton] at hitem
  -- only a completed analysis is recorded as one
  have houtcome : r.outcome = .completed := by
    cases houtcome : r.outcome with
    | completed => rfl
    | failed =>
      have hfailed : item.action = "analysis_failed" := by
        rw [hitem]
        simp only [Audit.describe, houtcome, Audit.Action.name]
      rw [hfailed] at haction
      exact absurd haction (by decide)
  have hnumber := sound_afterAll (phase_floor worker world) start hrun digest r hconcluded
  refine ⟨last.job, r, digest, before, after, hjob, ?_, ?_, houtcome, ?_, rfl, hentered, ?_⟩
  · rw [hitem]
  · rw [hitem]
    simp only [Audit.describe, houtcome]
  · rw [hitem]
    simp only [Audit.describe, houtcome]
  · rw [hsame]
    exact ⟨start, rest, run, hsplit, hrun, hconcluded, run.lands_step _ _ _ hconcluded hnumber⟩

/-! ### A result that comes too late -/

/-- An audited worker that has one document to analyse. -/
def sampleLateWorker : Worker where
  pipeline := ⟨.always "silent" (.text ""), false, Pnm.copier⟩
  audited := true
  tickets := fun i => i + 1
  queue := [{ documentId := Store.sampleId, image := .ofText "pan.jpg" }]

/-- A world in which the document was rejected before. -/
def sampleLateWorld : World := { sampleWorld with store := Store.sampleRejected }

/-- The floor on which the analysis of the rejected document has taken some turns. -/
def sampleLateFloor (turns : Nat) : Floor :=
  (sampleLateWorker.floor sampleLateWorld).afterAll (fun _ => sampleLateWorker.pipeline) true
    (List.replicate turns (.turn 0))

/-- The analysis of a rejected document is recorded as completed, with the status that it came to,
although the document is rejected all the time. -/
theorem late_result_is_reported :
    (sampleLateFloor Run.stepCount).world.log.items.map (·.map fun item =>
        (item.action, item.documentId, item.success, item.details)) =
      some [("analysis_completed", Store.sampleId.text, true, some "Unknown ID 50% pending")] ∧
    ∀ turns ≤ Run.stepCount,
      ((sampleLateFloor turns).world.store.rowsOf Store.sampleId).map Row.status =
        [Row.statusText .rejected] := by
  constructor
  · decide +kernel
  · decide +kernel

end Floor

end IdentityDocs
