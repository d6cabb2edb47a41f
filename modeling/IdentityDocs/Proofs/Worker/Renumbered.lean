import IdentityDocs.Proofs.Worker.Related

/-!
# The number of a task decides nothing

A run tells the number of its task in one place: in the note on a breakdown. From there it gets into
the comments on the document and into the details of an entry, and nobody looks at either. So two
floors whose tasks have different numbers stay alike whatever happens on both, and the worlds agree
in everything but these numbers (`Worker.sameButNumbers_afterAll`).
-/

namespace IdentityDocs

/-! ## Notes, rows and entries -/

/-- The notes are the same, or they are on one breakdown and tell the number of its task, in one
numbering and in the other. -/
inductive SameNote (tickets tickets' : Nat → Nat) : String → String → Prop
  | same (note : String) : SameNote tickets tickets' note note
  | breakdown (message : String) (i : Nat) :
    SameNote tickets tickets' (AnalysisResult.failed (breakdownNote (tickets i) message)).notes
      (AnalysisResult.failed (breakdownNote (tickets' i) message)).notes

section Numbers

variable {tickets tickets' : Nat → Nat}

theorem SameNote.option_refl (note : Option String) :
    Option.Rel (SameNote tickets tickets') note note := by
  cases note with
  | none => exact .none
  | some note => exact .some (.same note)

/-- The rows agree in everything but the times of the last change and the numbers of tasks in the
comments. -/
abbrev Row.SameButNumbers (tickets tickets' : Nat → Nat) (row row' : Row) : Prop :=
  row.AgreeUpTo (fun _ => Option.Rel (SameNote tickets tickets')) row'

/-- The items agree in everything but the times and the numbers of tasks in the details. -/
structure Audit.Item.SameButNumbers (tickets tickets' : Nat → Nat) (item item' : Item) : Prop where
  action : item.action = item'.action
  documentId : item.documentId = item'.documentId
  fingerprint : item.fingerprint = item'.fingerprint
  success : item.success = item'.success
  details : Option.Rel (SameNote tickets tickets') item.details item'.details

theorem Audit.Item.SameButNumbers.of_untimed {item item' : Item}
    (h : item.untimed = item'.untimed) : item.SameButNumbers tickets tickets' item' where
  action := (congrArg Item.action h :)
  documentId := (congrArg Item.documentId h :)
  fingerprint := (congrArg Item.fingerprint h :)
  success := (congrArg Item.success h :)
  details := by
    have hdetails : item.details = item'.details := (congrArg Item.details h :)
    rw [hdetails]
    exact SameNote.option_refl _

theorem Audit.Item.SameButNumbers.untimed {item item' : Item}
    (h : item.SameButNumbers tickets tickets' item') :
    item.untimed.SameButNumbers tickets tickets' item' := { h with }

/-- The worlds agree in everything but the numbers of tasks and the times. -/
structure World.SameButNumbers (tickets tickets' : Nat → Nat) (w w' : World) : Prop where
  files : w.files = w'.files
  table : Option.Rel (List.Forall₂ (Row.SameButNumbers tickets tickets')) w.store.table
    w'.store.table
  log : Option.Rel (List.Forall₂ (Audit.Item.SameButNumbers tickets tickets')) w.log.items
    w'.log.items

namespace World.SameButNumbers

theorem refl (w : World) : w.SameButNumbers tickets tickets' w where
  files := rfl
  table := by
    cases w.store.table with
    | none => exact .none
    | some t => exact .some (Table.AgreeUpTo.refl (fun _ => SameNote.option_refl) t)
  log := by
    cases w.log.items with
    | none => exact .none
    | some items => exact .some (List.forall₂_same.2 fun item _ => .of_untimed rfl)

theorem call {w w' : World} (h : w.SameButNumbers tickets tickets' w') (op : Store.Operation) :
    SameButNumbers tickets tickets' { w with store := w.store.after op }
      { w' with store := w'.store.after op } where
  files := h.files
  table := by
    rw [Store.table_after, Store.table_after]
    exact rel_option_map h.table fun t t' ht =>
      Table.AgreeUpTo.effect (fun _ => SameNote.option_refl) ht op
  log := h.log

end World.SameButNumbers

/-! ## Runs -/

/-- The phases are the same, or they hold the failed results of one breakdown. -/
inductive Phase.SameButNumbers (tickets tickets' : Nat → Nat) : Phase → Phase → Prop
  | same (phase : Phase) : SameButNumbers tickets tickets' phase phase
  | concluded (digest : Option String) (message : String) (i : Nat) :
    SameButNumbers tickets tickets'
      (.concluded digest (.failed (breakdownNote (tickets i) message)))
      (.concluded digest (.failed (breakdownNote (tickets' i) message)))
  | stored (digest : Option String) (message : String) (i : Nat) :
    SameButNumbers tickets tickets' (.stored digest (.failed (breakdownNote (tickets i) message)))
      (.stored digest (.failed (breakdownNote (tickets' i) message)))

/-- The runs agree in everything but the numbers of their task. -/
structure Run.SameButNumbers (tickets tickets' : Nat → Nat) (run run' : Run) : Prop where
  ticket : ∃ i, run.ticket = tickets i ∧ run'.ticket = tickets' i
  job : run.job = run'.job
  inquiry : run.inquiry = run'.inquiry
  phase : run.phase.SameButNumbers tickets tickets' run'.phase

/-- A failed analysis leaves a note. -/
theorem Table.storedNotes_failed (reason : String) :
    storedNotes (.failed reason) = some (AnalysisResult.failed reason).notes := by
  refine if_neg fun h => ?_
  have hempty : "AI processing failed: " = "" := (String.append_eq_empty_iff.1 h).1
  exact absurd hempty (by decide)

namespace Run.SameButNumbers

variable {run run' : Run} {w w' : World}

/-- Runs that agree do the same to rows that agree. -/
theorem rowChange (h : run.SameButNumbers tickets tickets' run') (now now' : Instant)
    {row row' : Row} (hrow : row.SameButNumbers tickets tickets' row') :
    (run.rowChange now row).SameButNumbers tickets tickets' (run'.rowChange now' row') := by
  obtain ⟨ticket, job, phase, inquiry⟩ := run
  obtain ⟨ticket', job', phase', inquiry'⟩ := run'
  obtain ⟨-, rfl, rfl, hphase⟩ := h
  cases hphase with
  | same =>
    cases phase with
    | queued => exact hrow.marked now now'
    | concluded digest r =>
      simp only [Run.rowChange]
      split
      · exact hrow
      · exact hrow.analysed rfl rfl rfl (SameNote.option_refl _) now now'
    | marked | analysing | stored | finished => exact hrow
  | concluded digest message i =>
    have hnotes : Option.Rel (SameNote tickets tickets')
        (Table.storedNotes (.failed (breakdownNote (tickets i) message)))
        (Table.storedNotes (.failed (breakdownNote (tickets' i) message))) := by
      rw [Table.storedNotes_failed, Table.storedNotes_failed]
      exact .some (.breakdown message i)
    have hconfidence : ∀ reason : String, (AnalysisResult.failed reason).confidence = 0.0 :=
      fun _ => rfl
    simp only [Run.rowChange, hconfidence]
    split
    · exact hrow
    · refine hrow.analysed ?_ ?_ ?_ hnotes now now' <;> rfl
  | stored => exact hrow

/-- Runs that agree enter the same in the log, but for the numbers of their tasks. -/
theorem entries (h : run.SameButNumbers tickets tickets' run') (audited : Bool)
    (now now' : Instant) :
    List.Forall₂ (Audit.Item.SameButNumbers tickets tickets') (run.entries audited now)
      (run'.entries audited now') := by
  obtain ⟨ticket, job, phase, inquiry⟩ := run
  obtain ⟨ticket', job', phase', inquiry'⟩ := run'
  obtain ⟨-, rfl, rfl, hphase⟩ := h
  cases hphase with
  | same =>
    cases phase with
    | stored digest r =>
      simp only [Run.entries]
      split
      · exact .cons (.of_untimed rfl) .nil
      · exact .nil
    | queued | marked | analysing | concluded | finished => exact .nil
  | concluded => exact .nil
  | stored digest message i =>
    simp only [Run.entries]
    split
    · exact .cons ⟨rfl, rfl, rfl, rfl, .some (.breakdown message i)⟩ .nil
    · exact .nil

/-- With the same files in their worlds, runs that agree go the same way. -/
theorem step_run (h : run.SameButNumbers tickets tickets' run') (p : Pipeline) (audited : Bool)
    (hfiles : w.files = w'.files) :
    (run.step p audited w).1.SameButNumbers tickets tickets' (run'.step p audited w').1 ∧
      (run.step p audited w).2.files = (run'.step p audited w').2.files := by
  obtain ⟨ticket, job, phase, inquiry⟩ := run
  obtain ⟨ticket', job', phase', inquiry'⟩ := run'
  obtain ⟨⟨i, rfl, rfl⟩, rfl, rfl, hphase⟩ := h
  have hticket : ∃ j, tickets i = tickets j ∧ tickets' i = tickets' j := ⟨i, rfl, rfl⟩
  have hother {phase phase' : Phase} (hne : ∀ digest stage, phase ≠ .analysing digest stage)
      (hne' : ∀ digest stage, phase' ≠ .analysing digest stage) :
      ((⟨tickets i, job, phase, inquiry⟩ : Run).step p audited w).2.files =
        ((⟨tickets' i, job, phase', inquiry⟩ : Run).step p audited w').2.files := by
    rw [files_step_of_ne p audited w hne, files_step_of_ne p audited w' hne', hfiles]
  cases hphase with
  | same =>
    cases phase with
    | analysing digest stage =>
      simp only [Run.step, ← hfiles]
      cases stage.conclusion? job.claimed with
      | none => exact ⟨⟨hticket, rfl, rfl, .same _⟩, rfl⟩
      | some conclusion =>
        refine ⟨⟨hticket, rfl, rfl, ?_⟩, hfiles⟩
        cases conclusion with
        | ok r => exact .same _
        | error message => exact .concluded none message i
    | queued | concluded | stored | finished =>
      exact ⟨⟨hticket, rfl, rfl, .same _⟩, hother (by simp) (by simp)⟩
    | marked =>
      refine ⟨⟨hticket, rfl, rfl, ?_⟩, hother (by simp) (by simp)⟩
      simp only [Run.step, hfiles]
      exact .same _
  | concluded digest message j =>
    exact ⟨⟨hticket, rfl, rfl, .stored digest message j⟩, hother (by simp) (by simp)⟩
  | stored digest message j =>
    exact ⟨⟨hticket, rfl, rfl, .same _⟩, hother (by simp) (by simp)⟩

/-- A step keeps runs and worlds in agreement. -/
theorem step (h : run.SameButNumbers tickets tickets' run') (p : Pipeline) (audited : Bool)
    (hw : w.SameButNumbers tickets tickets' w') :
    (run.step p audited w).1.SameButNumbers tickets tickets' (run'.step p audited w').1 ∧
      (run.step p audited w).2.SameButNumbers tickets tickets' (run'.step p audited w').2 := by
  obtain ⟨hrun, hfiles⟩ := h.step_run p audited hw.files
  refine ⟨hrun, hfiles, ?_, ?_⟩
  · rw [table_step, table_step, ← h.job]
    refine rel_option_map hw.table fun t t' ht => ?_
    exact Table.AgreeUpTo.onDocument ht _ fun row row' hrow _ => h.rowChange _ _ hrow
  · rw [items_step, items_step]
    refine rel_option_map hw.log fun items items' hitems => ?_
    exact List.rel_append hitems (h.entries audited _ _)

end Run.SameButNumbers

end Numbers

/-! ## Workers -/

/-- **The number of a task decides nothing.** Whatever numbers the tasks of a worker draw and
whatever happens, the worlds agree in everything but these numbers. -/
theorem Worker.sameButNumbers_afterAll (p : Nat → Pipeline) (worker : Worker) (world : World)
    (tickets : Nat → Nat) (events : List Floor.Event) :
    ((worker.floor world).afterAll p worker.audited events).world.SameButNumbers worker.tickets
      tickets (({ worker with tickets }.floor world).afterAll p worker.audited events).world := by
  have hruns : List.Forall₂ (Run.SameButNumbers worker.tickets tickets) worker.runs
      { worker with tickets }.runs := by
    simp only [Worker.runs, List.forall₂_map_left_iff, List.forall₂_map_right_iff]
    exact List.forall₂_same.2 fun placed _ => ⟨⟨placed.2, rfl, rfl⟩, rfl, rfl, .same _⟩
  have hfloor : (worker.floor world).Related (Run.SameButNumbers worker.tickets tickets)
      (World.SameButNumbers worker.tickets tickets) ({ worker with tickets }.floor world) :=
    ⟨hruns, .refl world⟩
  refine (Floor.Related.afterAll (fun p run run' w w' hrun hw => ?_) (fun op w w' hw => ?_)
    events hfloor).world
  · exact hrun.step p worker.audited hw
  · exact hw.call op

end IdentityDocs
