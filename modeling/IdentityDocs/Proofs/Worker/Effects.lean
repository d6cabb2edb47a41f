import IdentityDocs.Proofs.Worker.Floor

/-!
# What a step leaves in the store and in the log

A step of a run changes the rows of its document by a function of the row, and it may append an
entry on its document to the log. What concerns other documents stays as it is: `World.Spares`.
Apart from the times, rows and entries do not depend on the clock.
-/

namespace IdentityDocs

/-! ## Rows and entries without their times -/

namespace Row

/-- The row without the time of its last change. -/
def untimed (row : Row) : Row := { row with updatedAt := "" }

variable {row row' : Row}

/-- Rows that differ in their times only are admitted by the same guards. -/
theorem admits_of_untimed (h : row.untimed = row'.untimed) (statuses : List VerificationStatus) :
    Table.admits statuses row = Table.admits statuses row' := by
  have hstatus : row.status = row'.status := (congrArg Row.status h : _)
  simp only [Table.admits, hstatus]

theorem untimed_marked (h : row.untimed = row'.untimed) (now now' : Instant) :
    (row.marked now).untimed = (row'.marked now').untimed := by
  have hadm := admits_of_untimed h [.processing, .pending]
  unfold marked
  rw [hadm]
  split
  · simp only [untimed, Row.mk.injEq] at h ⊢
    simp only [h, and_self]
  · exact h

theorem untimed_analysed (h : row.untimed = row'.untimed) (r : AnalysisResult)
    (now now' : Instant) : (row.analysed r now).untimed = (row'.analysed r now').untimed := by
  have hadm := admits_of_untimed h [.processing]
  unfold analysed
  rw [hadm]
  split
  · simp only [untimed, Row.mk.injEq] at h ⊢
    simp only [h, and_self]
  · exact h

/-- Changes that do the same to rows which differ in their times only do the same to lists of such
rows. -/
theorem map_untimed_congr {change change' : Row → Row}
    (h : ∀ row row' : Row, row.untimed = row'.untimed →
      (change row).untimed = (change' row').untimed) {rows : List Row} :
    ∀ {rows' : List Row}, rows.map untimed = rows'.map untimed →
      (rows.map change).map untimed = (rows'.map change').map untimed := by
  induction rows with
  | nil =>
    intro rows' heq
    simp [List.map_eq_nil_iff.1 heq.symm]
  | cons row rows ih =>
    intro rows' heq
    cases rows' with
    | nil => simp at heq
    | cons row' rows' =>
      simp only [List.map_cons, List.cons.injEq] at heq ⊢
      exact ⟨h row row' heq.1, ih heq.2⟩

end Row

/-- A table is known, up to times, by its identifiers and by the rows of each document. -/
theorem Table.map_untimed_eq {t : Table} : ∀ {t' : Table}, t.map Row.id = t'.map Row.id →
    (∀ key, (t.rowsOf key).map Row.untimed = (t'.rowsOf key).map Row.untimed) →
      t.map Row.untimed = t'.map Row.untimed := by
  induction t with
  | nil =>
    intro t' hids _
    simp [List.map_eq_nil_iff.1 hids.symm]
  | cons row t ih =>
    intro t' hids hrows
    cases t' with
    | nil => simp at hids
    | cons row' t' =>
      simp only [List.map_cons, List.cons.injEq] at hids
      have hhead := hrows row.id
      simp only [rowsOf, List.filter_cons, hids.1, decide_true, if_true, List.map_cons,
        List.cons.injEq] at hhead
      refine List.cons_eq_cons.2 ⟨hhead.1, ih hids.2 fun key => ?_⟩
      have hkey := hrows key
      by_cases hsame : row'.id = key
      · simp only [rowsOf, List.filter_cons, hids.1, hsame, decide_true, if_true, List.map_cons,
          List.cons.injEq] at hkey
        exact hkey.2
      · simpa only [rowsOf, List.filter_cons, hids.1, hsame, decide_false, Bool.false_eq_true,
          if_false] using hkey

namespace Audit

/-- The item without its time. -/
def Item.untimed (item : Item) : Item := { item with timestamp := "" }

/-- The items on a document. -/
def itemsOf (items : List Item) (key : String) : List Item :=
  items.filter fun item => item.documentId = key

theorem itemsOf_append (items more : List Item) (key : String) :
    itemsOf (items ++ more) key = itemsOf items key ++ itemsOf more key :=
  List.filter_append ..

theorem itemsOf_eq_nil {items : List Item} {keys : List String} {key : String}
    (h : ∀ item ∈ items, item.documentId ∈ keys) (hkey : key ∉ keys) : itemsOf items key = [] := by
  refine List.filter_eq_nil_iff.2 fun item hitem hsame => hkey ?_
  rw [← of_decide_eq_true hsame]
  exact h item hitem

theorem itemsOf_map_untimed (items : List Item) (key : String) :
    itemsOf (items.map Item.untimed) key = (itemsOf items key).map Item.untimed := by
  simp only [itemsOf, List.filter_map]
  rfl

/-- Lists of items that have the same items on every document, in the same order, differ in their
order only. -/
theorem perm_of_itemsOf {items items' : List Item}
    (h : ∀ key, itemsOf items key = itemsOf items' key) : items.Perm items' := by
  rw [List.perm_iff_count]
  intro item
  have hcount : ∀ items : List Item,
      (itemsOf items item.documentId).count item = items.count item :=
    fun items => List.count_filter (by simp)
  rw [← hcount items, h, hcount items']

end Audit

namespace Run

/-! ## A step and the table -/

/-- What the next step of a run does to the rows of its document. -/
def rowChange (run : Run) (now : Instant) : Row → Row :=
  match run.phase with
  | .queued => Row.marked now
  | .concluded _ result =>
    if result.confidence.isNaN then fun row => row else Row.analysed result now
  | _ => fun row => row

theorem id_rowChange (run : Run) (now : Instant) (row : Row) :
    (run.rowChange now row).id = row.id := by
  cases hphase : run.phase with
  | queued => simp only [rowChange, hphase, Row.id_marked]
  | concluded digest result =>
    simp only [rowChange, hphase]
    split
    · rfl
    · exact Row.id_analysed result now row
  | marked | analysing | stored | finished => simp only [rowChange, hphase]

theorem table_step (p : Pipeline) (audited : Bool) (run : Run) (w : World) :
    (run.step p audited w).2.store.table = w.store.table.map
      (·.onDocument run.job.documentId.text (run.rowChange w.later.now)) := by
  rw [store_step]
  cases hphase : run.phase with
  | queued =>
    simp only [operation?, rowChange, hphase]
    exact Store.table_after ..
  | concluded digest result =>
    simp only [operation?, rowChange, hphase]
    rw [Store.table_after]
    congr 1
    funext t
    simp only [Store.Operation.effect]
    split
    · exact (Table.onDocument_eq_self fun _ _ _ => rfl).symm
    · rfl
  | marked | analysing | stored | finished =>
    have hsame : ∀ t : Table, t.onDocument run.job.documentId.text (fun row => row) = t :=
      fun t => Table.onDocument_eq_self fun _ _ _ => rfl
    simp only [operation?, rowChange, hphase, hsame]
    exact Option.map_id'.symm

/-! ## A step and the log -/

/-- What the next step of a run enters in the log. -/
def entries (run : Run) (audited : Bool) (now : Instant) : List Audit.Item :=
  match run.phase with
  | .stored digest result =>
    if audited then
      let (action, success, details) := Audit.describe result
      [{ timestamp := now.stamp
         action := action.name
         documentId := run.job.documentId.text
         fingerprint := digest.getD run.job.documentId.text
         success
         details := some details }]
    else []
  | _ => []

theorem documentId_of_mem_entries {run : Run} {audited : Bool} {now : Instant} {item : Audit.Item}
    (h : item ∈ run.entries audited now) : item.documentId = run.job.documentId.text := by
  unfold entries at h
  split at h
  · split at h
    · rw [List.mem_singleton.1 h]
    · cases h
  · cases h

theorem items_step (p : Pipeline) (audited : Bool) (run : Run) (w : World) :
    (run.step p audited w).2.log.items =
      w.log.items.map (· ++ run.entries audited w.later.now) := by
  have hsame : w.log.items = w.log.items.map (· ++ []) := by simp
  cases hphase : run.phase with
  | queued =>
    simp only [step, entries, hphase, mark]
    split <;> exact hsame
  | concluded digest result =>
    simp only [step, entries, hphase, save]
    split <;> exact hsame
  | stored digest result =>
    simp only [step, entries, hphase]
    by_cases haudited : audited = true
    · simp only [if_pos haudited, recordResult, Audit.Log.record, Audit.Log.ask, World.later]
      cases hitems : w.log.items with
      | none => simp [hitems]
      | some items => rfl
    · simp only [if_neg haudited]
      exact hsame
  | analysing digest stage =>
    simp only [step, entries, hphase]
    split <;> exact hsame
  | marked | finished =>
    simp only [step, entries, hphase]
    exact hsame

end Run

/-! ## What stays -/

/-- The second world follows from the first by changes that concern the given documents only: the
table has the same rows in the same order but for what is in those of these documents, and entries
on these documents were appended to the log. -/
structure World.Spares (keys : List String) (w w' : World) : Prop where
  ids : w'.store.table.map (·.map Row.id) = w.store.table.map (·.map Row.id)
  rows : ∀ key, key ∉ keys → w'.store.table.map (·.rowsOf key) = w.store.table.map (·.rowsOf key)
  items : ∃ new, w'.log.items = w.log.items.map (· ++ new) ∧ ∀ item ∈ new, item.documentId ∈ keys

theorem World.Spares.refl (keys : List String) (w : World) : Spares keys w w :=
  ⟨rfl, fun _ _ => rfl, [], by simp, by simp⟩

theorem World.Spares.trans {keys : List String} {w w' w'' : World} (h : Spares keys w w')
    (h' : Spares keys w' w'') : Spares keys w w'' := by
  obtain ⟨new, hitems, hnew⟩ := h.items
  obtain ⟨more, hitems', hmore⟩ := h'.items
  refine ⟨h'.ids.trans h.ids, fun key hkey => (h'.rows key hkey).trans (h.rows key hkey),
    new ++ more, ?_, fun item hitem => ?_⟩
  · rw [hitems', hitems, Option.map_map]
    congr 1
    funext items
    exact List.append_assoc ..
  · rcases List.mem_append.1 hitem with hitem | hitem
    · exact hnew item hitem
    · exact hmore item hitem

theorem Run.spares_step (p : Pipeline) (audited : Bool) (run : Run) (w : World)
    {keys : List String} (hkey : run.job.documentId.text ∈ keys) :
    World.Spares keys w (run.step p audited w).2 := by
  refine ⟨?_, fun key hother => ?_, run.entries audited w.later.now, items_step .., ?_⟩
  · rw [table_step, Option.map_map]
    congr 1
    funext t
    exact Table.map_id_onDocument (run.id_rowChange _)
  · have hne : key ≠ run.job.documentId.text := fun h => hother (h ▸ hkey)
    rw [table_step, Option.map_map]
    congr 1
    funext t
    exact Table.rowsOf_onDocument_of_ne hne (run.id_rowChange _)
  · intro item hitem
    rw [documentId_of_mem_entries hitem]
    exact hkey

/-- On the floor only what concerns the documents of the runs is changed, as long as only the runs
take turns. -/
theorem Floor.spares_turns {p : Nat → Pipeline} {audited : Bool} {keys : List String}
    {order : List Nat} : ∀ {f : Floor}, (∀ run ∈ f.runs, run.job.documentId.text ∈ keys) →
      World.Spares keys f.world (f.afterAll p audited (order.map .turn)).world := by
  induction order with
  | nil => exact fun _ => World.Spares.refl keys _
  | cons i order ih =>
    intro f hkeys
    have hturn : World.Spares keys f.world (f.turn p audited i).world := by
      cases hrun : f.runs[i]? with
      | none => rw [turn_of_none hrun]; exact World.Spares.refl keys _
      | some run =>
        rw [turn_of_some hrun]
        exact run.spares_step (p i) audited f.world (hkeys run (List.mem_of_getElem? hrun))
    refine hturn.trans (ih fun run hrun => ?_)
    obtain ⟨old, hold, heq⟩ := exists_run_of_turn hrun
    rw [← heq]
    exact hkeys old hold

end IdentityDocs
