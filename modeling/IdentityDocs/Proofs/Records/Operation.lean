import IdentityDocs.Proofs.Records.Rows
import IdentityDocs.Records.Store

/-!
# Histories of the record store

`Store.Operation` names what may be asked of the store, reads included, and `Store.afterAll` is the
store after a history of operations, in which refused ones change nothing. `Store.table_after` says
what one operation does: its effect on the table is a function of the table alone.
-/

namespace IdentityDocs

namespace Store

/-- What may be asked of the record store. -/
inductive Operation
  | insert (record : DocumentRecord)
  | mark (id : DocumentId) (now : Instant)
  | update (id : DocumentId) (result : AnalysisResult) (now : Instant)
  | review (id : DocumentId) (status : VerificationStatus) (comments : Option String)
      (now : Instant)
  | delete (id : DocumentId)
  | get (id : DocumentId)
  | all
  | ofOwner (owner : String)
  | reviewQueue

namespace Operation

/-- The store after an operation, or why it is refused. -/
def run (s : Store) : Operation → Except Error Store
  | insert r => s.insert r
  | mark id now => s.mark id now
  | update id r now => s.update id r now
  | review id status comments now => s.review id status comments now
  | delete id => s.delete id
  | get id => (s.get? id).map fun _ => s
  | all => s.all.map fun _ => s
  | ofOwner owner => (s.ofOwner owner).map fun _ => s
  | reviewQueue => s.reviewQueue.map fun _ => s

/-- What becomes of the table. -/
def effect : Operation → Table → Table
  | insert r, t => if r.confidence.isNaN || t.has r.id then t else t ++ [.ofRecord r]
  | mark id now, t => t.onDocument id.text (Row.marked now)
  | update id r now, t =>
    if r.confidence.isNaN then t else t.onDocument id.text (Row.analysed r now)
  | review id status comments now, t =>
    if Table.isDecision status then t.onDocument id.text (Row.reviewed status comments now)
    else t
  | delete id, t => t.delete id
  | get _, t | all, t | ofOwner _, t | reviewQueue, t => t

end Operation

/-- The store after an operation was asked for. A refused operation changes nothing. -/
def after (s : Store) (op : Operation) : Store :=
  match op.run s with
  | .ok s => s
  | .error _ => s

/-- The store after operations, one after the other. -/
def afterAll (s : Store) (ops : List Operation) : Store := ops.foldl after s

@[simp] theorem afterAll_nil (s : Store) : s.afterAll [] = s := rfl

@[simp] theorem afterAll_cons (s : Store) (op : Operation) (ops : List Operation) :
    s.afterAll (op :: ops) = (s.after op).afterAll ops := rfl

/-- The table after a change, be it refused or not. -/
theorem table_of_change {s : Store} {activity : StoreActivity} {f : Table → Except Error Table}
    {effect : Table → Table} (h : Table.Performs f effect) :
    (match s.change activity f with
      | .ok s => s
      | .error _ => s).table = s.table.map effect := by
  unfold change
  cases ht : s.table with
  | none => simp [missing, ht]
  | some t =>
    rcases h t with hf | ⟨⟨e, hf⟩, heq⟩
    · simp [hf]
    · simp [hf, ht, heq]

/-- A read leaves the table as it is. -/
theorem table_of_read {α : Type} (s : Store) (answer : Except Error α) :
    (match answer.map fun _ => s with
      | .ok s => s
      | .error _ => s).table = s.table.map fun t => t := by
  cases answer <;> simp [Except.map]

/-- Each operation does to the table what its effect says, be it admitted or refused. -/
theorem table_after (s : Store) (op : Operation) :
    (s.after op).table = s.table.map op.effect := by
  cases op with
  | insert r => exact table_of_change (Table.insert_performs r)
  | mark id now => exact table_of_change (Table.mark_performs id now)
  | update id r now => exact table_of_change (Table.update_performs id r now)
  | review id status comments now =>
    by_cases hdec : Table.isDecision status = true
    · simp only [after, Operation.run, Store.review, hdec, if_true]
      exact table_of_change (Table.review_performs id status comments now)
    · have hkeep : (Operation.review id status comments now).effect = fun t => t := by
        funext t
        exact if_neg hdec
      simp [after, Operation.run, Store.review, hdec, hkeep]
  | delete id => exact table_of_change fun t => .inl rfl
  | get id => exact table_of_read s (s.get? id)
  | all => exact table_of_read s s.all
  | ofOwner owner => exact table_of_read s (s.ofOwner owner)
  | reviewQueue => exact table_of_read s s.reviewQueue

/-! ## Frame conditions -/

/-- The document whose rows an operation may change. -/
def Operation.target? : Operation → Option DocumentId
  | insert r => some r.id
  | mark id _ => some id
  | update id _ _ => some id
  | review id _ _ _ => some id
  | delete id => some id
  | get _ | all | ofOwner _ | reviewQueue => none

/-- Rows that are selected by identifiers of other documents stay as they are. -/
theorem filter_effect (op : Operation) (t : Table) {p : String → Bool}
    (h : ∀ id, op.target? = some id → p id.text = false) :
    (op.effect t).filter (fun row => p row.id) = t.filter fun row => p row.id := by
  cases op with
  | insert r =>
    have hp : p r.id.text = false := h r.id rfl
    simp only [Operation.effect]
    split
    · rfl
    · simp [Row.ofRecord, hp]
  | mark id now => exact Table.filter_onDocument (h id rfl) (Row.id_marked now)
  | update id r now =>
    simp only [Operation.effect]
    split
    · rfl
    · exact Table.filter_onDocument (h id rfl) (Row.id_analysed r now)
  | review id status comments now =>
    simp only [Operation.effect]
    split
    · exact Table.filter_onDocument (h id rfl) (Row.id_reviewed status comments now)
    · rfl
  | delete id =>
    have hp : p id.text = false := h id rfl
    simp only [Operation.effect, Table.delete, List.filter_filter]
    apply List.filter_congr
    intro row _
    by_cases hid : row.id = id.text
    · simp [hid, hp]
    · simp [hid]
  | get | all | ofOwner | reviewQueue => rfl

/-- The rows of other documents stay as they are. -/
theorem rowsOf_effect_of_ne (op : Operation) (t : Table) {key : String}
    (h : ∀ id, op.target? = some id → id.text ≠ key) :
    (op.effect t).rowsOf key = t.rowsOf key :=
  filter_effect op t (p := fun id => id = key) fun id hid => decide_eq_false (h id hid)

/-- The rows of a document. -/
def rowsOf (s : Store) (id : DocumentId) : List Row :=
  s.table.elim [] fun t => t.rowsOf id.text

theorem rowsOf_of_some {s : Store} {t : Table} (h : s.table = some t) (id : DocumentId) :
    s.rowsOf id = t.rowsOf id.text := by
  simp [rowsOf, h]

theorem rowsOf_after_of_some {s : Store} {t : Table} (h : s.table = some t) (op : Operation)
    (id : DocumentId) : (s.after op).rowsOf id = (op.effect t).rowsOf id.text := by
  rw [rowsOf, table_after, h]
  rfl

theorem rowsOf_after_of_ne (s : Store) (op : Operation) {id : DocumentId}
    (h : op.target? ≠ some id) : (s.after op).rowsOf id = s.rowsOf id := by
  unfold rowsOf
  rw [table_after]
  cases s.table with
  | none => rfl
  | some t =>
    refine rowsOf_effect_of_ne op t fun other hother htext => h ?_
    rw [hother, DocumentId.text_injective htext]

/-! ## Documents for examples -/

/-- An identifier for examples. -/
def sampleId : DocumentId where
  digits := List.replicate 32 (DocumentId.digitOf 0)

/-- An identifier for examples of two documents. -/
def otherId : DocumentId where
  digits := List.replicate 32 (DocumentId.digitOf 1)

/-- A document that waits for its analysis. -/
def sampleRecord : DocumentRecord :=
  .fresh sampleId "user-1" .idProof (.ofText "pan.jpg") "pan.jpg" none ⟨0, 0⟩

end Store

end IdentityDocs
