import IdentityDocs.Audit.Log
import IdentityDocs.Proofs.Document.Id

/-!
# The log as views of one history

Whoever records decisions and asks the log in between sees one history: the decisions that were
recorded, in the order of the calls. `Log.recorded` is this history, read off the calls alone, and
`Log.Holds` is the invariant that ties the log to it. Every query is then a view of the history: its
length, its end read backwards, or the part of it that is on one document.
-/

namespace IdentityDocs.Audit

/-- What is given when a decision is recorded. -/
structure Decision where
  action : String
  id : DocumentId
  fingerprint : String
  success : Bool
  details : Option String
  /-- When it is recorded. -/
  now : Instant

/-- The item that is kept of a decision. -/
def Decision.item (d : Decision) : Item where
  timestamp := d.now.stamp
  action := d.action
  documentId := d.id.text
  fingerprint := d.fingerprint
  success := d.success
  details := d.details

/-- The entry of a decision with its number. -/
def Decision.entry (d : Decision) (number : Nat) : Entry where
  id := number
  timestamp := d.now.stamp
  action := d.action
  documentId := d.id.text
  fingerprint := d.fingerprint
  success := d.success
  details := d.details

/-- What may be asked of the log. -/
inductive Operation
  | record (d : Decision)
  | onDocument (id : DocumentId)
  | recent (limit : Nat)
  | count

/-- The decision that an operation is about, if it records one. -/
def Operation.decision? : Operation → Option Decision
  | record d => some d
  | onDocument _ | recent _ | count => none

/-! ## Histories -/

/-- Decisions with their numbers, from one on. -/
def numberedDecisions (history : List Decision) : List (Decision × Nat) :=
  history.zip (List.range' 1 history.length)

/-- The entries that tell of a history. -/
def entriesOf (history : List Decision) : List Entry :=
  (numberedDecisions history).map fun (d, number) => d.entry number

theorem length_entriesOf (history : List Decision) :
    (entriesOf history).length = history.length := by
  simp [entriesOf, numberedDecisions]

/-- The entries of a history have the numbers from one on. -/
theorem map_id_entriesOf (history : List Decision) :
    (entriesOf history).map Entry.id = (List.range' 1 history.length).map Int.ofNat := by
  have hsnd : (numberedDecisions history).map Prod.snd = List.range' 1 history.length :=
    List.map_snd_zip (by simp)
  rw [← hsnd, entriesOf, List.map_map, List.map_map]
  rfl

/-- The items of a history are numbered as its decisions are. -/
theorem numbered_map_item (history : List Decision) :
    Log.numbered (history.map Decision.item) = entriesOf history := by
  apply List.ext_getElem
  · simp [Log.numbered, entriesOf, numberedDecisions]
  · intro i hi hi'
    simp [Log.numbered, entriesOf, numberedDecisions, Item.entry, Decision.item, Decision.entry,
      Nat.add_comm]

/-- The entries on a document are those of the decisions on it, with the numbers that they have in
the whole history. -/
theorem filter_entriesOf (history : List Decision) (id : DocumentId) :
    (entriesOf history).filter (fun e => e.documentId = id.text) =
      ((numberedDecisions history).filter fun (d, _) => d.id = id).map
        fun (d, number) => d.entry number := by
  rw [entriesOf, List.filter_map]
  congr 2
  funext ⟨d, number⟩
  simp [Decision.entry]

namespace Log

/-- Records a decision. -/
def enter (log : Log) (d : Decision) : Except Error Log :=
  log.record d.action d.id d.fingerprint d.success d.details d.now

/-- The log after an operation. A refused one changes nothing, and a query never does. -/
def after (log : Log) : Operation → Log
  | .record d => match log.enter d with
    | .ok log => log
    | .error _ => log
  | .onDocument _ | .recent _ | .count => log

/-- The log after operations, one after the other. -/
def afterAll (log : Log) (ops : List Operation) : Log := ops.foldl after log

/-- The decision that an operation records, unless it is refused. -/
def recordedBy (log : Log) : Operation → List Decision
  | .record d => match log.enter d with
    | .ok _ => [d]
    | .error _ => []
  | .onDocument _ | .recent _ | .count => []

/-- The decisions that operations record, in the order of the calls. -/
def recorded : Log → List Operation → List Decision
  | _, [] => []
  | log, op :: ops => log.recordedBy op ++ recorded (log.after op) ops

theorem recorded_append (ops more : List Operation) : ∀ log : Log,
    log.recorded (ops ++ more) = log.recorded ops ++ (log.afterAll ops).recorded more := by
  induction ops with
  | nil => exact fun _ => rfl
  | cons op ops ih =>
    intro log
    rw [List.cons_append, recorded, ih, recorded, List.append_assoc]
    rfl

/-- The log holds what was recorded, and nothing else. -/
def Holds (log : Log) (history : List Decision) : Prop :=
  log.items = some (history.map Decision.item)

theorem holds_empty : Log.empty.Holds [] := rfl

/-- A log that has its table records every decision. -/
theorem Holds.enter_eq {log : Log} {history : List Decision} (h : log.Holds history)
    (d : Decision) : log.enter d = .ok ⟨some (history.map Decision.item ++ [d.item])⟩ := by
  unfold Holds at h
  simp only [enter, record, ask, h]
  rfl

/-- An operation adds to the log what it records. -/
theorem Holds.after {log : Log} {history : List Decision} (h : log.Holds history)
    (op : Operation) : (log.after op).Holds (history ++ log.recordedBy op) := by
  cases op with
  | record d =>
    simp only [Log.after, recordedBy, h.enter_eq d]
    simp [Holds]
  | onDocument | recent | count => simpa only [Log.after, recordedBy, List.append_nil] using h

theorem Holds.recordedBy_eq {log : Log} {history : List Decision} (h : log.Holds history)
    (op : Operation) : log.recordedBy op = op.decision?.toList := by
  cases op with
  | record d =>
    simp only [recordedBy, h.enter_eq d]
    rfl
  | onDocument | recent | count => rfl

theorem Holds.afterAll {ops : List Operation} : ∀ {log : Log} {history : List Decision},
    log.Holds history → (log.afterAll ops).Holds (history ++ log.recorded ops) := by
  induction ops with
  | nil => simp [Log.afterAll, recorded]
  | cons op ops ih =>
    intro log history h
    have hnext := ih (h.after op)
    rwa [List.append_assoc] at hnext

/-! ## Views of the history -/

section Views

variable {log : Log} {history : List Decision}

theorem Holds.ask_eq {α : Type} (h : log.Holds history) (f : List Item → α) :
    log.ask f = .ok (f (history.map Decision.item)) := by
  unfold Holds at h
  simp only [ask, h]

/-- The queries give the entries of a history: all of them, how many there are, the last ones
backwards, and those on a document. -/
structure Shows (log : Log) (history : List Decision) : Prop where
  entries : log.entries = .ok (entriesOf history)
  ids : (entriesOf history).map Entry.id = (List.range' 1 history.length).map Int.ofNat
  count : log.count = .ok history.length
  recent : ∀ limit, log.recent limit =
    .ok ((entriesOf history).drop (history.length - min limit history.length)).reverse
  onDocument : ∀ id, log.onDocument id =
    .ok (((numberedDecisions history).filter fun (d, _) => d.id = id).map
      fun (d, number) => d.entry number)

theorem Holds.shows (h : log.Holds history) : log.Shows history where
  entries := by rw [entries, h.ask_eq, numbered_map_item]
  ids := map_id_entriesOf history
  count := by rw [count, h.ask_eq, List.length_map]
  recent limit := by
    have hlimit : history.length - min limit history.length = history.length - limit := by omega
    rw [recent, h.ask_eq, numbered_map_item, List.take_reverse, length_entriesOf, hlimit]
  onDocument id := by rw [onDocument, h.ask_eq, numbered_map_item, filter_entriesOf]

/-- All entries, read backwards and sorted out, are the entries on a document. -/
theorem Shows.onDocument_eq (h : log.Shows history) (id : DocumentId) :
    ∃ all, log.recent history.length = .ok all ∧
      log.onDocument id = .ok (all.reverse.filter fun e => e.documentId = id.text) := by
  refine ⟨(entriesOf history).reverse, ?_, ?_⟩
  · rw [h.recent, Nat.min_self, Nat.sub_self, List.drop_zero]
  · rw [h.onDocument, List.reverse_reverse, filter_entriesOf]

end Views

/-- A log that has its table records all decisions, in the order of the calls. -/
theorem Holds.recorded_eq (ops : List Operation) : ∀ {log : Log} {history : List Decision},
    log.Holds history → log.recorded ops = ops.filterMap Operation.decision? := by
  induction ops with
  | nil => exact fun _ => rfl
  | cons op ops ih =>
    intro log history h
    rw [recorded, h.recordedBy_eq, ih (h.after op)]
    cases op <;> rfl

/-- **The log is one history, seen in several ways.** Whatever is recorded and asked, starting with
a new log: the history is that of the decisions in the order of the calls, it only ever grows at its
end, and all queries show it. -/
theorem shows_history (ops : List Operation) :
    let history := empty.recorded ops
    let log := empty.afterAll ops
    history = ops.filterMap Operation.decision? ∧
      (∀ k n, empty.recorded (ops.take k) <+: empty.recorded (ops.take (k + n))) ∧
      log.Shows history ∧
      (∀ id, ∃ all, log.recent history.length = .ok all ∧
        log.onDocument id = .ok (all.reverse.filter fun e => e.documentId = id.text)) ∧
      ∀ op, op.decision? = none →
        empty.recorded (ops ++ [op]) = history ∧ empty.afterAll (ops ++ [op]) = log := by
  have hshows : (empty.afterAll ops).Shows (empty.recorded ops) := holds_empty.afterAll.shows
  refine ⟨holds_empty.recorded_eq ops, ?_, hshows, hshows.onDocument_eq, ?_⟩
  · intro k n
    rw [List.take_add, recorded_append]
    exact List.prefix_append _ _
  · intro op hquery
    have hlog : empty.afterAll (ops ++ [op]) = (empty.afterAll ops).after op := by
      simp [afterAll, List.foldl_append]
    rw [recorded_append, hlog]
    cases op with
    | record d => cases hquery
    | onDocument | recent | count => exact ⟨List.append_nil _, rfl⟩

end Log

end IdentityDocs.Audit
