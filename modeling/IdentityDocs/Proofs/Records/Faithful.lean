import IdentityDocs.Proofs.Records.Encoding
import IdentityDocs.Proofs.Records.Reachable

/-!
# The store keeps records

The operations of the store are about rows of text. Here they are told once more as operations on
records: `Operation.onRecord` says what one makes of the record of a document, by its status and not
by a text. `Store.rowsOf_effect` is the step of the comparison: the rows of a document are the row
of its record, before an operation and after it. A reader who asks for the document gets the record.
-/

namespace IdentityDocs

/-! ## Operations on records -/

namespace DocumentRecord

/-- The record after an attempt to mark it: a decision stays. -/
def marked (now : Instant) (r : DocumentRecord) : DocumentRecord :=
  match r.status with
  | .processing | .pending => { r with status := .processing, updatedAt := now }
  | .verified | .rejected => r

/-- The record after an attempt to store the result of an analysis: only a document that is being
analysed takes it. -/
def analysed (result : AnalysisResult) (now : Instant) (r : DocumentRecord) : DocumentRecord :=
  match r.status with
  | .processing =>
    { r with
      status := result.status
      confidence := result.confidence
      extractedData := some result.extractedData
      comments := Table.storedNotes result
      updatedAt := now }
  | .pending | .verified | .rejected => r

/-- The record after a review: a document that is being analysed takes none. -/
def reviewed (status : VerificationStatus) (comments : Option String) (now : Instant)
    (r : DocumentRecord) : DocumentRecord :=
  match r.status with
  | .processing => r
  | .pending | .verified | .rejected => { r with status, comments, updatedAt := now }

@[simp] theorem createdAt_marked (now : Instant) (r : DocumentRecord) :
    (r.marked now).createdAt = r.createdAt := by
  unfold marked
  split <;> rfl

@[simp] theorem createdAt_analysed (result : AnalysisResult) (now : Instant)
    (r : DocumentRecord) : (r.analysed result now).createdAt = r.createdAt := by
  unfold analysed
  split <;> rfl

@[simp] theorem createdAt_reviewed (status : VerificationStatus) (comments : Option String)
    (now : Instant) (r : DocumentRecord) :
    (r.reviewed status comments now).createdAt = r.createdAt := by
  unfold reviewed
  split <;> rfl

end DocumentRecord

namespace Row

theorem marked_ofRecord (now : Instant) (r : DocumentRecord) :
    (ofRecord r).marked now = ofRecord (r.marked now) := by
  unfold marked DocumentRecord.marked
  cases hstatus : r.status with
  | processing | pending =>
    rw [if_pos (admits_ofRecord.2 (by simp [hstatus]))]
    rfl
  | verified | rejected => rw [if_neg (by simp [admits_ofRecord, hstatus])]

theorem analysed_ofRecord (result : AnalysisResult) (now : Instant) (r : DocumentRecord) :
    (ofRecord r).analysed result now = ofRecord (r.analysed result now) := by
  unfold analysed DocumentRecord.analysed
  cases hstatus : r.status with
  | processing =>
    rw [if_pos (admits_ofRecord.2 (by simp [hstatus]))]
    rfl
  | pending | verified | rejected => rw [if_neg (by simp [admits_ofRecord, hstatus])]

theorem reviewed_ofRecord (status : VerificationStatus) (comments : Option String)
    (now : Instant) (r : DocumentRecord) :
    (ofRecord r).reviewed status comments now = ofRecord (r.reviewed status comments now) := by
  unfold reviewed DocumentRecord.reviewed
  cases hstatus : r.status with
  | processing => rw [if_pos (admits_ofRecord.2 (by simp [hstatus]))]
  | pending | verified | rejected =>
    rw [if_neg (by simp [admits_ofRecord, hstatus])]
    rfl

end Row

theorem Table.has_eq (t : Table) (id : DocumentId) : t.has id = !(t.rowsOf id.text).isEmpty := by
  rw [Bool.eq_iff_iff, has_iff]
  simp [rowsOf]

namespace Store

/-- What an operation makes of the record of a document, if the document has one. -/
def Operation.onRecord (id : DocumentId) (op : Operation) (r? : Option DocumentRecord) :
    Option DocumentRecord :=
  match op with
  | insert r => if r.id = id ∧ r.confidence.isNaN = false then r?.or (some r) else r?
  | mark other now => if other = id then r?.map (·.marked now) else r?
  | update other result now =>
    if other = id ∧ result.confidence.isNaN = false then r?.map (·.analysed result now) else r?
  | review other status comments now =>
    if other = id ∧ Table.isDecision status = true then r?.map (·.reviewed status comments now)
    else r?
  | delete other => if other = id then none else r?
  | get _ | all | ofOwner _ | reviewQueue => r?

/-- The record of a document after a history that began with no documents. -/
def recordAfter (id : DocumentId) (ops : List Operation) : Option DocumentRecord :=
  ops.foldl (fun r? op => op.onRecord id r?) none

theorem recordAfter_append_singleton (id : DocumentId) (ops : List Operation) (op : Operation) :
    recordAfter id (ops ++ [op]) = op.onRecord id (recordAfter id ops) := by
  rw [recordAfter, List.foldl_append]
  rfl

/-- What an operation may make of the record of a document. -/
inductive Operation.Makes (id : DocumentId) :
    Operation → Option DocumentRecord → DocumentRecord → Prop
  | keep (op : Operation) (r : DocumentRecord) : Makes id op (some r) r
  | enter (r : DocumentRecord) (hid : r.id = id) (hr : r.confidence.isNaN = false) :
    Makes id (.insert r) none r
  | mark (old : DocumentRecord) (now : Instant) :
    Makes id (.mark id now) (some old) (old.marked now)
  | update (old : DocumentRecord) (result : AnalysisResult) (now : Instant)
    (hresult : result.confidence.isNaN = false) :
    Makes id (.update id result now) (some old) (old.analysed result now)
  | review (old : DocumentRecord) (status : VerificationStatus) (comments : Option String)
    (now : Instant) (hdec : Table.isDecision status = true) :
    Makes id (.review id status comments now) (some old) (old.reviewed status comments now)

theorem Operation.makes_of_onRecord {op : Operation} {id : DocumentId}
    {r? : Option DocumentRecord} {r : DocumentRecord} (h : op.onRecord id r? = some r) :
    op.Makes id r? r := by
  have hkeep : r? = some r → op.Makes id r? r := by
    rintro rfl
    exact .keep op r
  cases op with
  | insert new =>
    simp only [onRecord] at h
    split at h
    case isFalse => exact hkeep h
    case isTrue hnew =>
      cases r? with
      | some old => exact hkeep h
      | none =>
        obtain rfl : new = r := Option.some_inj.1 h
        exact .enter new hnew.1 hnew.2
  | mark other now =>
    simp only [onRecord] at h
    split at h
    case isFalse => exact hkeep h
    case isTrue hid =>
      obtain ⟨old, rfl, rfl⟩ := Option.map_eq_some_iff.1 h
      exact hid ▸ .mark old now
  | update other result now =>
    simp only [onRecord] at h
    split at h
    case isFalse => exact hkeep h
    case isTrue hresult =>
      obtain ⟨old, rfl, rfl⟩ := Option.map_eq_some_iff.1 h
      exact hresult.1 ▸ .update old result now hresult.2
  | review other status comments now =>
    simp only [onRecord] at h
    split at h
    case isFalse => exact hkeep h
    case isTrue hdec =>
      obtain ⟨old, rfl, rfl⟩ := Option.map_eq_some_iff.1 h
      exact hdec.1 ▸ .review old status comments now hdec.2
  | delete other =>
    simp only [onRecord] at h
    split at h
    case isFalse => exact hkeep h
    case isTrue => cases h
  | get | all | ofOwner | reviewQueue => exact hkeep h

/-! ## The rows of a document -/

/-- An operation on other documents does nothing to the record. -/
theorem Operation.onRecord_of_ne {op : Operation} {id : DocumentId}
    (h : op.target? ≠ some id) (r? : Option DocumentRecord) : op.onRecord id r? = r? := by
  cases op with
  | insert r =>
    have hne : r.id ≠ id := fun heq => h (congrArg some heq)
    simp [onRecord, hne]
  | mark other now | update other result now | review other status comments now | delete other =>
    have hne : other ≠ id := fun heq => h (congrArg some heq)
    simp [onRecord, hne]
  | get | all | ofOwner | reviewQueue => rfl

/-- A change of rows that is a change of records turns the row of a record into one. -/
theorem rowsOf_onDocument_ofRecord {t : Table} {id : DocumentId} {r? : Option DocumentRecord}
    (ht : t.rowsOf id.text = r?.toList.map Row.ofRecord) {change : Row → Row}
    {change' : DocumentRecord → DocumentRecord} (hid : ∀ row, (change row).id = row.id)
    (hchange : ∀ r, change (.ofRecord r) = .ofRecord (change' r)) :
    (t.onDocument id.text change).rowsOf id.text =
      (r?.map change').toList.map Row.ofRecord := by
  rw [Table.rowsOf_onDocument hid, ht]
  cases r? with
  | none => rfl
  | some r => simp [hchange]

theorem rowsOf_effect_insert {t : Table} {r : DocumentRecord} {r? : Option DocumentRecord}
    (ht : t.rowsOf r.id.text = r?.toList.map Row.ofRecord) :
    ((Operation.insert r).effect t).rowsOf r.id.text =
      ((Operation.insert r).onRecord r.id r?).toList.map Row.ofRecord := by
  have hhas : t.has r.id = r?.isSome := by
    rw [Table.has_eq, ht]
    cases r? <;> rfl
  by_cases hnum : r.confidence.isNaN = false
  case neg =>
    have hnan : r.confidence.isNaN = true := Bool.eq_true_of_not_eq_false hnum
    have heffect : (Operation.insert r).effect t = t := if_pos (by rw [hnan, Bool.true_or])
    have hrecord : (Operation.insert r).onRecord r.id r? = r? := if_neg fun h => hnum h.2
    rw [heffect, hrecord, ht]
  case pos =>
    have hrecord : (Operation.insert r).onRecord r.id r? = r?.or (some r) := if_pos ⟨rfl, hnum⟩
    rw [hrecord]
    cases r? with
    | some old =>
      -- the identifier is taken, and the record that has it stays
      have heffect : (Operation.insert r).effect t = t :=
        if_pos (by rw [hhas, Option.isSome_some, Bool.or_true])
      rw [heffect, ht]
      rfl
    | none =>
      have heffect : (Operation.insert r).effect t = t ++ [.ofRecord r] :=
        if_neg (by rw [hnum, hhas]; exact Bool.false_ne_true)
      rw [heffect, Table.rowsOf, List.filter_append, ← Table.rowsOf, ht]
      simp [Row.ofRecord]

/-- The rows of a document are the row of its record before an operation and after it. -/
theorem rowsOf_effect {t : Table} {id : DocumentId} {r? : Option DocumentRecord}
    (ht : t.rowsOf id.text = r?.toList.map Row.ofRecord) (op : Operation) :
    (op.effect t).rowsOf id.text = (op.onRecord id r?).toList.map Row.ofRecord := by
  by_cases htarget : op.target? = some id
  case neg =>
    rw [Operation.onRecord_of_ne htarget, ← ht]
    refine rowsOf_effect_of_ne op t fun other hother htext => htarget ?_
    rw [hother, DocumentId.text_injective htext]
  cases op with
  | insert r =>
    obtain rfl : r.id = id := Option.some_inj.1 htarget
    exact rowsOf_effect_insert ht
  | mark other now =>
    obtain rfl : other = id := Option.some_inj.1 htarget
    simp only [Operation.effect, Operation.onRecord, if_true]
    exact rowsOf_onDocument_ofRecord ht (Row.id_marked now) (Row.marked_ofRecord now)
  | update other r now =>
    obtain rfl : other = id := Option.some_inj.1 htarget
    cases hnan : r.confidence.isNaN with
    | true =>
      have heffect : (Operation.update other r now).effect t = t := if_pos hnan
      have hrecord : (Operation.update other r now).onRecord other r? = r? :=
        if_neg fun h => Bool.false_ne_true (h.2.symm.trans hnan)
      rw [heffect, hrecord, ht]
    | false =>
      simp only [Operation.effect, Operation.onRecord, hnan, and_self, if_true, if_false,
        Bool.false_eq_true]
      exact rowsOf_onDocument_ofRecord ht (Row.id_analysed r now) (Row.analysed_ofRecord r now)
  | review other status comments now =>
    obtain rfl : other = id := Option.some_inj.1 htarget
    cases hdec : Table.isDecision status with
    | false => simpa [Operation.effect, Operation.onRecord, hdec] using ht
    | true =>
      simp only [Operation.effect, Operation.onRecord, hdec, and_self, if_true]
      exact rowsOf_onDocument_ofRecord ht (Row.id_reviewed status comments now)
        (Row.reviewed_ofRecord status comments now)
  | delete other =>
    obtain rfl : other = id := Option.some_inj.1 htarget
    simp [Operation.effect, Operation.onRecord, Table.delete, Table.rowsOf, List.filter_filter]
  | get | all | ofOwner | reviewQueue => exact absurd htarget (by simp [Operation.target?])

/-! ## Histories -/

/-- The times that an operation brings lie in the years that a stamp can hold. -/
def Operation.Dated : Operation → Prop
  | insert r => r.Dated
  | mark _ now | update _ _ now | review _ _ _ now => now.Dated
  | delete _ | get _ | all | ofOwner _ | reviewQueue => True

/-- A record as the store may keep it for a document. -/
structure Keeps (id : DocumentId) (r : DocumentRecord) : Prop where
  id_eq : r.id = id
  dated : r.Dated
  isNaN_eq : r.confidence.isNaN = false

namespace Keeps

variable {id : DocumentId} {r : DocumentRecord} {now : Instant}

theorem marked (h : Keeps id r) (hnow : now.Dated) : Keeps id (r.marked now) := by
  unfold DocumentRecord.marked
  split
  · exact ⟨h.id_eq, ⟨h.dated.createdAt, hnow⟩, h.isNaN_eq⟩
  · exact ⟨h.id_eq, ⟨h.dated.createdAt, hnow⟩, h.isNaN_eq⟩
  · exact h
  · exact h

theorem analysed (h : Keeps id r) {result : AnalysisResult}
    (hresult : result.confidence.isNaN = false) (hnow : now.Dated) :
    Keeps id (r.analysed result now) := by
  unfold DocumentRecord.analysed
  split
  · exact ⟨h.id_eq, ⟨h.dated.createdAt, hnow⟩, hresult⟩
  · exact h
  · exact h
  · exact h

theorem reviewed (h : Keeps id r) (status : VerificationStatus) (comments : Option String)
    (hnow : now.Dated) : Keeps id (r.reviewed status comments now) := by
  unfold DocumentRecord.reviewed
  split
  · exact h
  · exact ⟨h.id_eq, ⟨h.dated.createdAt, hnow⟩, h.isNaN_eq⟩
  · exact ⟨h.id_eq, ⟨h.dated.createdAt, hnow⟩, h.isNaN_eq⟩
  · exact ⟨h.id_eq, ⟨h.dated.createdAt, hnow⟩, h.isNaN_eq⟩

end Keeps

theorem Operation.keeps_onRecord {op : Operation} (hop : op.Dated) {id : DocumentId}
    {r? : Option DocumentRecord} (h : ∀ r ∈ r?, Keeps id r) :
    ∀ r ∈ op.onRecord id r?, Keeps id r := by
  intro r hr
  cases makes_of_onRecord hr with
  | keep => exact h r rfl
  | enter r hid hnum => exact ⟨hid, hop, hnum⟩
  | mark old now => exact (h old rfl).marked hop
  | update old result now hresult => exact (h old rfl).analysed hresult hop
  | review old status comments now => exact (h old rfl).reviewed status comments hop

/-- The record of a document is one that the store may keep. -/
theorem keeps_recordAfter {ops : List Operation} (hops : ∀ op ∈ ops, op.Dated)
    {id : DocumentId} : ∀ r ∈ recordAfter id ops, Keeps id r := by
  induction ops using List.reverseRecOn with
  | nil => simp [recordAfter]
  | append_singleton ops op ih =>
    rw [recordAfter_append_singleton]
    refine Operation.keeps_onRecord (hops op (by simp)) (ih fun other hother => hops other ?_)
    exact List.mem_append_left _ hother

/-- The rows of an effect are those of records that are entered and those of documents that had
rows. -/
theorem id_of_mem_effect {op : Operation} {t : Table} {row : Row} (h : row ∈ op.effect t) :
    (∃ r : DocumentRecord, row = .ofRecord r) ∨ ∃ old ∈ t, old.id = row.id := by
  have honDocument : ∀ {key : String} {change : Row → Row}, (∀ row, (change row).id = row.id) →
      row ∈ t.onDocument key change → ∃ old ∈ t, old.id = row.id := by
    intro key change hid hrow
    obtain ⟨old, hold, ⟨-, rfl⟩ | ⟨-, rfl⟩⟩ := Table.mem_onDocument hrow
    · exact ⟨old, hold, (hid old).symm⟩
    · exact ⟨row, hold, rfl⟩
  cases op with
  | insert r =>
    simp only [Operation.effect] at h
    split at h
    · exact .inr ⟨row, h, rfl⟩
    · rcases List.mem_append.1 h with h | h
      · exact .inr ⟨row, h, rfl⟩
      · exact .inl ⟨r, List.mem_singleton.1 h⟩
  | mark id now => exact .inr (honDocument (Row.id_marked now) h)
  | update id r now =>
    simp only [Operation.effect] at h
    split at h
    · exact .inr ⟨row, h, rfl⟩
    · exact .inr (honDocument (Row.id_analysed r now) h)
  | review id status comments now =>
    simp only [Operation.effect] at h
    split at h
    · exact .inr (honDocument (Row.id_reviewed status comments now) h)
    · exact .inr ⟨row, h, rfl⟩
  | delete id => exact .inr ⟨row, (List.mem_filter.1 h).1, rfl⟩
  | get | all | ofOwner | reviewQueue => exact .inr ⟨row, h, rfl⟩

/-- A table holds records: the rows of a document are the row of its record, and there are no other
rows. -/
structure Holds (t : Table) (records : DocumentId → Option DocumentRecord) : Prop where
  rowsOf_eq : ∀ id, t.rowsOf id.text = (records id).toList.map Row.ofRecord
  exists_id : ∀ row ∈ t, ∃ id : DocumentId, row.id = id.text

namespace Holds

variable {t : Table} {records : DocumentId → Option DocumentRecord}

theorem effect (h : Holds t records) (op : Operation) :
    Holds (op.effect t) fun id => op.onRecord id (records id) where
  rowsOf_eq id := rowsOf_effect (h.rowsOf_eq id) op
  exists_id row hrow := by
    rcases id_of_mem_effect hrow with ⟨r, rfl⟩ | ⟨old, hold, hid⟩
    · exact ⟨r.id, rfl⟩
    · rw [← hid]
      exact h.exists_id old hold

/-- Every row is the row of the record of a document. -/
theorem exists_record (h : Holds t records) {row : Row} (hrow : row ∈ t) :
    ∃ id r, records id = some r ∧ row = .ofRecord r := by
  obtain ⟨id, hid⟩ := h.exists_id row hrow
  have hmem : row ∈ t.rowsOf id.text := Table.mem_rowsOf.2 ⟨hrow, hid⟩
  rw [h.rowsOf_eq id] at hmem
  obtain ⟨r, hr, rfl⟩ := List.mem_map.1 hmem
  exact ⟨id, r, Option.mem_toList.1 hr, rfl⟩

/-- A reader who asks for a document gets its record. -/
theorem get?_eq (h : Holds t records) (hdated : ∀ id, ∀ r ∈ records id, r.Dated)
    (id : DocumentId) : t.get? id = .ok ((records id).map DocumentRecord.stored) := by
  have hread : Table.records (t.rowsOf id.text) =
      .ok ((records id).toList.map DocumentRecord.stored) := by
    rw [h.rowsOf_eq id]
    exact Table.records_map_ofRecord fun r hr => hdated id r (Option.mem_toList.1 hr)
  have hget : t.get? id = .ok ((records id).toList.map DocumentRecord.stored).getLast? := by
    unfold Table.get?
    rw [← Table.rowsOf, hread]
  rw [hget]
  cases records id <;> rfl

end Holds

/-- After a history the table holds the records that the history makes. -/
theorem holds_afterAll (ops : List Operation) :
    ∃ t, (empty.afterAll ops).table = some t ∧ Holds t fun id => recordAfter id ops := by
  induction ops using List.reverseRecOn with
  | nil => exact ⟨[], rfl, ⟨fun _ => rfl, fun _ hrow => absurd hrow List.not_mem_nil⟩⟩
  | append_singleton ops op ih =>
    obtain ⟨t, ht, hholds⟩ := ih
    refine ⟨op.effect t, ?_, ?_⟩
    · rw [← afterAll_after, table_after, ht]
      rfl
    · simp only [recordAfter_append_singleton]
      exact hholds.effect op

/-- The rows of a document after a history are the row of the record that the history makes. -/
theorem rowsOf_afterAll (ops : List Operation) (id : DocumentId) :
    (empty.afterAll ops).rowsOf id = (recordAfter id ops).toList.map Row.ofRecord := by
  obtain ⟨t, ht, hholds⟩ := holds_afterAll ops
  rw [rowsOf_of_some ht, hholds.rowsOf_eq]

/-- A reader who asks for a document after a history gets the record that the history makes. -/
theorem get?_afterAll {ops : List Operation} (hops : ∀ op ∈ ops, op.Dated) (id : DocumentId) :
    (empty.afterAll ops).get? id = .ok ((recordAfter id ops).map DocumentRecord.stored) := by
  obtain ⟨t, ht, hholds⟩ := holds_afterAll ops
  rw [get?, ask, ht]
  exact hholds.get?_eq (fun id r hr => (keeps_recordAfter hops r hr).dated) id

/-- **Rows encode records.** After any history whose times lie in the years 0 to 9999, a reader gets
of each document exactly the record that the operations make of it, and no record of a document
that has none. The confidence that is read is the same number. Every row is readable, and a guard
admits it just if it admits the status that a reader finds in it. -/
theorem rows_encode_records {ops : List Operation} (hops : ∀ op ∈ ops, op.Dated) :
    (∀ id, (empty.afterAll ops).get? id =
      .ok ((recordAfter id ops).map DocumentRecord.stored)) ∧
    (∀ id, ∀ r ∈ recordAfter id ops,
      r.id = id ∧ (r.stored.confidence == r.confidence) = true) ∧
    ∃ t, (empty.afterAll ops).table = some t ∧ ∀ row ∈ t, ∃ r, row.record = .ok r ∧
      ∀ statuses, Table.admits statuses row = true ↔ r.status ∈ statuses := by
  obtain ⟨t, ht, hholds⟩ := holds_afterAll ops
  refine ⟨get?_afterAll hops, fun id r hr => ?_, t, ht, fun row hrow => ?_⟩
  · have hkeeps : Keeps id r := keeps_recordAfter hops r hr
    exact ⟨hkeeps.id_eq, Row.storedNumber_beq hkeeps.isNaN_eq⟩
  · obtain ⟨id, r, hr, rfl⟩ := hholds.exists_record hrow
    have hdated : r.Dated := (keeps_recordAfter hops r hr).dated
    exact ⟨r.stored, Row.record_ofRecord hdated, fun statuses => Row.admits_ofRecord⟩

/-! ### A record of odd texts -/

/-- A record with quotes, escapes and control characters in its texts, a zero with a sign, and the
first and the last second that can be stored, which is a leap second. -/
def oddRecord : DocumentRecord where
  id := sampleId
  owner := "\"Zo\u00eb\"\\\u0000\n"
  kind := .idProof
  path := .ofText "scans/\u00fc.jpg"
  uploadName := ""
  mimeType := some "image/jpeg\u001b"
  status := .pending
  confidence := -0.0
  extractedData := some ((TextMap.empty.insert "b\"" "\u0008\ufffd").insert "a\\" "\u007f")
  comments := none
  createdAt := ⟨-62167219200, 1⟩
  updatedAt := ⟨253402300799, 1999999999⟩

/-- An analysis, a review, a late result, and a second document that comes and goes. -/
def oddHistory : List Operation :=
  [.insert oddRecord, .mark sampleId ⟨0, 120⟩,
    .update sampleId (.failed "no\ttext") ⟨1, 500000000⟩,
    .review sampleId .rejected (some "forged\u0001") ⟨2, 0⟩,
    .update sampleId (.failed "late") ⟨3, 0⟩,
    .insert { oddRecord with id := otherId }, .delete otherId]

/-- The odd record is read back as the operations left it. -/
theorem oddRecord_read_back :
    (∀ op ∈ oddHistory, op.Dated) ∧
      (∃ r, recordAfter sampleId oddHistory = some r ∧
        r.owner = oddRecord.owner ∧ r.status = .rejected ∧ r.comments = some "forged\u0001" ∧
        (empty.afterAll oddHistory).get? sampleId = .ok (some r.stored)) ∧
      (empty.afterAll oddHistory).get? otherId = .ok none := by
  have hrecord : oddRecord.Dated :=
    ⟨⟨by decide, by decide, by decide⟩, ⟨by decide, by decide, by decide⟩⟩
  have hdated : ∀ op ∈ oddHistory, op.Dated := by
    simp only [oddHistory, List.mem_cons, List.not_mem_nil, or_false]
    rintro op (rfl | rfl | rfl | rfl | rfl | rfl | rfl)
    · exact hrecord
    · exact ⟨by decide, by decide, by decide⟩
    · exact ⟨by decide, by decide, by decide⟩
    · exact ⟨by decide, by decide, by decide⟩
    · exact ⟨by decide, by decide, by decide⟩
    · exact ⟨hrecord.createdAt, hrecord.updatedAt⟩
    · trivial
  have hget := (rows_encode_records hdated).1
  exact ⟨hdated, ⟨_, rfl, rfl, rfl, rfl, hget sampleId⟩, hget otherId⟩

end Store

end IdentityDocs
