import IdentityDocs.Proofs.Records.Failure
import IdentityDocs.Proofs.Records.Faithful

/-!
# How the status of a document changes

The status of a document changes along a graph, and for each arrow there is one operation that takes
it. An analysis is begun on a pending document; it ends in `pending` or `verified`; and a reviewer
verifies or rejects a document that is not being analysed, again if need be. So no analysis rejects,
and a decision is followed by nothing but decisions. `Operation.Makes.moves` is the step of the
record of one document; the histories follow by induction.
-/

namespace IdentityDocs

/-- An analysis verifies a document or leaves it to a reviewer. -/
theorem AnalysisResult.status_eq (r : AnalysisResult) :
    r.status = .pending ∨ r.status = .verified := by
  unfold status
  cases r.verdict with
  | pending => exact .inl rfl
  | verified => exact .inr rfl

theorem Table.isDecision_iff {status : VerificationStatus} :
    isDecision status = true ↔ status = .verified ∨ status = .rejected := by
  simp [isDecision]

/-- A reader finds in the row of a record the status of the record. -/
theorem Row.standing?_ofRecord (r : DocumentRecord) :
    (Row.ofRecord r).standing? = some r.status :=
  standing?_eq rfl

namespace Store

/-- The arrows of the graph of statuses, each with the operation that takes it. -/
inductive Operation.Moves (id : DocumentId) :
    Operation → VerificationStatus → VerificationStatus → Prop
  | begin (now : Instant) : Moves id (.mark id now) .pending .processing
  | leave {r : AnalysisResult} (now : Instant) (hr : r.status = .pending) :
    Moves id (.update id r now) .processing .pending
  | verify {r : AnalysisResult} (now : Instant) (hr : r.status = .verified) :
    Moves id (.update id r now) .processing .verified
  | decide {a b : VerificationStatus} (comments : Option String) (now : Instant)
    (ha : a = .pending ∨ a = .verified ∨ a = .rejected) (hb : b = .verified ∨ b = .rejected) :
    Moves id (.review id b comments now) a b

/-- The operations of an analysis of a document. -/
def Operation.Analyses (id : DocumentId) : Operation → Prop
  | mark other _ | update other _ _ => other = id
  | _ => False

namespace Operation.Moves

variable {op : Operation} {id : DocumentId} {a b : VerificationStatus}

/-- No analysis rejects. -/
theorem ne_rejected (h : op.Moves id a b) (hop : op.Analyses id) : b ≠ .rejected := by
  cases h with
  | begin | leave | verify => exact VerificationStatus.noConfusion
  | decide => exact hop.elim

/-- A decision is followed by nothing but a decision. -/
theorem isDecision (h : op.Moves id a b) (ha : Table.isDecision a = true) :
    Table.isDecision b = true := by
  cases h with
  | begin | leave | verify => exact absurd ha (by decide)
  | decide comments now _ hb => exact Table.isDecision_iff.2 hb

end Operation.Moves

/-- An operation keeps the status of a record or takes an arrow of the graph. -/
theorem Operation.Makes.moves {op : Operation} {id : DocumentId} {old r : DocumentRecord}
    (h : op.Makes id (some old) r) :
    r.status = old.status ∨ op.Moves id old.status r.status := by
  cases h with
  | keep => exact .inl rfl
  | mark _ now =>
    unfold DocumentRecord.marked
    cases hold : old.status with
    | processing => exact .inl rfl
    | pending => exact .inr (.begin now)
    | verified | rejected => exact .inl hold
  | update _ result now hresult =>
    unfold DocumentRecord.analysed
    cases hold : old.status with
    | processing =>
      right
      simp only
      rcases result.status_eq with hstatus | hstatus
      · rw [hstatus]
        exact .leave now hstatus
      · rw [hstatus]
        exact .verify now hstatus
    | pending | verified | rejected => exact .inl hold
  | review _ status comments now hdec =>
    have hto := Table.isDecision_iff.1 hdec
    unfold DocumentRecord.reviewed
    cases hold : old.status with
    | processing => exact .inl hold
    | pending => exact .inr (.decide comments now (.inl rfl) hto)
    | verified => exact .inr (.decide comments now (.inr (.inl rfl)) hto)
    | rejected => exact .inr (.decide comments now (.inr (.inr rfl)) hto)

/-- An analysis leaves a decided record as it is. -/
theorem Operation.Makes.eq_of_decision {op : Operation} {id : DocumentId}
    {old r : DocumentRecord} (h : op.Makes id (some old) r) (hop : op.Analyses id)
    (hold : Table.isDecision old.status = true) : r = old := by
  rw [Table.isDecision_iff] at hold
  cases h with
  | keep => rfl
  | review => exact hop.elim
  | mark _ now =>
    unfold DocumentRecord.marked
    rcases hold with hold | hold <;> rw [hold]
  | update _ result now hresult =>
    unfold DocumentRecord.analysed
    rcases hold with hold | hold <;> rw [hold]

/-- An analysis that leaves a rejected record found that record. -/
theorem Operation.Makes.eq_of_rejected {op : Operation} {id : DocumentId}
    {r? : Option DocumentRecord} {r : DocumentRecord} (h : op.Makes id r? r)
    (hop : op.Analyses id) (hr : r.status = .rejected) : r? = some r := by
  cases r? with
  | none =>
    cases h with
    | enter => exact hop.elim
  | some old =>
    rcases h.moves with hsame | hmoves
    · rw [hsame] at hr
      rw [h.eq_of_decision hop (Table.isDecision_iff.2 (.inr hr))]
    · exact absurd hr (hmoves.ne_rejected hop)

/-- Nothing but a deletion ends a decision on a document. -/
theorem Operation.exists_onRecord_of_decision {op : Operation} {id : DocumentId}
    {old : DocumentRecord} (hop : op ≠ .delete id) (hold : Table.isDecision old.status = true) :
    ∃ r, op.onRecord id (some old) = some r ∧ Table.isDecision r.status = true := by
  have hsome : ∃ r, op.onRecord id (some old) = some r := by
    cases op with
    | delete other =>
      have hne : other ≠ id := fun heq => hop (heq ▸ rfl)
      exact ⟨old, if_neg hne⟩
    | insert | mark | update | review =>
      simp only [onRecord]
      split <;> exact ⟨_, rfl⟩
    | get | all | ofOwner | reviewQueue => exact ⟨old, rfl⟩
  obtain ⟨r, hr⟩ := hsome
  refine ⟨r, hr, ?_⟩
  rcases (makes_of_onRecord hr).moves with hsame | hmoves
  · rw [hsame, hold]
  · exact hmoves.isDecision hold

/-- In a history that does not delete the document, a decision is followed by decisions only. -/
theorem exists_recordAfter_append_of_decision {id : DocumentId} {ops more : List Operation}
    {old : DocumentRecord} (hmore : ∀ op ∈ more, op ≠ .delete id)
    (hrecord : recordAfter id ops = some old) (hold : Table.isDecision old.status = true) :
    ∃ r, recordAfter id (ops ++ more) = some r ∧ Table.isDecision r.status = true := by
  -- by the last operation, as a record is followed from the first one on
  induction more using List.reverseRecOn with
  | nil => exact ⟨old, by rwa [List.append_nil], hold⟩
  | append_singleton more op ih =>
    obtain ⟨r, hr, hdec⟩ := ih fun other hother => hmore other (List.mem_append_left _ hother)
    rw [← List.append_assoc, recordAfter_append_singleton, hr]
    exact Operation.exists_onRecord_of_decision (hmore op (by simp)) hdec

/-! ## Reachable stores -/

theorem mem_rowsOf_afterAll {ops : List Operation} {id : DocumentId} {row : Row} :
    row ∈ (empty.afterAll ops).rowsOf id ↔
      ∃ r, recordAfter id ops = some r ∧ Row.ofRecord r = row := by
  simp [rowsOf_afterAll]

/-- An operation on a document leaves the other rows as they are. -/
theorem filter_after_of_target {s : Store} {op : Operation} {id : DocumentId}
    (hop : ∀ other, op.target? = some other → other = id) {t : Table} (ht : s.table = some t) :
    ∃ t', (s.after op).table = some t' ∧
      t'.filter (fun row => row.id ≠ id.text) = t.filter fun row => row.id ≠ id.text := by
  refine ⟨op.effect t, by rw [table_after, ht]; rfl, ?_⟩
  refine filter_effect op t (p := fun key => key ≠ id.text) fun other hother => ?_
  rw [hop other hother]
  exact decide_eq_false fun hne => hne rfl

section AfterAll

variable {ops : List Operation} {op : Operation} {id : DocumentId}

theorem entered_of_rowsOf (hbefore : (empty.afterAll ops).rowsOf id = [])
    (hafter : ((empty.afterAll ops).after op).rowsOf id ≠ []) :
    ∃ r, op = .insert r ∧ r.id = id := by
  obtain ⟨row, hrow⟩ := List.exists_mem_of_ne_nil _ hafter
  rw [afterAll_after] at hrow
  obtain ⟨r, hr, rfl⟩ := mem_rowsOf_afterAll.1 hrow
  have hnone : recordAfter id ops = none := by
    cases hold : recordAfter id ops with
    | none => rfl
    | some old => simp [rowsOf_afterAll, hold] at hbefore
  rw [recordAfter_append_singleton, hnone] at hr
  cases Operation.makes_of_onRecord hr with
  | enter _ hid => exact ⟨r, rfl, hid⟩

theorem moves_of_mem_rowsOf {row row' : Row} (hrow : row ∈ (empty.afterAll ops).rowsOf id)
    (hrow' : row' ∈ ((empty.afterAll ops).after op).rowsOf id) :
    ∃ a b, row.standing? = some a ∧ row'.standing? = some b ∧ (a = b ∨ op.Moves id a b) := by
  rw [afterAll_after] at hrow'
  obtain ⟨old, hold, rfl⟩ := mem_rowsOf_afterAll.1 hrow
  obtain ⟨r, hr, rfl⟩ := mem_rowsOf_afterAll.1 hrow'
  rw [recordAfter_append_singleton, hold] at hr
  refine ⟨old.status, r.status, Row.standing?_ofRecord old, Row.standing?_ofRecord r, ?_⟩
  exact (Operation.makes_of_onRecord hr).moves.imp_left Eq.symm

theorem mem_rowsOf_of_rejected (hop : op.Analyses id) {row : Row}
    (hrow : row ∈ ((empty.afterAll ops).after op).rowsOf id)
    (hrejected : row.standing? = some .rejected) : row ∈ (empty.afterAll ops).rowsOf id := by
  rw [afterAll_after] at hrow
  obtain ⟨r, hr, rfl⟩ := mem_rowsOf_afterAll.1 hrow
  rw [Row.standing?_ofRecord, Option.some_inj] at hrejected
  rw [recordAfter_append_singleton] at hr
  have hbefore : recordAfter id ops = some r :=
    (Operation.makes_of_onRecord hr).eq_of_rejected hop hrejected
  exact mem_rowsOf_afterAll.2 ⟨r, hbefore, rfl⟩

theorem decided_afterAll {more : List Operation} (hmore : ∀ op ∈ more, op ≠ .delete id)
    {row : Row} (hrow : row ∈ (empty.afterAll ops).rowsOf id)
    (hdec : row.standing? = some .verified ∨ row.standing? = some .rejected) :
    ∃ row', ((empty.afterAll ops).afterAll more).rowsOf id = [row'] ∧
      (row'.standing? = some .verified ∨ row'.standing? = some .rejected) := by
  obtain ⟨old, hold, rfl⟩ := mem_rowsOf_afterAll.1 hrow
  rw [Row.standing?_ofRecord, Option.some_inj, Option.some_inj, ← Table.isDecision_iff] at hdec
  obtain ⟨r, hr, hdec'⟩ := exists_recordAfter_append_of_decision hmore hold hdec
  refine ⟨.ofRecord r, ?_, ?_⟩
  · rw [← afterAll_append, rowsOf_afterAll, hr]
    rfl
  · rw [Row.standing?_ofRecord, Option.some_inj, Option.some_inj]
    exact Table.isDecision_iff.1 hdec'

theorem refused_of_processing {row : Row} (hrow : row ∈ (empty.afterAll ops).rowsOf id)
    (hproc : row.standing? = some .processing) (status : VerificationStatus)
    (comments : Option String) (now : Instant) :
    ∃ e, (empty.afterAll ops).review id status comments now = .error e := by
  obtain ⟨t, ht, hkeyed, -⟩ := Reachable.sound ⟨ops, rfl⟩
  have hstore : empty.afterAll ops = ⟨some t⟩ := congrArg Store.mk ht
  have hbusy : ∃ row ∈ t, row.id = id.text ∧ row.Processing := by
    obtain ⟨old, -, rfl⟩ := mem_rowsOf_afterAll.1 hrow
    rw [rowsOf_of_some ht, Table.mem_rowsOf] at hrow
    rw [Row.standing?_ofRecord, Option.some_inj] at hproc
    exact ⟨.ofRecord old, hrow.1, hrow.2, congrArg Row.statusText hproc⟩
  rw [hstore, review_eq_change]
  simp only [change_eq_error_iff, Table.review_eq_error_iff hkeyed]
  cases Table.isDecision status with
  | false => exact ⟨.invalidStatus (.notADecision status), .inl ⟨rfl, rfl⟩⟩
  | true => exact ⟨.invalidStatus .stillAnalysed, .inr (.inr ⟨rfl, hbusy, rfl⟩)⟩

end AfterAll

/-- What the graph of statuses means for a document of a store. -/
structure FollowsGraph (s : Store) (id : DocumentId) : Prop where
  /-- An operation on the document leaves the rows of all others as they are. -/
  others : ∀ op, (∀ other, op.target? = some other → other = id) → ∀ t, s.table = some t →
    ∃ t', (s.after op).table = some t' ∧
      t'.filter (fun row => row.id ≠ id.text) = t.filter fun row => row.id ≠ id.text
  /-- Only the entry of a record brings a document into the store. -/
  entered : ∀ op, s.rowsOf id = [] → (s.after op).rowsOf id ≠ [] →
    ∃ r, op = .insert r ∧ r.id = id
  /-- The status changes along the graph only. -/
  moves : ∀ op, ∀ row ∈ s.rowsOf id, ∀ row' ∈ (s.after op).rowsOf id, ∃ a b,
    row.standing? = some a ∧ row'.standing? = some b ∧ (a = b ∨ op.Moves id a b)
  /-- A rejected row that an analysis leaves is the row that it found. -/
  rejected : ∀ op, op.Analyses id → ∀ row ∈ (s.after op).rowsOf id,
    row.standing? = some .rejected → row ∈ s.rowsOf id
  /-- A decision is followed by decisions only, until the document is deleted. -/
  decided : ∀ ops, (∀ op ∈ ops, op ≠ Operation.delete id) → ∀ row ∈ s.rowsOf id,
    row.standing? = some .verified ∨ row.standing? = some .rejected →
    ∃ row', (s.afterAll ops).rowsOf id = [row'] ∧
      (row'.standing? = some .verified ∨ row'.standing? = some .rejected)
  /-- A review of a document that is being analysed is refused. -/
  refused : ∀ row ∈ s.rowsOf id, row.standing? = some .processing → ∀ status comments now,
    (∃ e, s.review id status comments now = .error e) ∧
      s.after (.review id status comments now) = s

/-- **Statuses change along the graph.** In every store that the operations reach, an operation on a
document touches no other row and moves the status of the document along an arrow of its own or not
at all. -/
theorem Reachable.followsGraph {s : Store} (h : s.Reachable) (id : DocumentId) :
    s.FollowsGraph id := by
  obtain ⟨ops, rfl⟩ := h
  exact
    { others := fun op hop t ht => filter_after_of_target hop ht
      entered := fun op hbefore hafter => entered_of_rowsOf hbefore hafter
      moves := fun op row hrow row' hrow' => moves_of_mem_rowsOf hrow hrow'
      rejected := fun op hop row hrow hrejected => mem_rowsOf_of_rejected hop hrow hrejected
      decided := fun more hmore row hrow hdec => decided_afterAll hmore hrow hdec
      refused := fun row hrow hproc status comments now => by
        obtain ⟨e, he⟩ := refused_of_processing hrow hproc status comments now
        exact ⟨⟨e, he⟩, by simp only [Store.after, Operation.run, he]⟩ }

/-! ### A document that waits, and one that was rejected -/

/-- The history of a document that was rejected after its analysis failed. -/
def sampleRejection : List Operation :=
  [.insert sampleRecord, .update sampleId (.failed "blurry") ⟨1, 0⟩,
    .review sampleId .rejected (some "forged") ⟨2, 0⟩]

/-- A document that waits for its analysis cannot be reviewed, and one that was rejected keeps a
decision through a late analysis. -/
theorem sample_followsGraph :
    (empty.after (.insert sampleRecord)).Reachable ∧ (empty.afterAll sampleRejection).Reachable ∧
      (∃ e, (empty.after (.insert sampleRecord)).review sampleId .verified none ⟨3, 0⟩ =
        .error e) ∧
      ∃ row, ((empty.afterAll sampleRejection).afterAll
          [.mark sampleId ⟨3, 0⟩, .update sampleId (.failed "late") ⟨4, 0⟩]).rowsOf sampleId =
            [row] ∧
        (row.standing? = some .verified ∨ row.standing? = some .rejected) := by
  have hwaits : (empty.after (.insert sampleRecord)).Reachable := ⟨[.insert sampleRecord], rfl⟩
  have hrejected : (empty.afterAll sampleRejection).Reachable := ⟨sampleRejection, rfl⟩
  refine ⟨hwaits, hrejected, ?_, ?_⟩
  · exact ((hwaits.followsGraph sampleId).refused (.ofRecord sampleRecord)
      (List.mem_singleton.2 rfl) (Row.standing?_ofRecord sampleRecord) .verified none ⟨3, 0⟩).1
  · obtain ⟨r, hr, hstatus⟩ :
        ∃ r, recordAfter sampleId sampleRejection = some r ∧ r.status = .rejected :=
      ⟨_, rfl, rfl⟩
    refine (hrejected.followsGraph sampleId).decided _ (by simp) (.ofRecord r)
      (mem_rowsOf_afterAll.2 ⟨r, hr, rfl⟩) (.inr ?_)
    rw [Row.standing?_ofRecord, hstatus]

end Store

end IdentityDocs
