import IdentityDocs.Proofs.Records.Processing

/-!
# When an operation fails, and what it changes

For a table in which no two rows have the same identifier, whatever texts its columns hold: exactly
when an operation on a document is refused and with which error, when it succeeds without a change,
and what it changes otherwise. A change is guarded by the stored status, so the three outcomes are
those of `Table.amend`: it changes the one row that the guard admits (`amend_eq_some_iff`), or there
is a row that the guard does not admit (`amend_eq_none_iff`), or there is no row at all.
-/

namespace IdentityDocs

namespace Row

/-- The guard of a mark admits the row. -/
def Markable (row : Row) : Prop :=
  row.status = statusText .processing ∨ row.status = statusText .pending

theorem admits_markable (row : Row) :
    Table.admits [.processing, .pending] row = true ↔ row.Markable := by
  simp [Table.admits, Markable]

theorem admits_processing (row : Row) :
    Table.admits [.processing] row = true ↔ row.Processing := by
  simp [Table.admits, Processing]

theorem not_admits_processing (row : Row) :
    (!Table.admits [.processing] row) = true ↔ ¬ row.Processing := by
  rw [← admits_processing, Bool.not_eq_true', Bool.not_eq_true]

end Row

namespace Table

variable {t t' : Table} {id : DocumentId}

/-- One table is another with the row of a document changed, which satisfied a guard. All other rows
are the same and in the same order. -/
def Changes (t : Table) (id : DocumentId) (guard : Row → Prop) (change : Row → Row)
    (t' : Table) : Prop :=
  ∃ before row after, t = before ++ row :: after ∧ row.id = id.text ∧ guard row ∧
    t' = before ++ change row :: after

/-- The table has a row of a document that does not satisfy a guard. -/
def Spares (t : Table) (id : DocumentId) (guard : Row → Prop) : Prop :=
  ∃ row ∈ t, row.id = id.text ∧ ¬ guard row

theorem Changes.has {guard : Row → Prop} {change : Row → Row}
    (h : t.Changes id guard change t') : t.has id = true := by
  obtain ⟨before, row, after, rfl, hid, -⟩ := h
  exact has_iff.2 ⟨row, by simp, hid⟩

theorem Keyed.eq_of_id_eq (h : t.Keyed) {a b : Row} (ha : a ∈ t) (hb : b ∈ t)
    (hid : a.id = b.id) : a = b :=
  List.inj_on_of_nodup_map h ha hb hid

/-- A change of the rows with the identifier of one row is a change of that row. -/
theorem onDocument_append_cons {before after : List Row} {row : Row}
    (h : Keyed (before ++ row :: after)) (change : Row → Row) :
    onDocument (before ++ row :: after) row.id change = before ++ change row :: after := by
  have hkeys : (before.map Row.id ++ row.id :: after.map Row.id).Nodup := by
    simpa [Keyed] using h
  have hne : ∀ other ∈ before ++ after, other.id ≠ row.id := by
    intro other hother hid
    apply (List.nodup_middle.1 hkeys).notMem
    rw [← hid, ← List.map_append]
    exact List.mem_map_of_mem hother
  have hbefore : onDocument before row.id change = before :=
    onDocument_eq_self fun other hother hid =>
      absurd hid (hne other (List.mem_append_left _ hother))
  have hafter : onDocument after row.id change = after :=
    onDocument_eq_self fun other hother hid =>
      absurd hid (hne other (List.mem_append_right _ hother))
  have hsplit : onDocument (before ++ row :: after) row.id change =
      onDocument before row.id change ++ change row :: onDocument after row.id change := by
    simp [onDocument]
  rw [hsplit, hbefore, hafter]

section Amend

variable {guard : Row → Bool} {P : Row → Prop} (hguard : ∀ row, guard row = true ↔ P row)
  {change : Row → Row}

include hguard

/-- A guarded change succeeds by changing the one row of the document. -/
theorem amend_eq_some_iff (h : t.Keyed) :
    t.amend id guard change = some t' ↔ t.Changes id P change t' := by
  have hchange : ∀ {before row after}, t = before ++ row :: after → row.id = id.text →
      guard row = true → t.amend id guard change = some (before ++ change row :: after) := by
    rintro before row after rfl hid hrow
    have hany : anyRow (before ++ row :: after) id guard = true :=
      anyRow_iff.2 ⟨row, by simp, hid, hrow⟩
    rw [amend_eq, if_pos hany, ← hid, onDocument_append_cons h, if_pos hrow]
  constructor
  · intro hamend
    have hany : t.anyRow id guard = true := by
      by_contra hnone
      rw [amend_eq, if_neg hnone] at hamend
      exact absurd hamend (by simp)
    obtain ⟨row, hmem, hid, hrow⟩ := anyRow_iff.1 hany
    obtain ⟨before, after, hsplit⟩ := List.append_of_mem hmem
    rw [hchange hsplit hid hrow, Option.some_inj] at hamend
    exact ⟨before, row, after, hsplit, hid, (hguard row).1 hrow, hamend.symm⟩
  · rintro ⟨before, row, after, hsplit, hid, hrow, rfl⟩
    exact hchange hsplit hid ((hguard row).2 hrow)

/-- A guarded change does nothing to a document that has a row if the guard does not admit it. -/
theorem amend_eq_none_iff (h : t.Keyed) :
    t.amend id guard change = none ∧ t.has id = true ↔ t.Spares id P := by
  rw [amend_eq, has_iff]
  constructor
  · rintro ⟨hamend, row, hmem, hid⟩
    refine ⟨row, hmem, hid, fun hrow => ?_⟩
    rw [if_pos (anyRow_iff.2 ⟨row, hmem, hid, (hguard row).2 hrow⟩)] at hamend
    exact absurd hamend (by simp)
  · rintro ⟨row, hmem, hid, hrow⟩
    refine ⟨if_neg fun hany => ?_, row, hmem, hid⟩
    obtain ⟨other, hother, hid', hrow'⟩ := anyRow_iff.1 hany
    have hsame : other = row := h.eq_of_id_eq hother hmem (hid'.trans hid.symm)
    exact hrow ((hguard row).1 (hsame ▸ hrow'))

end Amend

theorem unchanged_eq_ok_iff : t.unchanged id = .ok t' ↔ t.has id = true ∧ t' = t := by
  unfold unchanged
  by_cases hhas : t.has id = true <;> simp [hhas, eq_comm (a := t')]

/-! ## The operations -/

theorem insert_eq_error_iff {r : DocumentRecord} {e : Error} :
    t.insert r = .error e ↔
      r.confidence.isNaN = true ∧
        e = .database (.store .inserting (.missingValue name "confidence")) ∨
      r.confidence.isNaN = false ∧ t.has r.id = true ∧
        e = .database (.store .inserting (.notUnique name "id")) := by
  unfold insert
  cases r.confidence.isNaN <;> cases t.has r.id <;> simp [eq_comm (a := e)]

theorem insert_eq_ok_iff {r : DocumentRecord} :
    t.insert r = .ok t' ↔
      r.confidence.isNaN = false ∧ t.has r.id = false ∧ t' = t ++ [.ofRecord r] := by
  unfold insert
  cases r.confidence.isNaN <;> cases t.has r.id <;> simp [eq_comm (a := t')]

theorem mark_eq_error_iff {now : Instant} {e : Error} :
    t.mark id now = .error e ↔ t.has id = false ∧ e = .documentNotFound id := by
  rw [mark_eq]
  by_cases hhas : t.has id = true <;> simp [hhas, eq_comm (a := e)]

theorem mark_eq_ok_iff (h : t.Keyed) {now : Instant} :
    t.mark id now = .ok t' ↔
      t.Changes id Row.Markable
        (fun row => { row with status := Row.statusText .processing, updatedAt := now.stamp }) t' ∨
      t.Spares id Row.Markable ∧ t' = t := by
  rw [← amend_eq_some_iff Row.admits_markable h, ← amend_eq_none_iff Row.admits_markable h]
  unfold mark
  cases t.amend id (admits [.processing, .pending]) _ with
  | none => simp [unchanged_eq_ok_iff]
  | some u => simp

theorem update_eq_error_iff {r : AnalysisResult} {now : Instant} {e : Error} :
    t.update id r now = .error e ↔
      t.has id = false ∧ e = .documentNotFound id ∨
      r.confidence.isNaN = true ∧ (∃ row ∈ t, row.id = id.text ∧ row.Processing) ∧
        e = .database (.store .updating (.missingValue name "confidence")) := by
  simp only [← Row.admits_processing]
  rw [update_eq, ← anyRow_iff]
  by_cases hhas : t.has id = true
  · cases hnan : r.confidence.isNaN <;> cases hany : t.anyRow id (admits [.processing]) <;>
      simp [hhas, eq_comm (a := e)]
  · have hany : ¬ t.anyRow id (admits [.processing]) = true := fun hany =>
      hhas (has_of_anyRow hany)
    simp [hhas, hany, eq_comm (a := e)]

theorem update_eq_ok_iff (h : t.Keyed) {r : AnalysisResult} {now : Instant} :
    t.update id r now = .ok t' ↔
      r.confidence.isNaN = false ∧ t.Changes id Row.Processing
        (fun row =>
          { row with
            status := Row.statusText r.status
            confidence := Row.storedNumber r.confidence
            extractedData := some (Row.dataText r.extractedData)
            comments := storedNotes r
            updatedAt := now.stamp }) t' ∨
      t.Spares id Row.Processing ∧ t' = t := by
  rw [← amend_eq_some_iff Row.admits_processing h, ← amend_eq_none_iff Row.admits_processing h]
  unfold update
  cases t.amend id (admits [.processing]) _ with
  | none => simp [unchanged_eq_ok_iff]
  | some u => cases r.confidence.isNaN <;> simp

theorem review_eq_error_iff (h : t.Keyed) {status : VerificationStatus}
    {comments : Option String} {now : Instant} {e : Error} :
    t.review id status comments now = .error e ↔
      isDecision status = false ∧ e = .invalidStatus (.notADecision status) ∨
      isDecision status = true ∧ t.has id = false ∧ e = .documentNotFound id ∨
      isDecision status = true ∧ (∃ row ∈ t, row.id = id.text ∧ row.Processing) ∧
        e = .invalidStatus .stillAnalysed := by
  -- a document that has a row is either being analysed or open to a review
  have hbusy : t.amend id (fun row => !admits [.processing] row) (fun row =>
        { row with status := Row.statusText status, comments, updatedAt := now.stamp }) = none ∧
      t.has id = true ↔ ∃ row ∈ t, row.id = id.text ∧ row.Processing := by
    rw [amend_eq_none_iff Row.not_admits_processing h]
    simp [Spares]
  rw [← hbusy]
  unfold review
  cases hdec : isDecision status with
  | false => simp [eq_comm (a := e)]
  | true =>
    cases hamend : t.amend id (fun row => !admits [.processing] row) _ with
    | none => cases t.has id <;> simp [eq_comm (a := e)]
    | some u =>
      have hhas : t.has id = true := ((amend_eq_some_iff Row.not_admits_processing h).1 hamend).has
      simp [hhas]

theorem review_eq_ok_iff (h : t.Keyed) {status : VerificationStatus} {comments : Option String}
    {now : Instant} :
    t.review id status comments now = .ok t' ↔
      isDecision status = true ∧ t.Changes id (fun row => ¬ row.Processing)
        (fun row => { row with status := Row.statusText status, comments, updatedAt := now.stamp })
        t' := by
  rw [← amend_eq_some_iff Row.not_admits_processing h]
  unfold review
  cases isDecision status with
  | false => simp
  | true =>
    cases t.amend id (fun row => !admits [.processing] row) _ with
    | none => simp
    | some u => simp

end Table

namespace Store

variable {t : Table} {activity : StoreActivity} {f : Table → Except Error Table}

theorem change_eq_ok_iff {s' : Store} :
    (⟨some t⟩ : Store).change activity f = .ok s' ↔ ∃ t', s' = ⟨some t'⟩ ∧ f t = .ok t' := by
  simp only [change]
  cases f t <;> simp [eq_comm (a := s')]

theorem change_eq_error_iff {e : Error} :
    (⟨some t⟩ : Store).change activity f = .error e ↔ f t = .error e := by
  simp only [change]
  cases f t <;> simp

/-- A review is a change of the table also if its status is refused first. -/
theorem review_eq_change (id : DocumentId) (status : VerificationStatus)
    (comments : Option String) (now : Instant) :
    (⟨some t⟩ : Store).review id status comments now =
      (⟨some t⟩ : Store).change .reviewing (·.review id status comments now) := by
  unfold Store.review
  split
  case isTrue => rfl
  case isFalse hdec => simp [change, Table.review, hdec]

/-- How the operations on a document end, given the table, and what becomes of the table. -/
structure EndsExactly (t : Table) (id : DocumentId) : Prop where
  /-- A record is refused if its confidence is no number or its document has a row. -/
  insert_error : ∀ r e, r.id = id → ((⟨some t⟩ : Store).insert r = .error e ↔
    r.confidence.isNaN = true ∧
      e = .database (.store .inserting (.missingValue Table.name "confidence")) ∨
    r.confidence.isNaN = false ∧ t.has id = true ∧
      e = .database (.store .inserting (.notUnique Table.name "id")))
  /-- Otherwise it is entered as the last row. -/
  insert_ok : ∀ r s', r.id = id → ((⟨some t⟩ : Store).insert r = .ok s' ↔ ∃ t', s' = ⟨some t'⟩ ∧
    r.confidence.isNaN = false ∧ t.has id = false ∧ t' = t ++ [.ofRecord r])
  /-- A mark fails just if the document has no row. -/
  mark_error : ∀ now e, (⟨some t⟩ : Store).mark id now = .error e ↔
    t.has id = false ∧ e = .documentNotFound id
  /-- It changes the status and the time of a row that is being analysed or waits for a reviewer,
  and nothing otherwise. -/
  mark_ok : ∀ now s', (⟨some t⟩ : Store).mark id now = .ok s' ↔ ∃ t', s' = ⟨some t'⟩ ∧
    (t.Changes id Row.Markable
      (fun row => { row with status := Row.statusText .processing, updatedAt := now.stamp }) t' ∨
    t.Spares id Row.Markable ∧ t' = t)
  /-- A result fails if the document has no row, or if its confidence is no number and the document
  is being analysed. -/
  update_error : ∀ r now e, (⟨some t⟩ : Store).update id r now = .error e ↔
    t.has id = false ∧ e = .documentNotFound id ∨
    r.confidence.isNaN = true ∧ (∃ row ∈ t, row.id = id.text ∧ row.Processing) ∧
      e = .database (.store .updating (.missingValue Table.name "confidence"))
  /-- It changes the columns of a result and the time of a row that is being analysed, and nothing
  otherwise. -/
  update_ok : ∀ r now s', (⟨some t⟩ : Store).update id r now = .ok s' ↔ ∃ t', s' = ⟨some t'⟩ ∧
    (r.confidence.isNaN = false ∧ t.Changes id Row.Processing
      (fun row =>
        { row with
          status := Row.statusText r.status
          confidence := Row.storedNumber r.confidence
          extractedData := some (Row.dataText r.extractedData)
          comments := Table.storedNotes r
          updatedAt := now.stamp }) t' ∨
    t.Spares id Row.Processing ∧ t' = t)
  /-- A review fails if its status is no decision, be there a row or not; otherwise if there is no
  row, or if the document is being analysed. -/
  review_error : ∀ status comments now e,
    (⟨some t⟩ : Store).review id status comments now = .error e ↔
    Table.isDecision status = false ∧ e = .invalidStatus (.notADecision status) ∨
    Table.isDecision status = true ∧ t.has id = false ∧ e = .documentNotFound id ∨
    Table.isDecision status = true ∧ (∃ row ∈ t, row.id = id.text ∧ row.Processing) ∧
      e = .invalidStatus .stillAnalysed
  /-- It changes the status, the comments and the time of a row that is not being analysed. -/
  review_ok : ∀ status comments now s',
    (⟨some t⟩ : Store).review id status comments now = .ok s' ↔ ∃ t', s' = ⟨some t'⟩ ∧
    Table.isDecision status = true ∧ t.Changes id (fun row => ¬ row.Processing)
      (fun row => { row with status := Row.statusText status, comments, updatedAt := now.stamp })
      t'
  /-- An operation that fails leaves the table as it is. -/
  unchanged : ∀ op e, Operation.run ⟨some t⟩ op = .error e → Store.after ⟨some t⟩ op = ⟨some t⟩

/-- **Failures are exact.** In a table in which no two rows have the same identifier, whatever its
texts, an operation on a document fails in the cases that `EndsExactly` lists and in no others, and
then it changes nothing; otherwise it changes its own columns of the row of the document, or nothing
if the row is not one that its guard admits. -/
theorem endsExactly_of_keyed (h : t.Keyed) (id : DocumentId) :
    EndsExactly t id where
  insert_error r e hid := by
    subst hid
    exact change_eq_error_iff.trans Table.insert_eq_error_iff
  insert_ok r s' hid := by
    subst hid
    exact change_eq_ok_iff.trans (exists_congr fun t' => and_congr_right' Table.insert_eq_ok_iff)
  mark_error now e := change_eq_error_iff.trans Table.mark_eq_error_iff
  mark_ok now s' :=
    change_eq_ok_iff.trans (exists_congr fun t' => and_congr_right' (Table.mark_eq_ok_iff h))
  update_error r now e := change_eq_error_iff.trans Table.update_eq_error_iff
  update_ok r now s' :=
    change_eq_ok_iff.trans (exists_congr fun t' => and_congr_right' (Table.update_eq_ok_iff h))
  review_error status comments now e := by
    rw [review_eq_change, change_eq_error_iff]
    exact Table.review_eq_error_iff h
  review_ok status comments now s' := by
    rw [review_eq_change, change_eq_ok_iff]
    exact exists_congr fun t' => and_congr_right' (Table.review_eq_ok_iff h)
  unchanged op e hop := by
    simp only [Store.after, hop]

/-! ### A row with an unknown status -/

/-- A row whose status nobody can read. -/
def archivedRow : Row := { Row.ofRecord sampleRecord with status := "archived" }

/-- A table with a row whose status nobody can read, and a document that is being analysed. -/
def sampleTable : Table := [archivedRow, .ofRecord { sampleRecord with id := otherId }]

/-- A mark spares the row with the unknown status, and a review changes it; of the document that is
being analysed a result without a number is refused, and so is a review. -/
theorem endsExactly_sampleTable :
    sampleTable.Keyed ∧
      (⟨some sampleTable⟩ : Store).mark sampleId ⟨1, 0⟩ = .ok ⟨some sampleTable⟩ ∧
      (⟨some sampleTable⟩ : Store).review sampleId .rejected none ⟨1, 0⟩ =
        .ok ⟨some [{ archivedRow with
            status := Row.statusText .rejected, comments := none
            updatedAt := Instant.stamp ⟨1, 0⟩ }, .ofRecord { sampleRecord with id := otherId }]⟩ ∧
      (⟨some sampleTable⟩ : Store).update otherId
          { AnalysisResult.failed "" with confidence := 0.0 / 0.0 } ⟨1, 0⟩ =
        .error (.database (.store .updating (.missingValue Table.name "confidence"))) ∧
      (⟨some sampleTable⟩ : Store).review otherId .verified none ⟨1, 0⟩ =
        .error (.invalidStatus .stillAnalysed) := by
  have hkeyed : sampleTable.Keyed := by
    rw [Table.Keyed]
    decide
  have hsample := endsExactly_of_keyed hkeyed sampleId
  have hother := endsExactly_of_keyed hkeyed otherId
  have hprocessing : ∃ row ∈ sampleTable, row.id = otherId.text ∧ row.Processing :=
    ⟨.ofRecord { sampleRecord with id := otherId }, by simp [sampleTable], rfl, rfl⟩
  refine ⟨hkeyed, ?_, ?_, ?_, ?_⟩
  · refine (hsample.mark_ok _ _).2 ⟨sampleTable, rfl, .inr ⟨⟨archivedRow, ?_, rfl, ?_⟩, rfl⟩⟩
    · simp [sampleTable]
    · unfold Row.Markable
      decide
  · refine (hsample.review_ok _ _ _ _).2 ⟨_, rfl, rfl, [], archivedRow, _, rfl, rfl, ?_, rfl⟩
    unfold Row.Processing
    decide
  · exact (hother.update_error _ _ _).2 (.inr ⟨by decide, hprocessing, rfl⟩)
  · exact (hother.review_error _ _ _ _).2 (.inr (.inr ⟨rfl, hprocessing, rfl⟩))

end Store

end IdentityDocs
