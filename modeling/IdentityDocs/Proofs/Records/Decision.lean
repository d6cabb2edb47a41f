import IdentityDocs.Proofs.Records.Reachable

/-!
# Decisions of reviewers stand

Once a review of a document is admitted, the row of the document stays exactly as the review left
it, whatever is asked of the store in between, until the next review of the document is admitted or
its record is deleted. Three guards carry this together: marking starts from the statuses
`processing` and `pending` only, a result lands on `processing` only, and no second record is
entered under the same identifier. The invariant is `Row.Decided`.
-/

namespace IdentityDocs

/-- In a keyed table a document that has a row has one row. -/
theorem Table.Keyed.rowsOf_eq {t : Table} (hkeyed : t.Keyed) {id : DocumentId}
    (h : t.has id = true) : ∃ row, t.rowsOf id.text = [row] := by
  obtain ⟨row, hrow, hid⟩ := Table.has_iff.1 h
  have hmem : row ∈ t.rowsOf id.text := mem_rowsOf.2 ⟨hrow, hid⟩
  have hnodup : ((t.rowsOf id.text).map Row.id).Nodup :=
    hkeyed.sublist (List.filter_sublist.map Row.id)
  have hall : ∀ r ∈ t.rowsOf id.text, r.id = id.text := fun r hr => (mem_rowsOf.1 hr).2
  rcases hrows : t.rowsOf id.text with _ | ⟨first, _ | ⟨second, rest⟩⟩
  · rw [hrows] at hmem
    exact absurd hmem (List.not_mem_nil)
  · exact ⟨first, rfl⟩
  · rw [hrows] at hnodup hall
    have hsame : first.id = second.id :=
      (hall first (by simp)).trans (hall second (by simp)).symm
    simp [hsame] at hnodup

namespace Row

/-- A reviewer has decided on the document of the row. -/
def Decided (row : Row) : Prop :=
  ∃ status, Table.isDecision status = true ∧ row.status = statusText status

/-- A guard that admits no decision does not admit a decided row. -/
theorem Decided.not_admits {row : Row} (h : row.Decided) (statuses : List VerificationStatus)
    (hs : ∀ s ∈ statuses, Table.isDecision s = false) : Table.admits statuses row = false := by
  obtain ⟨status, hdec, hstatus⟩ := h
  rw [Bool.eq_false_iff]
  intro hadm
  obtain ⟨s, hmem, htext⟩ := Table.admits_iff.1 hadm
  have heq : s = status := statusText_injective (htext.symm.trans hstatus)
  rw [heq] at hmem
  rw [hs status hmem] at hdec
  exact absurd hdec Bool.false_ne_true

theorem Decided.marked_eq {row : Row} (h : row.Decided) (now : Instant) :
    row.marked now = row := by
  simp [marked, h.not_admits [.processing, .pending] (by decide)]

theorem Decided.analysed_eq {row : Row} (h : row.Decided) (r : AnalysisResult) (now : Instant) :
    row.analysed r now = row := by
  simp [analysed, h.not_admits [.processing] (by decide)]

theorem reviewed_eq {row : Row} (h : Table.admits [.processing] row = false)
    (status : VerificationStatus) (comments : Option String) (now : Instant) :
    row.reviewed status comments now =
      { row with status := statusText status, comments, updatedAt := now.stamp } := by
  simp [reviewed, h]

end Row

namespace Store

/-- What replaces or removes a decision on a document: a review of it that is admitted, and its
deletion. -/
def Operation.Supersedes (id : DocumentId) (s : Store) : Operation → Prop
  | review other status comments now =>
    other = id ∧ ∃ s', s.review other status comments now = .ok s'
  | delete other => other = id
  | _ => False

/-- In a history nothing replaces or removes the decision on a document. -/
def Undisturbed (id : DocumentId) : Store → List Operation → Prop
  | _, [] => True
  | s, op :: ops => ¬ op.Supersedes id s ∧ Undisturbed id (s.after op) ops

/-- A review of a keyed store that is admitted replaces the status and the comments of the one row
that the document has. -/
theorem review_ok {s s' : Store} {id : DocumentId} {status : VerificationStatus}
    {comments : Option String} {now : Instant} (hs : s.Keyed)
    (h : s.review id status comments now = .ok s') :
    Table.isDecision status = true ∧ ∃ row, s.rowsOf id = [row] ∧
      s'.rowsOf id =
        [{ row with status := Row.statusText status, comments, updatedAt := now.stamp }] := by
  unfold Store.review at h
  split at h
  case isFalse => cases h
  case isTrue hdec =>
    refine ⟨hdec, ?_⟩
    unfold change at h
    cases ht : s.table with
    | none => simp [ht, missing] at h
    | some t =>
      simp only [ht, Table.review_eq, hdec, if_true] at h
      by_cases hany : (t.anyRow id fun row => !Table.admits [.processing] row) = true
      · simp only [Table.has_of_anyRow hany, hany, if_true, Except.ok.injEq] at h
        obtain ⟨row, hrow⟩ := (hs t ht).rowsOf_eq (Table.has_of_anyRow hany)
        have hopen : Table.admits [.processing] row = false := by
          obtain ⟨r, hr, hid, hguard⟩ := Table.anyRow_iff.1 hany
          have hmem : r ∈ t.rowsOf id.text := Table.mem_rowsOf.2 ⟨hr, hid⟩
          rw [hrow, List.mem_singleton] at hmem
          simpa [hmem] using hguard
        refine ⟨row, by rw [rowsOf_of_some ht, hrow], ?_⟩
        rw [← h, rowsOf_of_some rfl, Table.rowsOf_onDocument (Row.id_reviewed _ _ _), hrow,
          List.map_singleton, Row.reviewed_eq hopen]
      · by_cases hhas : t.has id = true <;> simp [hany, hhas] at h

/-- A document on which a reviewer has decided may be reviewed again. -/
theorem review_of_decided {s : Store} {t : Table} {id : DocumentId} {row : Row}
    (ht : s.table = some t) (hrow : row ∈ t.rowsOf id.text) (hdec : row.Decided)
    {status : VerificationStatus} (hstatus : Table.isDecision status = true)
    (comments : Option String) (now : Instant) :
    ∃ s', s.review id status comments now = .ok s' := by
  obtain ⟨hmem, hid⟩ := Table.mem_rowsOf.1 hrow
  have hopen := hdec.not_admits [.processing] (by decide)
  have hany : (t.anyRow id fun row => !Table.admits [.processing] row) = true :=
    Table.anyRow_iff.2 ⟨row, hmem, hid, by simp [hopen]⟩
  refine ⟨⟨some (t.onDocument id.text (Row.reviewed status comments now))⟩, ?_⟩
  simp [Store.review, change, ht, Table.review_eq, hstatus, Table.has_of_anyRow hany, hany]

/-- A decided row stays as it is in every operation that does not replace the decision. -/
theorem rowsOf_after_of_decided {s : Store} {id : DocumentId} {row : Row}
    (hrow : s.rowsOf id = [row]) (hdec : row.Decided) {op : Operation}
    (hop : ¬ op.Supersedes id s) : (s.after op).rowsOf id = [row] := by
  by_cases htarget : op.target? = some id
  case neg => rw [rowsOf_after_of_ne s op htarget, hrow]
  cases ht : s.table with
  | none => simp [rowsOf, ht] at hrow
  | some t =>
    rw [rowsOf_of_some ht] at hrow
    have hmem : row ∈ t.rowsOf id.text := by simp [hrow]
    have hhas : t.has id = true := Table.has_iff.2 ⟨row, Table.mem_rowsOf.1 hmem⟩
    rw [rowsOf_after_of_some ht]
    cases op with
    | insert r =>
      have hid : r.id = id := Option.some_inj.1 htarget
      simp [Operation.effect, hid, hhas, hrow]
    | mark other now =>
      obtain rfl : other = id := Option.some_inj.1 htarget
      simp only [Operation.effect]
      rw [Table.rowsOf_onDocument (Row.id_marked now), hrow, List.map_singleton, hdec.marked_eq]
    | update other r now =>
      obtain rfl : other = id := Option.some_inj.1 htarget
      simp only [Operation.effect]
      split
      · exact hrow
      · rw [Table.rowsOf_onDocument (Row.id_analysed r now), hrow, List.map_singleton,
          hdec.analysed_eq]
    | review other status comments now =>
      obtain rfl : other = id := Option.some_inj.1 htarget
      simp only [Operation.effect]
      split
      case isFalse => exact hrow
      case isTrue hstatus =>
        -- the row is decided, so the review is admitted and replaces the decision
        exact absurd ⟨rfl, review_of_decided ht hmem hdec hstatus comments now⟩ hop
    | delete other =>
      exact absurd (Option.some_inj.1 htarget) hop
    | get | all | ofOwner | reviewQueue => simp [Operation.target?] at htarget

/-- A decided row stays as it is in every history that does not replace the decision. -/
theorem rowsOf_afterAll_of_decided {id : DocumentId} {row : Row} (hdec : row.Decided) :
    ∀ {s : Store} {ops : List Operation}, s.rowsOf id = [row] → s.Undisturbed id ops →
      (s.afterAll ops).rowsOf id = [row] := by
  intro s ops
  induction ops generalizing s with
  | nil => exact fun hrow _ => hrow
  | cons op ops ih =>
    intro hrow hops
    exact ih (rowsOf_after_of_decided hrow hdec hops.1) hops.2

/-- **Decisions stand.** After an admitted review the document has one row, namely the one that it
had before with the status and the comments of the review, and no history changes that row before
the decision is replaced or the record deleted. -/
theorem decision_stands {s s' : Store} {id : DocumentId} {status : VerificationStatus}
    {comments : Option String} {now : Instant} (hs : s.Keyed)
    (hreview : s.review id status comments now = .ok s') (ops : List Operation)
    (hops : s'.Undisturbed id ops) :
    ∃ row, s.rowsOf id = [row] ∧ (s'.afterAll ops).rowsOf id =
      [{ row with status := Row.statusText status, comments, updatedAt := now.stamp }] := by
  obtain ⟨hdec, row, hbefore, hafter⟩ := review_ok hs hreview
  refine ⟨row, hbefore, rowsOf_afterAll_of_decided ?_ hafter hops⟩
  exact ⟨status, hdec, rfl⟩

/-! ### A late analysis -/

/-- The store after an analysis that failed. -/
def samplePending : Store :=
  empty.afterAll [.insert sampleRecord, .update sampleId (.failed "blurry") ⟨1, 0⟩]

/-- The store after the document was rejected. -/
def sampleRejected : Store :=
  samplePending.after (.review sampleId .rejected (some "forged") ⟨2, 0⟩)

/-- An analysis that comes late, a second record of the same document, and a review that is
refused. -/
def sampleLate : List Operation :=
  [.mark sampleId ⟨3, 0⟩, .insert sampleRecord, .update sampleId (.failed "again") ⟨4, 0⟩,
    .review sampleId .pending none ⟨5, 0⟩, .get sampleId]

/-- A rejected document stays rejected through a late analysis. -/
theorem rejection_outlives_analysis :
    samplePending.Keyed ∧
      samplePending.review sampleId .rejected (some "forged") ⟨2, 0⟩ = .ok sampleRejected ∧
      sampleRejected.Undisturbed sampleId sampleLate ∧
      ∃ row, samplePending.rowsOf sampleId = [row] ∧
        (sampleRejected.afterAll sampleLate).rowsOf sampleId =
          [{ row with
            status := Row.statusText .rejected
            comments := some "forged"
            updatedAt := Instant.stamp ⟨2, 0⟩ }] := by
  have hkeyed : samplePending.Keyed := Reachable.keyed ⟨_, rfl⟩
  have hreview :
      samplePending.review sampleId .rejected (some "forged") ⟨2, 0⟩ = .ok sampleRejected := rfl
  have hlate : sampleRejected.Undisturbed sampleId sampleLate := by
    refine ⟨id, id, id, ?_, id, trivial⟩
    rintro ⟨-, s, hs⟩
    cases hs
  exact ⟨hkeyed, hreview, hlate, decision_stands hkeyed hreview sampleLate hlate⟩

end Store

end IdentityDocs
