import IdentityDocs.Proofs.Records.Reachable

/-!
# What begins an analysis

Only a mark or a new record makes a document one that is being analysed. A result that is stored
makes it one that is not, as no verdict is `processing`, and neither is a decision of a reviewer.
-/

namespace IdentityDocs

namespace Row

/-- The document is being analysed, as far as the guards see. -/
def Processing (row : Row) : Prop := row.status = statusText .processing

theorem not_processing_analysed (r : AnalysisResult) (now : Instant) (row : Row) :
    ¬ (row.analysed r now).Processing := by
  unfold Processing analysed
  by_cases hadm : Table.admits [.processing] row = true
  · rw [if_pos hadm, statusText_inj]
    unfold AnalysisResult.status
    cases r.verdict <;> simp [Verdict.status]
  · rw [if_neg hadm]
    exact fun h => hadm (Table.admits_iff.2 ⟨.processing, by simp, h⟩)

/-- A decision of a reviewer does not begin an analysis. -/
theorem reviewed_eq_of_processing {status : VerificationStatus} {comments : Option String}
    {now : Instant} {row : Row} (hdec : Table.isDecision status = true)
    (h : (row.reviewed status comments now).Processing) :
    row.reviewed status comments now = row := by
  unfold Processing reviewed at *
  by_cases hadm : Table.admits [.processing] row = true
  · rw [if_pos hadm]
  · rw [if_neg hadm, statusText_inj] at h
    rw [h] at hdec
    exact absurd hdec (by decide)

end Row

namespace Store

/-- An operation after which a document may be one that is being analysed although it was not one
before: the operation marks the document, or enters a record of it. -/
def Operation.Begins (id : DocumentId) (s : Store) : Operation → Prop
  | insert r => r.id = id ∧ ∃ s', s.insert r = .ok s'
  | mark other _ => other = id
  | _ => False

/-- A row that is being analysed was there before, unless the operation began the analysis. -/
theorem begins_of_processing {s : Store} {op : Operation} {id : DocumentId} {row : Row}
    (hrow : row ∈ (s.after op).rowsOf id) (hproc : row.Processing) :
    row ∈ s.rowsOf id ∨ op.Begins id s := by
  by_cases htarget : op.target? = some id
  case neg => exact .inl (by rwa [rowsOf_after_of_ne s op htarget] at hrow)
  cases ht : s.table with
  | none => simp [rowsOf, table_after, ht] at hrow
  | some t =>
    rw [rowsOf_after_of_some ht] at hrow
    rw [rowsOf_of_some ht]
    cases op with
    | insert r =>
      have hid : r.id = id := Option.some_inj.1 htarget
      by_cases hfree : (r.confidence.isNaN || t.has r.id) = true
      · simp only [Operation.effect, if_pos hfree] at hrow
        exact .inl hrow
      · refine .inr ⟨hid, ⟨some (t ++ [.ofRecord r])⟩, ?_⟩
        rw [Bool.or_eq_true, not_or] at hfree
        simp only [insert, change, ht, Table.insert, if_neg hfree.1, if_neg hfree.2]
    | mark other now =>
      exact .inr (Option.some_inj.1 htarget)
    | update other r now =>
      obtain rfl : other = id := Option.some_inj.1 htarget
      simp only [Operation.effect] at hrow
      split at hrow
      · exact .inl hrow
      · rw [Table.rowsOf_onDocument (Row.id_analysed r now)] at hrow
        obtain ⟨old, -, rfl⟩ := List.mem_map.1 hrow
        exact absurd hproc (Row.not_processing_analysed r now old)
    | review other status comments now =>
      obtain rfl : other = id := Option.some_inj.1 htarget
      simp only [Operation.effect] at hrow
      split at hrow
      case isFalse => exact .inl hrow
      case isTrue hdec =>
        rw [Table.rowsOf_onDocument (Row.id_reviewed status comments now)] at hrow
        obtain ⟨old, hold, rfl⟩ := List.mem_map.1 hrow
        exact .inl (by rwa [Row.reviewed_eq_of_processing hdec hproc])
    | delete other =>
      obtain ⟨hmem, hid⟩ := Table.mem_rowsOf.1 hrow
      exact .inl (Table.mem_rowsOf.2 ⟨(List.mem_filter.1 hmem).1, hid⟩)
    | get | all | ofOwner | reviewQueue => simp [Operation.target?] at htarget

/-- Once a result is stored, its document is not being analysed. -/
theorem not_processing_after_update {s : Store} {id : DocumentId} {r : AnalysisResult}
    {now : Instant} {row : Row} (hr : r.confidence.isNaN = false)
    (hrow : row ∈ (s.after (.update id r now)).rowsOf id) : ¬ row.Processing := by
  cases ht : s.table with
  | none => simp [rowsOf, table_after, ht] at hrow
  | some t =>
    rw [rowsOf_after_of_some ht] at hrow
    simp only [Operation.effect, hr, Bool.false_eq_true, if_false,
      Table.rowsOf_onDocument (Row.id_analysed r now)] at hrow
    obtain ⟨old, -, rfl⟩ := List.mem_map.1 hrow
    exact Row.not_processing_analysed r now old

end Store

end IdentityDocs
