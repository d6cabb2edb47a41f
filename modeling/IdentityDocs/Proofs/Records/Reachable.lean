import IdentityDocs.Proofs.Records.Operation
import Mathlib.Data.List.Induction
import Mathlib.Data.List.Nodup

/-!
# Stores that the operations reach

A store is reachable if some history of operations leads to it from the empty store. Its table is
there, its rows have different identifiers, and the status of each row is the text of a status and
no other text, so that the guards, which compare texts, and a reader, who reads them, see the same.
-/

namespace IdentityDocs

/-- No two rows have the same identifier. -/
def Table.Keyed (t : Table) : Prop := (t.map Row.id).Nodup

/-- The identifier of a row is its key. -/
def Store.Keyed (s : Store) : Prop := ∀ t, s.table = some t → t.Keyed

namespace Row

/-- The status that a reader finds in a row. -/
def standing? (row : Row) : Option VerificationStatus := readJson? Json.choice? row.status

/-- The status is written as the operations write it. -/
def Canonical (row : Row) : Prop := ∃ status, row.status = statusText status

theorem standing?_eq {row : Row} {status : VerificationStatus}
    (h : row.status = statusText status) : row.standing? = some status := by
  unfold standing?
  rw [h]
  cases status <;> decide

/-- In a canonical row a reader finds the status that a guard compares with. -/
theorem Canonical.standing?_eq_iff {row : Row} (h : row.Canonical)
    (status : VerificationStatus) :
    row.standing? = some status ↔ row.status = statusText status := by
  obtain ⟨s, hs⟩ := h
  rw [standing?_eq hs, hs, statusText_inj, Option.some_inj]

theorem canonical_ofRecord (r : DocumentRecord) : (ofRecord r).Canonical := ⟨r.status, rfl⟩

theorem Canonical.marked {row : Row} (h : row.Canonical) (now : Instant) :
    (row.marked now).Canonical := by
  unfold Row.marked
  split
  · exact ⟨.processing, rfl⟩
  · exact h

theorem Canonical.analysed {row : Row} (h : row.Canonical) (r : AnalysisResult)
    (now : Instant) : (row.analysed r now).Canonical := by
  unfold Row.analysed
  split
  · exact ⟨r.status, rfl⟩
  · exact h

theorem Canonical.reviewed {row : Row} (h : row.Canonical) (status : VerificationStatus)
    (comments : Option String) (now : Instant) :
    (row.reviewed status comments now).Canonical := by
  unfold Row.reviewed
  split
  · exact h
  · exact ⟨status, rfl⟩

end Row

namespace Store

theorem keyed_effect {t : Table} (h : t.Keyed) (op : Operation) : (op.effect t).Keyed := by
  unfold Table.Keyed at h ⊢
  cases op with
  | insert r =>
    simp only [Operation.effect]
    split
    · exact h
    · rename_i hnew
      have hhas : ¬ t.has r.id = true := fun hhas => hnew (by simp [hhas])
      rw [List.map_append, List.map_singleton]
      refine List.nodup_append.2 ⟨h, List.nodup_singleton _, ?_⟩
      intro key hkey other hother heq
      obtain ⟨row, hrow, rfl⟩ := List.mem_map.1 hkey
      rw [List.mem_singleton] at hother
      exact hhas (Table.has_iff.2 ⟨row, hrow, heq.trans hother⟩)
  | mark id now =>
    simp only [Operation.effect]
    rw [Table.map_id_onDocument (Row.id_marked now)]
    exact h
  | update id r now =>
    simp only [Operation.effect]
    split
    · exact h
    · rw [Table.map_id_onDocument (Row.id_analysed r now)]
      exact h
  | review id status comments now =>
    simp only [Operation.effect]
    split
    · rw [Table.map_id_onDocument (Row.id_reviewed status comments now)]
      exact h
    · exact h
  | delete id => exact h.sublist (List.filter_sublist.map Row.id)
  | get | all | ofOwner | reviewQueue => exact h

theorem canonical_effect {t : Table} (h : ∀ row ∈ t, row.Canonical) (op : Operation) :
    ∀ row ∈ op.effect t, row.Canonical := by
  have honDocument : ∀ {key : String} {change : Row → Row},
      (∀ row : Row, row.Canonical → (change row).Canonical) →
      ∀ row ∈ t.onDocument key change, row.Canonical := by
    intro key change hchange row hrow
    obtain ⟨old, hold, ⟨-, rfl⟩ | ⟨-, rfl⟩⟩ := Table.mem_onDocument hrow
    · exact hchange old (h old hold)
    · exact h row hold
  cases op with
  | insert r =>
    simp only [Operation.effect]
    split
    · exact h
    · intro row hrow
      rcases List.mem_append.1 hrow with hrow | hrow
      · exact h row hrow
      · rw [List.mem_singleton.1 hrow]
        exact Row.canonical_ofRecord r
  | mark id now => exact honDocument fun row hrow => hrow.marked now
  | update id r now =>
    simp only [Operation.effect]
    split
    · exact h
    · exact honDocument fun row hrow => hrow.analysed r now
  | review id status comments now =>
    simp only [Operation.effect]
    split
    · exact honDocument fun row hrow => hrow.reviewed status comments now
    · exact h
  | delete id => exact fun row hrow => h row (List.mem_filter.1 hrow).1
  | get | all | ofOwner | reviewQueue => exact h

/-- Some history leads to the store from the empty one. -/
def Reachable (s : Store) : Prop := ∃ ops, s = empty.afterAll ops

theorem afterAll_append (s : Store) (ops more : List Operation) :
    s.afterAll (ops ++ more) = (s.afterAll ops).afterAll more :=
  List.foldl_append

theorem afterAll_after (s : Store) (ops : List Operation) (op : Operation) :
    (s.afterAll ops).after op = s.afterAll (ops ++ [op]) := by
  rw [afterAll_append]
  rfl

theorem Reachable.after {s : Store} (h : s.Reachable) (op : Operation) :
    (s.after op).Reachable := by
  obtain ⟨ops, rfl⟩ := h
  exact ⟨ops ++ [op], afterAll_after empty ops op⟩

/-- What holds of the empty table and is kept by every effect holds of a reachable store. -/
theorem Reachable.induct {motive : Table → Prop} (hempty : motive [])
    (hstep : ∀ t op, motive t → motive (Operation.effect op t)) {s : Store}
    (h : s.Reachable) : ∃ t, s.table = some t ∧ motive t := by
  obtain ⟨ops, rfl⟩ := h
  induction ops using List.reverseRecOn with
  | nil => exact ⟨[], rfl, hempty⟩
  | append_singleton ops op ih =>
    obtain ⟨t, ht, hmotive⟩ := ih
    refine ⟨op.effect t, ?_, hstep t op hmotive⟩
    rw [← afterAll_after, table_after, ht]
    rfl

/-- The table of a reachable store is there, keyed, and canonical. -/
theorem Reachable.sound {s : Store} (h : s.Reachable) :
    ∃ t, s.table = some t ∧ t.Keyed ∧ ∀ row ∈ t, row.Canonical :=
  h.induct (motive := fun t => t.Keyed ∧ ∀ row ∈ t, row.Canonical) ⟨List.nodup_nil, by simp⟩
    fun _ op ht => ⟨keyed_effect ht.1 op, canonical_effect ht.2 op⟩

theorem Reachable.keyed {s : Store} (h : s.Reachable) : s.Keyed := by
  obtain ⟨t, ht, hkeyed, -⟩ := h.sound
  intro t' ht'
  rw [ht, Option.some_inj] at ht'
  exact ht' ▸ hkeyed

end Store

end IdentityDocs
