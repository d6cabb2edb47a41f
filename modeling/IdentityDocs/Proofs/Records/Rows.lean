import IdentityDocs.Proofs.Document.Id
import IdentityDocs.Records.Table

/-!
# What changes do to the rows

Every change of the table is a change of the rows of one document, and the other rows stay as they
are. The guards of the table are part of the row functions `Row.marked`, `Row.analysed` and
`Row.reviewed`: a row that a guard does not admit stays as it is. `Table.mark_eq`, `update_eq` and
`review_eq` say exactly when a change is refused and what it does otherwise; the `_performs` lemmas
say only what becomes of the table.
-/

namespace IdentityDocs

namespace Row

/-- The row after an attempt to mark it. -/
def marked (now : Instant) (row : Row) : Row :=
  if Table.admits [.processing, .pending] row then
    { row with status := statusText .processing, updatedAt := now.stamp }
  else row

/-- The row after an attempt to store the result of an analysis in it. -/
def analysed (r : AnalysisResult) (now : Instant) (row : Row) : Row :=
  if Table.admits [.processing] row then
    { row with
      status := statusText r.status
      confidence := storedNumber r.confidence
      extractedData := some (dataText r.extractedData)
      comments := Table.storedNotes r
      updatedAt := now.stamp }
  else row

/-- The row after a review. -/
def reviewed (status : VerificationStatus) (comments : Option String) (now : Instant)
    (row : Row) : Row :=
  if Table.admits [.processing] row then row
  else { row with status := statusText status, comments, updatedAt := now.stamp }

@[simp] theorem id_marked (now : Instant) (row : Row) : (row.marked now).id = row.id := by
  unfold marked
  split <;> rfl

@[simp] theorem id_analysed (r : AnalysisResult) (now : Instant) (row : Row) :
    (row.analysed r now).id = row.id := by
  unfold analysed
  split <;> rfl

@[simp] theorem id_reviewed (status : VerificationStatus) (comments : Option String)
    (now : Instant) (row : Row) : (row.reviewed status comments now).id = row.id := by
  unfold reviewed
  split <;> rfl

theorem statusText_injective : Function.Injective statusText := by
  intro a b h
  cases a <;> cases b <;> first | rfl | exact absurd h (by decide)

@[simp] theorem statusText_inj {a b : VerificationStatus} :
    statusText a = statusText b ↔ a = b :=
  statusText_injective.eq_iff

end Row

namespace Table

/-- The rows with the given text for their identifier. -/
def rowsOf (t : Table) (key : String) : List Row := t.filter fun row => row.id = key

/-- The table with the rows of a document changed. -/
def onDocument (t : Table) (key : String) (change : Row → Row) : Table :=
  t.map fun row => if row.id = key then change row else row

theorem mem_rowsOf {t : Table} {key : String} {row : Row} :
    row ∈ t.rowsOf key ↔ row ∈ t ∧ row.id = key := by
  simp [rowsOf]

theorem admits_iff {statuses : List VerificationStatus} {row : Row} :
    admits statuses row = true ↔ ∃ s ∈ statuses, row.status = Row.statusText s := by
  simp [admits]

theorem has_iff {t : Table} {id : DocumentId} :
    t.has id = true ↔ ∃ row ∈ t, row.id = id.text := by
  simp [has]

section OnDocument

variable {t : Table} {key : String} {change : Row → Row}

theorem onDocument_eq_self (h : ∀ row ∈ t, row.id = key → change row = row) :
    t.onDocument key change = t := by
  unfold onDocument
  conv_rhs => rw [← List.map_id t]
  apply List.map_congr_left
  intro row hrow
  by_cases hkey : row.id = key
  · simp [hkey, h row hrow hkey]
  · simp [hkey]

theorem map_id_onDocument (hid : ∀ row, (change row).id = row.id) :
    (t.onDocument key change).map Row.id = t.map Row.id := by
  rw [onDocument, List.map_map]
  apply List.map_congr_left
  intro row _
  by_cases hkey : row.id = key
  · simp [hkey, hid]
  · simp [hkey]

theorem mem_onDocument {row : Row} (h : row ∈ t.onDocument key change) :
    ∃ old ∈ t, (old.id = key ∧ row = change old) ∨ (old.id ≠ key ∧ row = old) := by
  obtain ⟨old, hold, rfl⟩ := List.mem_map.1 h
  refine ⟨old, hold, ?_⟩
  by_cases hkey : old.id = key
  · exact .inl ⟨hkey, by simp [hkey]⟩
  · exact .inr ⟨hkey, by simp [hkey]⟩

theorem rowsOf_onDocument (hid : ∀ row, (change row).id = row.id) :
    (t.onDocument key change).rowsOf key = (t.rowsOf key).map change := by
  induction t with
  | nil => rfl
  | cons row t ih =>
    simp only [onDocument, rowsOf, List.map_cons] at ih ⊢
    by_cases hkey : row.id = key
    · simp [hkey, hid, ih]
    · simp [hkey, ih]

/-- Rows that are selected by other identifiers stay as they are. -/
theorem filter_onDocument {p : String → Bool} (hp : p key = false)
    (hid : ∀ row, (change row).id = row.id) :
    (t.onDocument key change).filter (fun row => p row.id) = t.filter fun row => p row.id := by
  induction t with
  | nil => rfl
  | cons row t ih =>
    simp only [onDocument, List.map_cons] at ih ⊢
    by_cases hkey : row.id = key
    · simp [hkey, hid, hp, ih]
    · simp [hkey, List.filter_cons, ih]

theorem rowsOf_onDocument_of_ne {other : String} (hne : other ≠ key)
    (hid : ∀ row, (change row).id = row.id) :
    (t.onDocument key change).rowsOf other = t.rowsOf other :=
  filter_onDocument (p := fun id => id = other) (decide_eq_false hne.symm) hid

end OnDocument

/-! ## The operations on the table

Each is given by when it is refused and by what it does otherwise. -/

/-- Whether a row of a document is admitted by a guard. -/
def anyRow (t : Table) (id : DocumentId) (guard : Row → Bool) : Bool :=
  t.any fun row => row.id = id.text && guard row

theorem anyRow_iff {t : Table} {id : DocumentId} {guard : Row → Bool} :
    t.anyRow id guard = true ↔ ∃ row ∈ t, row.id = id.text ∧ guard row = true := by
  simp [anyRow]

theorem has_of_anyRow {t : Table} {id : DocumentId} {guard : Row → Bool}
    (h : t.anyRow id guard = true) : t.has id = true := by
  obtain ⟨row, hrow, hid, -⟩ := anyRow_iff.1 h
  exact has_iff.2 ⟨row, hrow, hid⟩

theorem amend_eq (t : Table) (id : DocumentId) (guard : Row → Bool) (change : Row → Row) :
    t.amend id guard change =
      if t.anyRow id guard then
        some (t.onDocument id.text fun row => if guard row then change row else row)
      else none := by
  unfold amend onDocument anyRow
  split
  · congr 2
    funext row
    by_cases hid : row.id = id.text <;> simp [hid]
  · rfl

/-- A change that admits no row of a document changes nothing. -/
theorem onDocument_of_not_anyRow {t : Table} {id : DocumentId} {guard : Row → Bool}
    {change : Row → Row} (h : ¬ t.anyRow id guard = true) :
    (t.onDocument id.text fun row => if guard row then change row else row) = t := by
  apply onDocument_eq_self
  intro row hrow hid
  have : guard row ≠ true := fun hg => h (anyRow_iff.2 ⟨row, hrow, hid, hg⟩)
  simp [this]

theorem mark_eq (t : Table) (id : DocumentId) (now : Instant) :
    t.mark id now =
      if t.has id then .ok (t.onDocument id.text (Row.marked now))
      else .error (.documentNotFound id) := by
  unfold mark
  rw [amend_eq]
  by_cases hany : t.anyRow id (admits [.processing, .pending]) = true
  · simp only [hany, if_true, has_of_anyRow hany]
    rfl
  · have hsame : t.onDocument id.text (Row.marked now) = t := onDocument_of_not_anyRow hany
    simp only [hany, if_false, unchanged, Bool.false_eq_true, hsame]

theorem update_eq (t : Table) (id : DocumentId) (r : AnalysisResult) (now : Instant) :
    t.update id r now =
      if t.has id then
        if r.confidence.isNaN && t.anyRow id (admits [.processing]) then
          .error (.database (.store .updating (.missingValue name "confidence")))
        else .ok (t.onDocument id.text (Row.analysed r now))
      else .error (.documentNotFound id) := by
  unfold update
  rw [amend_eq]
  by_cases hany : t.anyRow id (admits [.processing]) = true
  · simp only [hany, if_true, has_of_anyRow hany, Bool.and_true]
    rfl
  · have hsame : t.onDocument id.text (Row.analysed r now) = t := onDocument_of_not_anyRow hany
    simp only [hany, Bool.and_false, Bool.false_eq_true, if_false, unchanged, hsame]

theorem review_eq (t : Table) (id : DocumentId) (status : VerificationStatus)
    (comments : Option String) (now : Instant) :
    t.review id status comments now =
      if isDecision status then
        if t.has id then
          if t.anyRow id fun row => !admits [.processing] row then
            .ok (t.onDocument id.text (Row.reviewed status comments now))
          else .error (.invalidStatus .stillAnalysed)
        else .error (.documentNotFound id)
      else .error (.invalidStatus (.notADecision status)) := by
  unfold review
  rw [amend_eq]
  by_cases hany : (t.anyRow id fun row => !admits [.processing] row) = true
  · have hreviewed : (fun row => if (!admits [.processing] row) = true then
        { row with status := Row.statusText status, comments, updatedAt := now.stamp }
        else row) = Row.reviewed status comments now := by
      funext row
      unfold Row.reviewed
      by_cases hrow : admits [.processing] row = true <;> simp [hrow]
    simp only [hany, if_true, has_of_anyRow hany, hreviewed]
  · simp only [hany, Bool.false_eq_true, if_false]
    by_cases hhas : t.has id = true <;> simp [hhas]

/-! ## What the operations come to -/

/-- A function on tables does what another says, unless it is refused; then the other says that
nothing happens. -/
def Performs (f : Table → Except Error Table) (effect : Table → Table) : Prop :=
  ∀ t, f t = .ok (effect t) ∨ ((∃ e, f t = .error e) ∧ effect t = t)

theorem insert_performs (r : DocumentRecord) :
    Performs (·.insert r) fun t =>
      if r.confidence.isNaN || t.has r.id then t else t ++ [.ofRecord r] := by
  intro t
  simp only [insert]
  by_cases hnan : r.confidence.isNaN = true
  · exact .inr ⟨⟨_, if_pos hnan⟩, if_pos (by rw [hnan, Bool.true_or])⟩
  · by_cases hhas : t.has r.id = true
    · exact .inr ⟨⟨_, by rw [if_neg hnan, if_pos hhas]⟩, if_pos (by rw [hhas, Bool.or_true])⟩
    · have hfree : ¬ (r.confidence.isNaN || t.has r.id) = true := by
        rw [Bool.or_eq_true, not_or]
        exact ⟨hnan, hhas⟩
      exact .inl (by rw [if_neg hnan, if_neg hhas, if_neg hfree])

/-- A change of rows that there are none of changes nothing. -/
theorem onDocument_of_not_has {t : Table} {id : DocumentId} {change : Row → Row}
    (h : ¬ t.has id = true) : t.onDocument id.text change = t :=
  onDocument_eq_self fun row hrow hid => absurd (has_iff.2 ⟨row, hrow, hid⟩) h

theorem mark_performs (id : DocumentId) (now : Instant) :
    Performs (·.mark id now) (·.onDocument id.text (Row.marked now)) := by
  intro t
  simp only [mark_eq]
  by_cases hhas : t.has id = true
  · exact .inl (if_pos hhas)
  · exact .inr ⟨⟨_, if_neg hhas⟩, onDocument_of_not_has hhas⟩

theorem update_performs (id : DocumentId) (r : AnalysisResult) (now : Instant) :
    Performs (·.update id r now) fun t =>
      if r.confidence.isNaN then t else t.onDocument id.text (Row.analysed r now) := by
  intro t
  simp only [update_eq]
  by_cases hhas : t.has id = true
  · by_cases hany : t.anyRow id (admits [.processing]) = true
    · by_cases hnan : r.confidence.isNaN = true
      · exact .inr ⟨⟨_, by rw [if_pos hhas, hnan, hany]; rfl⟩, if_pos hnan⟩
      · have hguard : ¬ (r.confidence.isNaN && t.anyRow id (admits [.processing])) = true := by
          rw [Bool.and_eq_true]
          exact fun h => hnan h.1
        exact .inl (by rw [if_pos hhas, if_neg hguard, if_neg hnan])
    · have hsame : t.onDocument id.text (Row.analysed r now) = t := onDocument_of_not_anyRow hany
      exact .inl (by simp [hhas, hany, hsame])
  · exact .inr ⟨⟨_, if_neg hhas⟩, by simp [onDocument_of_not_has hhas]⟩

theorem review_performs (id : DocumentId) (status : VerificationStatus)
    (comments : Option String) (now : Instant) :
    Performs (·.review id status comments now) fun t =>
      if isDecision status then t.onDocument id.text (Row.reviewed status comments now)
      else t := by
  intro t
  simp only [review_eq]
  by_cases hdec : isDecision status = true
  · by_cases hhas : t.has id = true
    · by_cases hany : (t.anyRow id fun row => !admits [.processing] row) = true
      · exact .inl (by simp [hdec, hhas, hany])
      · refine .inr ⟨⟨_, by rw [if_pos hdec, if_pos hhas, if_neg hany]⟩, ?_⟩
        rw [if_pos hdec]
        apply onDocument_eq_self
        intro row hrow hid
        by_cases hadm : admits [.processing] row = true
        · exact if_pos hadm
        · exact absurd (anyRow_iff.2 ⟨row, hrow, hid, by simp [hadm]⟩) hany
    · refine .inr ⟨⟨_, by rw [if_pos hdec, if_neg hhas]⟩, ?_⟩
      rw [if_pos hdec, onDocument_of_not_has hhas]
  · exact .inr ⟨⟨_, if_neg hdec⟩, if_neg hdec⟩

end Table

end IdentityDocs
