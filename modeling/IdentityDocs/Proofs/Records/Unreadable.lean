import IdentityDocs.Proofs.Records.Listing
import Mathlib.Data.List.Forall2

/-!
# Rows that cannot be read

Anybody may have written into the columns of a row. A query selects rows and sorts them by the texts
that stand there, and only then reads them, one after the other. It answers with the records of all
rows that it selected, or with an error that names the first column that is not readable of the
first such row (`Table.Answers`). Rows that it does not select have no part in this, since the rows
selected and the order of their times are all that the answer is made of.

No two rows were entered at the same time here, so that there is one order only.
-/

namespace IdentityDocs

section Except

variable {α β ε : Type} {x : Except ε α} {f : α → Except ε β}

theorem bind_eq_ok_iff {b : β} : x >>= f = .ok b ↔ ∃ a, x = .ok a ∧ f a = .ok b := by
  cases x <;> simp [bind, Except.bind]

theorem bind_eq_error_iff {e : ε} :
    x >>= f = .error e ↔ x = .error e ∨ ∃ a, x = .ok a ∧ f a = .error e := by
  cases x <;> simp [bind, Except.bind]

end Except

namespace Row

/-! ## The columns of a row -/

/-- The row reads as the record: the texts of six columns denote its parts, and the other columns
hold theirs as they are. -/
structure Converts (row : Row) (r : DocumentRecord) : Prop where
  id : DocumentId.ofText? row.id = some r.id
  kind : readJson? Json.choice? row.kind = some r.kind
  status : readJson? Json.choice? row.status = some r.status
  extractedData : readData? row.extractedData = some r.extractedData
  createdAt : Instant.ofStamp? row.createdAt = some r.createdAt
  updatedAt : Instant.ofStamp? row.updatedAt = some r.updatedAt
  owner : r.owner = row.owner
  path : r.path = .ofText row.path
  uploadName : r.uploadName = row.uploadName
  mimeType : r.mimeType = row.mimeType
  confidence : r.confidence = row.confidence
  comments : r.comments = row.comments

/-- The text of the column denotes no value of the column's type. -/
def Unreadable (row : Row) : Column → Prop
  | .id => DocumentId.ofText? row.id = none
  | .kind => readJson? (Json.choice? : Json → Option DocumentKind) row.kind = none
  | .status => readJson? (Json.choice? : Json → Option VerificationStatus) row.status = none
  | .extractedData => readData? row.extractedData = none
  | .createdAt => Instant.ofStamp? row.createdAt = none
  | .updatedAt => Instant.ofStamp? row.updatedAt = none

/-- The column is the first of the row that is not readable. -/
structure FailsAt (row : Row) (column : Column) : Prop where
  unreadable : row.Unreadable column
  first : ∀ other, row.Unreadable other → column.index ≤ other.index

variable {row : Row} {r : DocumentRecord} {column : Column}

theorem orColumn_eq_ok_iff {α : Type} {value : Option α} {a : α} :
    orColumn column value = .ok a ↔ value = some a := by
  cases value <;> simp [orColumn]

theorem orColumn_eq_error_iff {α : Type} {value : Option α} {other : Column} :
    orColumn column value = .error other ↔ value = none ∧ column = other := by
  cases value <;> simp [orColumn]

theorem record?_eq_ok_iff : row.record? = .ok r ↔ row.Converts r := by
  simp only [record?, bind_eq_ok_iff, orColumn_eq_ok_iff]
  constructor
  · rintro ⟨id, hid, kind, hkind, status, hstatus, data, hdata, created, hcreated, updated,
      hupdated, hr⟩
    obtain rfl := Except.ok.inj hr
    exact ⟨hid, hkind, hstatus, hdata, hcreated, hupdated, rfl, rfl, rfl, rfl, rfl, rfl⟩
  · intro h
    refine ⟨_, h.id, _, h.kind, _, h.status, _, h.extractedData, _, h.createdAt, _, h.updatedAt, ?_⟩
    rw [← h.owner, ← h.path, ← h.uploadName, ← h.mimeType, ← h.confidence, ← h.comments]
    rfl

/-- The columns are read in their order, and reading stops at the first that is not readable. -/
theorem failsAt_of_record? (h : row.record? = .error column) : row.FailsAt column := by
  simp only [record?, bind_eq_error_iff, orColumn_eq_ok_iff, orColumn_eq_error_iff] at h
  obtain ⟨hid, rfl⟩ | ⟨id, hid, ⟨hkind, rfl⟩ | ⟨kind, hkind, ⟨hstatus, rfl⟩ | ⟨status, hstatus,
    ⟨hdata, rfl⟩ | ⟨data, hdata, ⟨hcreated, rfl⟩ | ⟨created, hcreated, ⟨hupdated, rfl⟩ |
    ⟨updated, hupdated, hok⟩⟩⟩⟩⟩⟩ := h
  case inr.inr.inr.inr.inr.inr => cases hok
  -- the columns in front were read, so that none of them comes before this one
  all_goals
    refine ⟨by assumption, fun other hother => ?_⟩
    cases other <;> simp_all [Unreadable, Column.index]

theorem Column.index_injective : Function.Injective Column.index := by
  intro a b h
  cases a <;> cases b <;> first | rfl | exact absurd h (by decide)

theorem FailsAt.eq {other : Column} (h : row.FailsAt column) (h' : row.FailsAt other) :
    column = other :=
  Column.index_injective (Nat.le_antisymm (h.first other h'.unreadable)
    (h'.first column h.unreadable))

/-- A row that converts has no column that is not readable. -/
theorem Converts.readable (h : row.Converts r) (column : Column) : ¬ row.Unreadable column := by
  cases column <;> simp [Unreadable, h.id, h.kind, h.status, h.extractedData, h.createdAt,
    h.updatedAt]

theorem record?_eq_error_iff : row.record? = .error column ↔ row.FailsAt column := by
  constructor
  · exact failsAt_of_record?
  · intro h
    cases hrecord : row.record? with
    | ok r => exact absurd h.unreadable ((record?_eq_ok_iff.1 hrecord).readable column)
    | error other => rw [h.eq (failsAt_of_record? hrecord)]

/-- The error that names a column. -/
def unreadableError (column : Column) : Error :=
  .database (.store .readingRow (.conversion column.index))

theorem record_eq_ok_iff : row.record = .ok r ↔ row.Converts r := by
  rw [← record?_eq_ok_iff, record]
  cases row.record? <;> simp

theorem record_eq_error_iff {e : Error} :
    row.record = .error e ↔ ∃ column, row.FailsAt column ∧ e = unreadableError column := by
  simp only [← record?_eq_error_iff, record]
  cases row.record? with
  | ok r => simp
  | error column => simp [unreadableError, eq_comm]

/-- A row is readable just if it converts to a record. -/
theorem exists_converts_iff : (∃ r, row.Converts r) ↔ ∀ column, ¬ row.Unreadable column := by
  constructor
  · rintro ⟨r, h⟩
    exact h.readable
  · intro h
    cases hrecord : row.record? with
    | ok r => exact ⟨r, record?_eq_ok_iff.1 hrecord⟩
    | error column => exact absurd (failsAt_of_record? hrecord).unreadable (h column)

end Row

namespace Table

open Row

/-! ## Reading the rows that were selected -/

/-- The answer of a query whose rows are read in this order: the records of all, or an error that
names the first unreadable column of the first row with one. -/
structure Answers (rows : List Row) (answer : Except Error (List DocumentRecord)) : Prop where
  ok : ∀ rs, answer = .ok rs ↔ List.Forall₂ Converts rows rs
  error : ∀ e, answer = .error e ↔ ∃ before row after column, rows = before ++ row :: after ∧
    (∀ earlier ∈ before, ∃ r, earlier.Converts r) ∧ row.FailsAt column ∧
    e = unreadableError column

theorem records_cons (row : Row) (rows : List Row) : records (row :: rows) =
    row.record >>= fun r => records rows >>= fun rs => .ok (r :: rs) :=
  List.mapM_cons

theorem records_eq_ok_iff {rows : List Row} {rs : List DocumentRecord} :
    records rows = .ok rs ↔ List.Forall₂ Converts rows rs := by
  induction rows generalizing rs with
  | nil => cases rs <;> simp [records, pure, Except.pure]
  | cons row rows ih =>
    simp only [records_cons, bind_eq_ok_iff, record_eq_ok_iff, ih, List.forall₂_cons_left_iff,
      Except.ok.injEq]
    constructor
    · rintro ⟨r, hr, rest, hrest, rfl⟩
      exact ⟨r, rest, hr, hrest, rfl⟩
    · rintro ⟨r, rest, hr, hrest, rfl⟩
      exact ⟨r, hr, rest, hrest, rfl⟩

/-- The error is that of the first row that fails. -/
theorem records_eq_error_iff {rows : List Row} {e : Error} :
    records rows = .error e ↔ ∃ before row after column, rows = before ++ row :: after ∧
      (∀ earlier ∈ before, ∃ r, earlier.Converts r) ∧ row.FailsAt column ∧
      e = unreadableError column := by
  induction rows with
  | nil => simp [records, pure, Except.pure]
  | cons row rows ih =>
    simp only [records_cons, bind_eq_error_iff, record_eq_ok_iff, record_eq_error_iff, ih]
    constructor
    · rintro (⟨column, hfails, rfl⟩ | ⟨r, hr, hrest | ⟨rs, -, hok⟩⟩)
      · exact ⟨[], row, rows, column, rfl, by simp, hfails, rfl⟩
      · obtain ⟨before, other, after, column, rfl, hbefore, hfails, rfl⟩ := hrest
        refine ⟨row :: before, other, after, column, rfl, ?_, hfails, rfl⟩
        exact List.forall_mem_cons.2 ⟨⟨r, hr⟩, hbefore⟩
      · cases hok
    · rintro ⟨before, other, after, column, hrows, hbefore, hfails, rfl⟩
      cases before with
      | nil =>
        obtain ⟨rfl, rfl⟩ := List.cons.inj hrows
        exact .inl ⟨column, hfails, rfl⟩
      | cons first before =>
        obtain ⟨rfl, rfl⟩ := List.cons.inj hrows
        obtain ⟨⟨r, hr⟩, hbefore⟩ := List.forall_mem_cons.1 hbefore
        exact .inr ⟨r, hr, .inl ⟨before, other, after, column, rfl, hbefore, hfails, rfl⟩⟩

theorem answers_records (rows : List Row) : Answers rows (records rows) :=
  ⟨fun _ => records_eq_ok_iff, fun _ => records_eq_error_iff⟩

/-- An answer without an error is given just if every row converts. -/
theorem Answers.exists_ok_iff {rows : List Row} {answer : Except Error (List DocumentRecord)}
    (h : Answers rows answer) :
    (∃ rs, answer = .ok rs) ↔ ∀ row ∈ rows, ∃ r, row.Converts r := by
  constructor
  · rintro ⟨rs, hrs⟩ row hrow
    have hconverts := ((h.ok rs).1 hrs).imp fun row r hr => And.intro (Exists.intro r hr) hr
    exact (List.forall₂_and_left rows rs).1 hconverts |>.1 row hrow
  · intro hall
    cases hanswer : answer with
    | ok rs => exact ⟨rs, rfl⟩
    | error e =>
      obtain ⟨before, row, after, column, hrows, -, hfails, -⟩ := (h.error e).1 hanswer
      have hrow : row ∈ rows := by simp [hrows]
      obtain ⟨r, hr⟩ := hall row hrow
      exact absurd hfails.unreadable (hr.readable column)

/-! ## The rows of a list query -/

/-- No two rows were entered at the same time. -/
def DistinctTimes (t : Table) : Prop := (t.map Row.createdAt).Nodup

variable {t : Table}

theorem newestFirst_perm (rows : List Row) : (newestFirst rows).Perm rows :=
  List.mergeSort_perm _ _

theorem DistinctTimes.nodup (h : t.DistinctTimes) : t.Nodup := h.of_map _

theorem DistinctTimes.filter (h : t.DistinctTimes) (p : Row → Bool) :
    DistinctTimes (t.filter p) :=
  h.sublist (List.filter_sublist.map _)

/-- Rows of different times are listed in the strict order of the texts of their times. -/
theorem pairwise_newestFirst (h : t.DistinctTimes) :
    (newestFirst t).Pairwise fun a b => b.createdAt < a.createdAt := by
  have hsorted : (newestFirst t).Pairwise fun a b => b.createdAt ≤ a.createdAt :=
    pairwise_mergeSort_text Row.createdAt t
  have hne : (newestFirst t).Pairwise fun a b => a.createdAt ≠ b.createdAt := by
    refine ((newestFirst_perm t).pairwise_iff fun h => h.symm).2 ?_
    exact List.pairwise_map.1 h
  refine (hsorted.and hne).imp fun hab => ?_
  exact String.not_le.1 fun hle => hab.2 (String.le_antisymm hle hab.1)

/-- Two tables with the same rows, of different times, are listed in the same way. -/
theorem newestFirst_congr {t' : Table} (h : t.DistinctTimes) (h' : t'.DistinctTimes)
    (hsame : ∀ row, row ∈ t' ↔ row ∈ t) : newestFirst t' = newestFirst t := by
  have hperm : (newestFirst t').Perm (newestFirst t) := by
    have hrows : t'.Perm t := (List.perm_ext_iff_of_nodup h'.nodup h.nodup).2 hsame
    exact (newestFirst_perm t').trans (hrows.trans (newestFirst_perm t).symm)
  refine hperm.eq_of_pairwise (fun a b _ _ hab hba => ?_) (pairwise_newestFirst h')
    (pairwise_newestFirst h)
  exact absurd hba (String.lt_asymm hab)

end Table

/-- The queries that list records. -/
inductive ListQuery
  | all
  | ofOwner (owner : String)
  | reviewQueue

namespace ListQuery

/-- The query selects the row, by what stands in its columns. -/
def Selects : ListQuery → Row → Prop
  | all, _ => True
  | ofOwner owner, row => row.owner = owner
  | reviewQueue, row =>
    row.status = Row.statusText .pending ∨ row.status = Row.statusText .rejected

instance (query : ListQuery) (row : Row) : Decidable (query.Selects row) :=
  match query with
  | all => inferInstanceAs (Decidable True)
  | ofOwner owner => inferInstanceAs (Decidable (row.owner = owner))
  | reviewQueue => inferInstanceAs (Decidable (_ ∨ _))

/-- What the store answers. -/
def answer : ListQuery → Store → Except Error (List DocumentRecord)
  | all, s => s.all
  | ofOwner owner, s => s.ofOwner owner
  | reviewQueue, s => s.reviewQueue

/-- The rows that the query selects, in the order in which they are read. -/
def rows (query : ListQuery) (t : Table) : List Row :=
  Table.newestFirst (t.filter fun row => query.Selects row)

variable {query : ListQuery} {t t' : Table}

theorem answer_eq (query : ListQuery) (t : Table) :
    query.answer ⟨some t⟩ = Table.records (query.rows t) := by
  cases query with
  | all =>
    have hall : t.filter (fun row => all.Selects row) = t :=
      List.filter_eq_self.2 fun _ _ => decide_eq_true trivial
    simp only [answer, Store.all, Store.ask, Table.all, rows, hall]
  | ofOwner owner => rfl
  | reviewQueue =>
    have hselect : Table.admits [.pending, .rejected] =
        fun row => decide (reviewQueue.Selects row) := by
      funext row
      rw [Bool.eq_iff_iff, Table.admits_iff, decide_eq_true_iff, Selects]
      simp
    simp only [answer, Store.reviewQueue, Store.ask, Table.reviewQueue, rows, hselect]

theorem mem_rows {row : Row} : row ∈ query.rows t ↔ row ∈ t ∧ query.Selects row := by
  simp [rows, (Table.newestFirst_perm _).mem_iff]

/-- Rows that a query does not select do not change what it reads. -/
theorem rows_congr (h : t.DistinctTimes) (h' : t'.DistinctTimes)
    (hsame : ∀ row, query.Selects row → (row ∈ t' ↔ row ∈ t)) : query.rows t' = query.rows t := by
  apply Table.newestFirst_congr (h.filter _) (h'.filter _)
  intro row
  simp only [List.mem_filter, decide_eq_true_iff]
  exact and_congr_left (hsame row)

end ListQuery

namespace Table

open Row

variable {t : Table} {id : DocumentId} {row : Row}

/-- What is asked of one document is read off its row. -/
theorem get?_of_rowsOf (h : t.rowsOf id.text = [row]) : t.get? id = row.record.map some := by
  have hread : records (t.rowsOf id.text) = row.record.map fun r => [r] := by
    rw [h, records_cons]
    cases row.record <;> rfl
  unfold rowsOf at hread
  rw [get?, hread]
  cases row.record <;> rfl

theorem get?_of_absent (h : ∀ row ∈ t, row.id ≠ id.text) : t.get? id = .ok none := by
  have hrows : t.filter (fun row => row.id = id.text) = [] := by
    simpa [List.filter_eq_nil_iff] using h
  rw [get?, hrows]
  rfl

theorem Keyed.get?_of_mem (hkeyed : t.Keyed) (hrow : row ∈ t) (hid : row.id = id.text) :
    t.get? id = row.record.map some := by
  obtain ⟨other, hother⟩ := hkeyed.rowsOf_eq (has_iff.2 ⟨row, hrow, hid⟩)
  have hmem : row ∈ t.rowsOf id.text := mem_rowsOf.2 ⟨hrow, hid⟩
  obtain rfl : row = other := by simpa [hother] using hmem
  exact get?_of_rowsOf hother

end Table

namespace Store

open Row Table

variable {t : Table}

/-- **Unreadable rows are reported exactly and stay where they are.** In a table in which every
document has one row and no two rows were entered at the same time, a list query reads the rows that
it selects, by the text of their times, the greatest first. It answers with all their records just
if all of them convert; otherwise it names the first unreadable column of the first row with one.
The rows that it does not select may be any others. A question about a document is answered from the
row of that document in the same way, and from nothing else. -/
theorem unreadable_rows_reported_and_contained (hkeyed : t.Keyed) (htimes : t.DistinctTimes) :
    (∀ query : ListQuery, ∃ rows : List Row, rows.Perm (t.filter fun row => query.Selects row) ∧
      rows.Pairwise (fun a b => b.createdAt < a.createdAt) ∧
      Answers rows (query.answer ⟨some t⟩)) ∧
    (∀ query : ListQuery, (∃ rs, query.answer ⟨some t⟩ = .ok rs) ↔
      ∀ row ∈ t, query.Selects row → ∀ column, ¬ row.Unreadable column) ∧
    (∀ (query : ListQuery) (t' : Table), t'.DistinctTimes →
      (∀ row, query.Selects row → (row ∈ t' ↔ row ∈ t)) →
      query.answer ⟨some t'⟩ = query.answer ⟨some t⟩) ∧
    (∀ id : DocumentId, (∀ row ∈ t, row.id ≠ id.text) → get? ⟨some t⟩ id = .ok none) ∧
    (∀ row ∈ t, ∀ id : DocumentId, row.id = id.text →
      (∀ r, get? ⟨some t⟩ id = .ok (some r) ↔ row.Converts r) ∧
      (∀ e, get? ⟨some t⟩ id = .error e ↔
        ∃ column, row.FailsAt column ∧ e = unreadableError column)) := by
  refine ⟨fun query => ?lists, fun query => ?complete, fun query t' htimes' hsame => ?contained,
    fun id habsent => get?_of_absent habsent, fun row hrow id hid => ?single⟩
  case lists =>
    refine ⟨query.rows t, newestFirst_perm _, pairwise_newestFirst (htimes.filter _), ?_⟩
    rw [query.answer_eq]
    exact answers_records _
  case complete =>
    rw [query.answer_eq, (answers_records _).exists_ok_iff]
    simp only [ListQuery.mem_rows, exists_converts_iff, and_imp]
  case contained =>
    rw [query.answer_eq, query.answer_eq, ListQuery.rows_congr htimes htimes' hsame]
  case single =>
    have hget : get? ⟨some t⟩ id = row.record.map some := hkeyed.get?_of_mem hrow hid
    rw [hget]
    refine ⟨fun r => ?_, fun e => ?_⟩
    · rw [← record_eq_ok_iff]
      cases row.record <;> simp [Except.map]
    · rw [← record_eq_error_iff]
      cases row.record <;> simp [Except.map]

/-! ### A row that was tampered with -/

/-- A row of which neither the kind nor the status nor a time can be read. -/
def damagedRow : Row :=
  { Row.ofRecord { sampleRecord with id := otherId } with
    kind := "?", status := "archived", createdAt := "yesterday" }

/-- The row of a document that waits for a reviewer. -/
def waitingRow : Row := .ofRecord { sampleRecord with status := .pending }

theorem failsAt_damagedRow : damagedRow.FailsAt .kind where
  unreadable := by
    unfold Unreadable
    decide
  first other hother := by
    cases other with
    | id =>
      have hid : DocumentId.ofText? damagedRow.id = some otherId := DocumentId.ofText?_text otherId
      simp [Unreadable, hid] at hother
    | _ => decide

theorem readable_waitingRow (column : Column) : ¬ waitingRow.Unreadable column := by
  have hdated : ({ sampleRecord with status := .pending } : DocumentRecord).Dated :=
    ⟨⟨by decide, by decide, by decide⟩, ⟨by decide, by decide, by decide⟩⟩
  exact (record_eq_ok_iff.1 (record_ofRecord hdated)).readable column

/-- A table with both rows. -/
def damagedTable : Table := [damagedRow, waitingRow]

/-- The damaged row breaks the list of all documents and the question about its own document, and
neither the queue nor the question about a third document. -/
theorem damagedRow_reported_and_contained :
    damagedTable.Keyed ∧ damagedTable.DistinctTimes ∧
      (¬ ∃ rs, ListQuery.all.answer ⟨some damagedTable⟩ = .ok rs) ∧
      get? ⟨some damagedTable⟩ otherId = .error (unreadableError .kind) ∧
      (∃ rs, ListQuery.reviewQueue.answer ⟨some damagedTable⟩ = .ok rs) ∧
      ListQuery.reviewQueue.answer ⟨some [waitingRow]⟩ =
        ListQuery.reviewQueue.answer ⟨some damagedTable⟩ ∧
      get? ⟨some damagedTable⟩ thirdId = .ok none := by
  have hkeyed : damagedTable.Keyed := by
    rw [Table.Keyed]
    decide
  have htimes : damagedTable.DistinctTimes := by
    rw [DistinctTimes]
    decide +kernel
  obtain ⟨-, hcomplete, hcontained, habsent, hsingle⟩ :=
    unreadable_rows_reported_and_contained hkeyed htimes
  have hunselected : ¬ ListQuery.reviewQueue.Selects damagedRow := by
    decide
  refine ⟨hkeyed, htimes, fun hok => ?_, ?_, (hcomplete _).2 ?_, hcontained _ _ ?_ ?_,
    habsent _ ?_⟩
  · exact (hcomplete .all).1 hok damagedRow (by simp [damagedTable]) trivial .kind failsAt_damagedRow.unreadable
  · exact ((hsingle damagedRow (by simp [damagedTable]) otherId rfl).2 _).2 ⟨.kind, failsAt_damagedRow, rfl⟩
  · rintro row hrow hselects
    obtain rfl | rfl := List.mem_pair.1 hrow
    · exact absurd hselects hunselected
    · exact readable_waitingRow
  · rw [DistinctTimes]
    exact List.nodup_singleton _
  · intro row hselects
    simp only [damagedTable, List.mem_cons, List.not_mem_nil, or_false, iff_or_self]
    rintro rfl
    exact absurd hselects hunselected
  · decide

end Store

end IdentityDocs
