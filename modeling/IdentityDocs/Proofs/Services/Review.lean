import IdentityDocs.Proofs.Records.Decision
import IdentityDocs.Proofs.Records.Encoding
import IdentityDocs.Proofs.Records.Failure
import IdentityDocs.Services.Desk

/-!
# How a review ends

A review takes three steps: the store enters the decision in the row of the document, the row is
read back, and the decision is recorded in the log. Each step is taken on its own. If the row cannot
be read, the review is answered with that error and goes no further, but the decision stands, and
nothing in the log tells of it.

`Desk.ReviewEndsAs` names the three ways in which a review may end, and `Desk.review_endsAs` says
that it ends in exactly one of them. Which rows cannot be read back after a decision is said by
`Row.exists_record_decided`.
-/

namespace IdentityDocs

/-! ## A decided row -/

namespace Row

/-- The row with the decision of a reviewer. -/
def decided (status : VerificationStatus) (comments : Option String) (now : Instant) (row : Row) :
    Row :=
  { row with status := statusText status, comments, updatedAt := now.stamp }

/-- A decided row can be read if its kind, its values and the time of its creation can: status and
time of the last change are those of the decision. -/
theorem exists_record_decided {row : Row} {id : DocumentId} (hid : row.id = id.text)
    (status : VerificationStatus) (comments : Option String) (now : Instant) :
    (∃ r, (row.decided status comments now).record = .ok r) ↔
      (readJson? Json.choice? row.kind : Option DocumentKind).isSome ∧
        (readData? row.extractedData).isSome ∧ (Instant.ofStamp? row.createdAt).isSome ∧
        (Instant.ofStamp? now.stamp).isSome := by
  have hread : DocumentId.ofText? row.id = some id := by rw [hid, DocumentId.ofText?_text]
  have hstatus : (readJson? Json.choice? (statusText status) : Option VerificationStatus) =
      some status := readJson?_choiceText status
  simp only [record, record?, decided, hread, hstatus, orColumn]
  generalize (readJson? Json.choice? row.kind : Option DocumentKind) = kind
  generalize readData? row.extractedData = data
  generalize Instant.ofStamp? row.createdAt = created
  generalize Instant.ofStamp? now.stamp = updated
  -- the first of the four that is missing is the error
  rcases kind with _ | kind
  · simp [bind, Except.bind]
  rcases data with _ | data
  · simp [bind, Except.bind]
  rcases created with _ | created
  · simp [bind, Except.bind]
  rcases updated with _ | updated
  · simp [bind, Except.bind]
  · simp [bind, Except.bind, pure, Except.pure]

end Row

/-- In a keyed table the record of a document is what is read from its row. -/
theorem Table.get?_append_cons {before after : List Row} {row : Row} {id : DocumentId}
    (hkeyed : Table.Keyed (before ++ row :: after)) (hid : row.id = id.text) :
    Table.get? (before ++ row :: after) id = row.record.map some := by
  have hhas : Table.has (before ++ row :: after) id = true := has_iff.2 ⟨row, by simp, hid⟩
  obtain ⟨only, honly⟩ := hkeyed.rowsOf_eq hhas
  have hrow : row ∈ Table.rowsOf (before ++ row :: after) id.text :=
    mem_rowsOf.2 ⟨by simp, hid⟩
  rw [honly, List.mem_singleton] at hrow
  have hrows : Table.rowsOf (before ++ row :: after) id.text = [row] := by rw [honly, hrow]
  rw [rowsOf] at hrows
  rw [get?, hrows, records]
  cases hrecord : row.record with
  | error e => simp [hrecord, bind, Except.bind, Except.map]
  | ok r => simp [hrecord, bind, Except.bind, pure, Except.pure, Except.map]

namespace Desk

/-- The ways in which a review may end. -/
inductive ReviewEnding
  /-- The store refuses the decision. -/
  | refused
  /-- The decision is entered and recorded. -/
  | recorded
  /-- The decision is entered, but its row cannot be read. -/
  | unrecorded

variable (d : Desk) (id : DocumentId) (status : VerificationStatus) (comments : Option String)

/-- The decision was entered in a row of the document that was not being analysed, and all other
rows are the same. -/
def Decides (row : Row) (d' : Desk) : Prop :=
  Table.isDecision status = true ∧ ∃ before after,
    d.world.store.table = some (before ++ row :: after) ∧ row.id = id.text ∧ ¬ row.Processing ∧
    d'.world.store.table =
      some (before ++ row.decided status comments d.world.later.now :: after)

/-- What it means that a review ends in one of these ways. -/
def ReviewEndsAs (d' : Desk) (answer : Except Error DocumentRecord) : ReviewEnding → Prop
  | .refused => ∃ e, d.world.store.review id status comments d.world.later.now = .error e ∧
      answer = .error e ∧ d' = d
  | .recorded => ∃ row r item, d.Decides id status comments row d' ∧
      (row.decided status comments d.world.later.now).record = .ok r ∧ answer = .ok r ∧
      d'.world.log.items = d.world.log.items.map (· ++ [item]) ∧
      item.action = "review" ∧ item.documentId = id.text ∧ item.success = true ∧
      item.details = some (match comments with
        | some comment => s!"{status.name}: {comment}"
        | none => status.name)
  | .unrecorded => ∃ row e, d.Decides id status comments row d' ∧
      (row.decided status comments d.world.later.now).record = .error e ∧ answer = .error e ∧
      d'.world.log = d.world.log

variable {d id status comments}

/-- The entry that is made of a review whose record was read back. -/
def reviewItem (w : World) (r : DocumentRecord) (id : DocumentId) (status : VerificationStatus)
    (comments : Option String) : Audit.Item where
  timestamp := w.later.now.stamp
  action := Audit.Action.review.name
  documentId := id.text
  fingerprint := Run.fingerprintOf w.files id r.path
  success := true
  details := some (reviewDetails status comments)

theorem recordReview_eq (w : World) (r : DocumentRecord) (id : DocumentId)
    (status : VerificationStatus) (comments : Option String) :
    recordReview w r id status comments =
      { w.later with log := ⟨w.log.items.map (· ++ [reviewItem w r id status comments])⟩ } := by
  obtain ⟨files, store, ⟨items⟩, now⟩ := w
  cases items <;> rfl

/-- The record of a review is one entry in the log, and changes nothing else of what is kept. -/
theorem items_recordReview (w : World) (r : DocumentRecord) (id : DocumentId)
    (status : VerificationStatus) (comments : Option String) :
    (recordReview w r id status comments).store = w.store ∧
      ∃ item, (recordReview w r id status comments).log.items = w.log.items.map (· ++ [item]) ∧
        item.action = "review" ∧ item.documentId = id.text ∧ item.success = true ∧
        item.details = some (reviewDetails status comments) := by
  rw [recordReview_eq]
  exact ⟨rfl, reviewItem w r id status comments, rfl, rfl, rfl, rfl, rfl⟩

/-- A review that the store admits enters the decision, and what is read back is the decided row. -/
theorem exists_decides (hkeyed : d.world.store.Keyed) {store : Store}
    (h : d.world.store.review id status comments d.world.later.now = .ok store) :
    ∃ row, (∀ d' : Desk, d'.world.store = store → d.Decides id status comments row d') ∧
      store.get? id = (row.decided status comments d.world.later.now).record.map some := by
  cases ht : d.world.store.table with
  | none =>
    have hmissing : ∃ e, d.world.store.review id status comments d.world.later.now = .error e := by
      simp only [Store.review, Store.change, ht]
      split
      · exact ⟨_, rfl⟩
      · exact ⟨_, rfl⟩
    obtain ⟨e, hmissing⟩ := hmissing
    rw [hmissing] at h
    cases h
  | some t =>
    have hstore : d.world.store = ⟨some t⟩ := congrArg Store.mk ht
    rw [hstore, Store.review_eq_change] at h
    obtain ⟨t', rfl, hreview⟩ := Store.change_eq_ok_iff.1 h
    obtain ⟨hdecision, before, row, after, hsplit, hid, hopen, hchanged⟩ :=
      (Table.review_eq_ok_iff (hkeyed t ht)).1 hreview
    refine ⟨row, ?_, ?_⟩
    · intro d' hd'
      refine ⟨hdecision, before, after, ?_, hid, hopen, ?_⟩
      · rw [ht, hsplit]
      · rw [hd', hchanged]
        rfl
    · have hids : t'.map Row.id = t.map Row.id := by
        rw [hchanged, hsplit]
        simp
      have hkeyed' : t'.Keyed := by
        rw [Table.Keyed, hids]
        exact hkeyed t ht
      rw [hchanged] at hkeyed' ⊢
      exact Table.get?_append_cons hkeyed' hid

/-- A decision is entered only if the store admits it. -/
theorem Decides.exists_ok (hkeyed : d.world.store.Keyed) {row : Row} {d' : Desk}
    (h : d.Decides id status comments row d') :
    ∃ store, d.world.store.review id status comments d.world.later.now = .ok store := by
  obtain ⟨hdecision, before, after, ht, hid, hopen, -⟩ := h
  have hstore : d.world.store = ⟨some (before ++ row :: after)⟩ := congrArg Store.mk ht
  have hreview : Table.review (before ++ row :: after) id status comments d.world.later.now =
      .ok (before ++ row.decided status comments d.world.later.now :: after) :=
    (Table.review_eq_ok_iff (hkeyed _ ht)).2
      ⟨hdecision, before, row, after, rfl, hid, hopen, rfl⟩
  refine ⟨⟨some (before ++ row.decided status comments d.world.later.now :: after)⟩, ?_⟩
  rw [hstore, Store.review_eq_change]
  exact Store.change_eq_ok_iff.2 ⟨_, rfl, hreview⟩

/-- The way in which a review with a given answer ends. -/
def reviewEnding (d : Desk) (id : DocumentId) (status : VerificationStatus)
    (comments : Option String) (answer : Except Error DocumentRecord) : ReviewEnding :=
  match d.world.store.review id status comments d.world.later.now with
  | .error _ => .refused
  | .ok _ => match answer with
    | .ok _ => .recorded
    | .error _ => .unrecorded

theorem ReviewEndsAs.ending_eq (hkeyed : d.world.store.Keyed) {d' : Desk}
    {answer : Except Error DocumentRecord} {ending : ReviewEnding}
    (h : d.ReviewEndsAs id status comments d' answer ending) :
    ending = d.reviewEnding id status comments answer := by
  cases ending with
  | refused =>
    obtain ⟨e, hrefused, -, -⟩ := h
    simp only [reviewEnding, hrefused]
  | recorded =>
    obtain ⟨row, r, item, hdecides, -, hanswer, -⟩ := h
    obtain ⟨store, hadmitted⟩ := hdecides.exists_ok hkeyed
    simp only [reviewEnding, hadmitted, hanswer]
  | unrecorded =>
    obtain ⟨row, e, hdecides, -, hanswer, -⟩ := h
    obtain ⟨store, hadmitted⟩ := hdecides.exists_ok hkeyed
    simp only [reviewEnding, hadmitted, hanswer]

theorem exists_endsAs (hkeyed : d.world.store.Keyed)
    (haudited : d.settings.auditEnabled = true) (id : DocumentId) (status : VerificationStatus)
    (comments : Option String) :
    ∃ ending, d.ReviewEndsAs id status comments (d.review id status comments).1
      (d.review id status comments).2 ending := by
  cases hreview : d.world.store.review id status comments d.world.later.now with
  | error e =>
    have hrefused : d.world.later.store.review id status comments d.world.later.now = .error e :=
      hreview
    refine ⟨.refused, ?_⟩
    simp only [review, hrefused]
    exact ⟨e, hreview, rfl, rfl⟩
  | ok store =>
    have hadmitted : d.world.later.store.review id status comments d.world.later.now = .ok store :=
      hreview
    obtain ⟨row, hdecides, hread⟩ := exists_decides hkeyed hreview
    cases hrecord : (row.decided status comments d.world.later.now).record with
    | error e =>
      rw [hrecord] at hread
      refine ⟨.unrecorded, ?_⟩
      have hdocument : ∀ d' : Desk, d'.world.store = store → d'.document id = .error e := by
        intro d' hd'
        rw [document, hd', hread]
        rfl
      simp only [review, hadmitted, hdocument]
      exact ⟨row, e, hdecides _ rfl, hrecord, rfl, rfl⟩
    | ok r =>
      rw [hrecord] at hread
      refine ⟨.recorded, ?_⟩
      have hdocument : ∀ d' : Desk, d'.world.store = store → d'.document id = .ok r := by
        intro d' hd'
        rw [document, hd', hread]
        rfl
      let d' : Desk := { d with world := { d.world.later with store } }
      obtain ⟨hstore, item, hitems, haction, hid, hsuccess, hdetails⟩ :=
        items_recordReview d'.world r id status comments
      have hdone : d.review id status comments =
          ({ d' with world := recordReview d'.world r id status comments }, .ok r) := by
        simp only [review, hadmitted, hdocument, haudited, if_true]
        rfl
      rw [hdone]
      exact ⟨row, r, item, hdecides _ hstore, hrecord, rfl, hitems, haction, hid, hsuccess,
        hdetails⟩

/-- **A review ends in one of three ways.** The store refuses the decision and nothing changes; or
the decision is entered, the record is the answer, and one entry in the log tells of it; or the
decision is entered, but its row cannot be read, and the log does not tell of it. -/
theorem review_endsAs (hkeyed : d.world.store.Keyed) (haudited : d.settings.auditEnabled = true)
    (id : DocumentId) (status : VerificationStatus) (comments : Option String) :
    ∃! ending, d.ReviewEndsAs id status comments (d.review id status comments).1
      (d.review id status comments).2 ending := by
  obtain ⟨ending, hends⟩ := exists_endsAs hkeyed haudited id status comments
  refine ⟨ending, hends, ?_⟩
  intro other hother
  rw [hother.ending_eq hkeyed, hends.ending_eq hkeyed]

/-! ### A row of another kind -/

/-- A row of a kind that there is not, of a document that waits for a reviewer. -/
def foreignRow : Row :=
  { Row.ofRecord { Store.sampleRecord with status := .pending } with kind := "\"passport\"" }

/-- A desk with that row. -/
def foreignDesk : Desk where
  world := { files := ⟨[], []⟩, store := ⟨some [foreignRow]⟩, log := .empty, now := ⟨1, 0⟩ }
  directory := none
  settings := {}

/-- A review of that document ends in one way. -/
theorem review_foreignDesk_endsAs :
    foreignDesk.world.store.Keyed ∧ foreignDesk.settings.auditEnabled = true ∧
      ∃! ending, foreignDesk.ReviewEndsAs Store.sampleId .verified none
        (foreignDesk.review Store.sampleId .verified none).1
        (foreignDesk.review Store.sampleId .verified none).2 ending := by
  have hkeyed : foreignDesk.world.store.Keyed := by
    rintro t ⟨rfl⟩
    exact List.nodup_singleton _
  exact ⟨hkeyed, rfl, review_endsAs hkeyed rfl Store.sampleId .verified none⟩

/-- The review is answered with an error, and nothing is recorded, but the document is verified. -/
theorem foreign_decision_unrecorded :
    foreignDesk.settings.auditEnabled = true ∧
      (foreignDesk.review Store.sampleId .verified none).2 =
        .error (.database (.store .readingRow (.conversion 2))) ∧
      foreignDesk.world.store.table.map (·.map Row.status) = some [Row.statusText .pending] ∧
      (foreignDesk.review Store.sampleId .verified none).1.world.store.table.map
        (·.map Row.status) = some [Row.statusText .verified] ∧
      foreignDesk.world.log.items = some [] ∧
      (foreignDesk.review Store.sampleId .verified none).1.world.log.items = some [] := by
  refine ⟨rfl, ?_, rfl, ?_, rfl, ?_⟩
  · rfl
  · rfl
  · rfl

end Desk

end IdentityDocs
