import IdentityDocs.Proofs.Records.Decision
import IdentityDocs.Proofs.Records.Faithful
import IdentityDocs.Proofs.Time.Order

/-!
# Lists of documents

The store sorts rows by the text of the time they were entered. For times that a stamp can hold the
order of the texts is the order of the instants, so a list really is the newest first. As no two
documents were entered at the same instant, there is only one such order, and the shorter lists are
parts of the list of all documents.
-/

namespace IdentityDocs

/-- Sorting by a text, the greatest first, leaves no smaller text in front of a greater one. -/
theorem pairwise_mergeSort_text {α : Type} (key : α → String) (xs : List α) :
    (xs.mergeSort fun a b => !decide (key a < key b)).Pairwise fun a b => key b ≤ key a := by
  have hmay (a b : α) : (!decide (key a < key b)) = true ↔ key b ≤ key a := by
    rw [Bool.not_eq_true', decide_eq_false_iff_not, String.not_lt]
  simp only [← hmay]
  apply List.pairwise_mergeSort
  · intro a b c hab hbc
    rw [hmay] at *
    exact String.le_trans hbc hab
  · intro a b
    rw [Bool.or_eq_true, hmay, hmay]
    exact String.le_total _ _

namespace DocumentRecord

/-- Whether a record may stand before another in a list, by the texts of their times. -/
def newer (a b : DocumentRecord) : Bool := !decide (a.createdAt.stamp < b.createdAt.stamp)

/-- The order of the texts is that of the instants. -/
theorem before_of_stamp_le {a b : DocumentRecord} (ha : a.Dated) (hb : b.Dated)
    (hne : a.createdAt ≠ b.createdAt) (h : b.createdAt.stamp ≤ a.createdAt.stamp) :
    b.createdAt.Before a.createdAt := by
  rcases Instant.before_trichotomy a.createdAt b.createdAt with hlt | heq | hgt
  · have hstamp := (Instant.stamp_lt_stamp_iff ha.createdAt hb.createdAt).2 hlt
    exact absurd h (String.not_le.2 hstamp)
  · exact absurd heq hne
  · exact hgt

/-- Sorted records of different instants are in the strict order of the instants. -/
theorem pairwise_mergeSort_newer {rs : List DocumentRecord} (hdated : ∀ r ∈ rs, r.Dated)
    (hne : rs.Pairwise fun a b => a.createdAt ≠ b.createdAt) :
    (rs.mergeSort newer).Pairwise fun a b => b.createdAt.Before a.createdAt := by
  have hsorted : (rs.mergeSort newer).Pairwise fun a b =>
      b.createdAt.stamp ≤ a.createdAt.stamp := by
    unfold newer
    exact pairwise_mergeSort_text (fun r : DocumentRecord => r.createdAt.stamp) rs
  have hperm : (rs.mergeSort newer).Perm rs := List.mergeSort_perm rs newer
  have hne' : (rs.mergeSort newer).Pairwise fun a b => a.createdAt ≠ b.createdAt :=
    (hperm.pairwise_iff fun h => h.symm).2 hne
  refine (hsorted.and hne').imp_of_mem fun {a b} ha hb h => ?_
  exact before_of_stamp_le (hdated a (hperm.mem_iff.1 ha)) (hdated b (hperm.mem_iff.1 hb)) h.2 h.1

/-- Sorting a part of the records gives a part of the sorted records. -/
theorem mergeSort_filter {rs : List DocumentRecord} (hdated : ∀ r ∈ rs, r.Dated)
    (hne : rs.Pairwise fun a b => a.createdAt ≠ b.createdAt) (p : DocumentRecord → Bool) :
    (rs.filter p).mergeSort newer = (rs.mergeSort newer).filter p := by
  have hleft : ((rs.filter p).mergeSort newer).Pairwise fun a b =>
      b.createdAt.Before a.createdAt :=
    pairwise_mergeSort_newer (fun r hr => hdated r (List.mem_filter.1 hr).1)
      (hne.sublist List.filter_sublist)
  have hright : ((rs.mergeSort newer).filter p).Pairwise fun a b =>
      b.createdAt.Before a.createdAt :=
    (pairwise_mergeSort_newer hdated hne).sublist List.filter_sublist
  have hperm : ((rs.filter p).mergeSort newer).Perm ((rs.mergeSort newer).filter p) :=
    (List.mergeSort_perm _ _).trans ((List.mergeSort_perm rs newer).filter p).symm
  refine hperm.eq_of_pairwise (fun a b _ _ hab hba => ?_) hleft hright
  exact absurd hba hab.asymm

end DocumentRecord

namespace Table

/-- The rows of records are sorted as the records are. -/
theorem newestFirst_map_ofRecord (rs : List DocumentRecord) :
    newestFirst (rs.map Row.ofRecord) = (rs.mergeSort DocumentRecord.newer).map Row.ofRecord := by
  unfold newestFirst
  symm
  exact List.map_mergeSort fun a _ b _ => rfl

section Records

variable {rs : List DocumentRecord} (hdated : ∀ r ∈ rs, r.Dated)

include hdated

theorem all_map_ofRecord :
    all (rs.map Row.ofRecord) =
      .ok ((rs.mergeSort DocumentRecord.newer).map DocumentRecord.stored) := by
  rw [all, newestFirst_map_ofRecord]
  apply records_map_ofRecord
  intro r hr
  exact hdated r (List.mem_mergeSort.1 hr)

variable (hne : rs.Pairwise fun a b => a.createdAt ≠ b.createdAt)

include hne

/-- A list of rows that a query selects is the sorted list of all records, as far as the query
selects their rows. -/
theorem records_newestFirst_filter {select : Row → Bool} {p : DocumentRecord → Bool}
    (hp : ∀ r : DocumentRecord, select (.ofRecord r) = p r.stored) :
    records (newestFirst ((rs.map Row.ofRecord).filter select)) =
      .ok (((rs.mergeSort DocumentRecord.newer).map DocumentRecord.stored).filter p) := by
  have hselect : select ∘ Row.ofRecord = p ∘ DocumentRecord.stored := funext hp
  rw [List.filter_map, hselect, newestFirst_map_ofRecord,
    DocumentRecord.mergeSort_filter hdated hne, List.filter_map]
  apply records_map_ofRecord
  intro r hr
  exact hdated r (List.mem_mergeSort.1 (List.mem_filter.1 hr).1)

theorem ofOwner_map_ofRecord (owner : String) :
    ofOwner (rs.map Row.ofRecord) owner =
      .ok (((rs.mergeSort DocumentRecord.newer).map DocumentRecord.stored).filter
        fun r => r.owner = owner) :=
  records_newestFirst_filter hdated hne fun _ => rfl

theorem reviewQueue_map_ofRecord :
    reviewQueue (rs.map Row.ofRecord) =
      .ok (((rs.mergeSort DocumentRecord.newer).map DocumentRecord.stored).filter
        fun r => r.status = .pending ∨ r.status = .rejected) := by
  apply records_newestFirst_filter hdated hne
  intro r
  rw [Bool.eq_iff_iff, Row.admits_ofRecord, List.mem_pair]
  exact decide_eq_true_iff.symm

end Records

end Table

namespace Store

/-! ## Creation instants -/

/-- The record that an operation leaves was created when the one before it was, or is entered by the
operation. -/
theorem Operation.createdAt_onRecord {op : Operation} {id : DocumentId}
    {r? : Option DocumentRecord} {r : DocumentRecord} (h : op.onRecord id r? = some r) :
    (∃ old ∈ r?, old.createdAt = r.createdAt) ∨
      ∃ new, op = .insert new ∧ new.id = id ∧ new.createdAt = r.createdAt := by
  cases makes_of_onRecord h with
  | keep => exact .inl ⟨r, rfl, rfl⟩
  | enter r hid => exact .inr ⟨r, rfl, hid, rfl⟩
  | mark old now => exact .inl ⟨old, rfl, (old.createdAt_marked now).symm⟩
  | update old result now => exact .inl ⟨old, rfl, (old.createdAt_analysed result now).symm⟩
  | review old status comments now =>
    exact .inl ⟨old, rfl, (old.createdAt_reviewed status comments now).symm⟩

/-- A document was created at the instant with which its record was entered. -/
theorem exists_insert_of_recordAfter {ops : List Operation} {id : DocumentId}
    {r : DocumentRecord} (h : recordAfter id ops = some r) :
    ∃ new, Operation.insert new ∈ ops ∧ new.id = id ∧ new.createdAt = r.createdAt := by
  induction ops using List.reverseRecOn generalizing r with
  | nil => exact absurd h (by simp [recordAfter])
  | append_singleton ops op ih =>
    rw [recordAfter_append_singleton] at h
    rcases Operation.createdAt_onRecord h with ⟨old, hold, hcreated⟩ | ⟨new, rfl, hid, hcreated⟩
    · obtain ⟨new, hnew, hid, hsame⟩ := ih hold
      exact ⟨new, List.mem_append_left _ hnew, hid, hsame.trans hcreated⟩
    · exact ⟨new, by simp, hid, hcreated⟩

/-- No two documents of the store were created at the same instant. -/
def DistinctlyCreated (s : Store) : Prop :=
  ∀ a b ra rb, s.get? a = .ok (some ra) → s.get? b = .ok (some rb) →
    ra.createdAt = rb.createdAt → a = b

/-- It is enough that no two documents are entered with the same instant. -/
theorem distinctlyCreated_afterAll {ops : List Operation} (hops : ∀ op ∈ ops, op.Dated)
    (h : ∀ a b, Operation.insert a ∈ ops → Operation.insert b ∈ ops →
      a.createdAt = b.createdAt → a.id = b.id) : (empty.afterAll ops).DistinctlyCreated := by
  intro a b ra rb ha hb hcreated
  rw [get?_afterAll hops, Except.ok.injEq, Option.map_eq_some_iff] at ha hb
  obtain ⟨oldA, holdA, rfl⟩ := ha
  obtain ⟨oldB, holdB, rfl⟩ := hb
  obtain ⟨newA, hnewA, rfl, hcreatedA⟩ := exists_insert_of_recordAfter holdA
  obtain ⟨newB, hnewB, rfl, hcreatedB⟩ := exists_insert_of_recordAfter holdB
  exact h newA newB hnewA hnewB (hcreatedA.trans (hcreated.trans hcreatedB.symm))

/-! ## Lists -/

/-- Rows of records that have a property are the rows of a list of such records. -/
theorem exists_map_ofRecord {P : DocumentRecord → Prop} {rows : List Row}
    (h : ∀ row ∈ rows, ∃ r, P r ∧ row = .ofRecord r) :
    ∃ rs : List DocumentRecord, rows = rs.map Row.ofRecord ∧ ∀ r ∈ rs, P r := by
  induction rows with
  | nil => exact ⟨[], rfl, fun r hr => absurd hr List.not_mem_nil⟩
  | cons row rows ih =>
    obtain ⟨r, hr, rfl⟩ := h row (by simp)
    obtain ⟨rs, rfl, hrs⟩ := ih fun other hother => h other (List.mem_cons_of_mem _ hother)
    exact ⟨r :: rs, rfl, List.forall_mem_cons.2 ⟨hr, hrs⟩⟩

/-- After a history the table consists of the rows of the records that the history makes, one for
each document that has one. -/
theorem exists_table_eq_map {ops : List Operation} (hops : ∀ op ∈ ops, op.Dated) :
    ∃ rs : List DocumentRecord, (empty.afterAll ops).table = some (rs.map Row.ofRecord) ∧
      (rs.map DocumentRecord.id).Nodup ∧
      ∀ id r, recordAfter id ops = some r ↔ r ∈ rs ∧ r.id = id := by
  obtain ⟨t, ht, hholds⟩ := holds_afterAll ops
  have hrows : ∀ row ∈ t, ∃ r, recordAfter r.id ops = some r ∧ row = .ofRecord r := by
    intro row hrow
    obtain ⟨id, r, hr, heq⟩ := hholds.exists_record hrow
    have hid : r.id = id := (keeps_recordAfter hops r hr).id_eq
    exact ⟨r, by rwa [hid], heq⟩
  obtain ⟨rs, rfl, hrs⟩ := exists_map_ofRecord hrows
  refine ⟨rs, ht, ?_, fun id r => ⟨fun hr => ?_, fun ⟨hmem, hid⟩ => hid ▸ hrs r hmem⟩⟩
  · have hkeyed : Table.Keyed (rs.map Row.ofRecord) := Reachable.keyed ⟨ops, rfl⟩ _ ht
    have hids : (rs.map Row.ofRecord).map Row.id =
        (rs.map DocumentRecord.id).map DocumentId.text := by
      rw [List.map_map, List.map_map]
      rfl
    rw [Table.Keyed, hids] at hkeyed
    exact hkeyed.of_map _
  · have hid : r.id = id := (keeps_recordAfter hops r hr).id_eq
    have hrow : Row.ofRecord r ∈ Table.rowsOf (rs.map Row.ofRecord) id.text := by
      rw [hholds.rowsOf_eq id, hr]
      exact List.mem_singleton.2 rfl
    obtain ⟨other, hother, heq⟩ := List.mem_map.1 (Table.mem_rowsOf.1 hrow).1
    -- the row belongs to a record of the list, which is the record of the same document
    have hsame : other.id = r.id := DocumentId.text_injective (congrArg Row.id heq)
    have hrecord : some other = some r := by rw [← hrs other hother, hsame, hid, hr]
    exact ⟨Option.some_inj.1 hrecord ▸ hother, hid⟩

/-- **Lists are complete and newest first.** After a history whose times lie in the years 0 to 9999,
if no two documents were created at the same instant, the list of all documents has each document
once, and each was created before the one that stands before it. The documents of an owner and the
documents that a reviewer may look at are those parts of this list. -/
theorem all_newest_first {ops : List Operation} (hops : ∀ op ∈ ops, op.Dated)
    (hdistinct : (empty.afterAll ops).DistinctlyCreated) :
    ∃ rs, (empty.afterAll ops).all = .ok rs ∧
      (∀ id r, (empty.afterAll ops).get? id = .ok (some r) ↔ r ∈ rs ∧ r.id = id) ∧
      (rs.map DocumentRecord.id).Nodup ∧
      rs.Pairwise (fun a b => b.createdAt.Before a.createdAt) ∧
      (∀ owner, (empty.afterAll ops).ofOwner owner = .ok (rs.filter fun r => r.owner = owner)) ∧
      (empty.afterAll ops).reviewQueue =
        .ok (rs.filter fun r => r.status = .pending ∨ r.status = .rejected) := by
  obtain ⟨rs, ht, hnodup, hrecords⟩ := exists_table_eq_map hops
  have hdated : ∀ r ∈ rs, r.Dated := fun r hr =>
    (keeps_recordAfter hops r ((hrecords r.id r).2 ⟨hr, rfl⟩)).dated
  have hget : ∀ r ∈ rs, (empty.afterAll ops).get? r.id = .ok (some r.stored) := by
    intro r hr
    rw [get?_afterAll hops, (hrecords r.id r).2 ⟨hr, rfl⟩, Option.map_some]
  have hne : rs.Pairwise fun a b => a.createdAt ≠ b.createdAt := by
    refine (List.pairwise_map.1 hnodup).imp_of_mem fun {a b} ha hb hid hcreated => hid ?_
    exact hdistinct a.id b.id _ _ (hget a ha) (hget b hb) hcreated
  have hperm : (rs.mergeSort DocumentRecord.newer).Perm rs := List.mergeSort_perm rs _
  have hids : ((rs.mergeSort DocumentRecord.newer).map DocumentRecord.stored).map
      DocumentRecord.id = (rs.mergeSort DocumentRecord.newer).map DocumentRecord.id :=
    List.map_map
  refine ⟨(rs.mergeSort DocumentRecord.newer).map DocumentRecord.stored, ?_, fun id r => ?_, ?_,
    ?_, fun owner => ?_, ?_⟩
  · rw [Store.all, ask, ht]
    exact Table.all_map_ofRecord hdated
  · rw [get?_afterAll hops, Except.ok.injEq, Option.map_eq_some_iff, List.mem_map]
    simp only [hperm.mem_iff, hrecords]
    constructor
    · rintro ⟨old, ⟨hmem, hid⟩, rfl⟩
      exact ⟨⟨old, hmem, rfl⟩, hid⟩
    · rintro ⟨⟨old, hmem, rfl⟩, hid⟩
      exact ⟨old, ⟨hmem, hid⟩, rfl⟩
  · rw [hids]
    exact (hperm.map DocumentRecord.id).nodup_iff.2 hnodup
  · rw [List.pairwise_map]
    exact DocumentRecord.pairwise_mergeSort_newer hdated hne
  · rw [Store.ofOwner, ask, ht]
    exact Table.ofOwner_map_ofRecord hdated hne owner
  · rw [Store.reviewQueue, ask, ht]
    exact Table.reviewQueue_map_ofRecord hdated hne

/-! ### Instants of one second -/

/-- An identifier for examples of three documents. -/
def thirdId : DocumentId where
  digits := List.replicate 32 (DocumentId.digitOf 2)

/-- Three documents that were created within one second, with fractions of different lengths. -/
def sampleArrivals : List Operation :=
  [.insert { sampleRecord with id := otherId, createdAt := ⟨0, 500000000⟩ },
    .insert { sampleRecord with owner := "user-2", status := .pending },
    .insert { sampleRecord with id := thirdId, createdAt := ⟨0, 500000001⟩ }]

/-- The documents of one second are listed, the newest first. -/
theorem sampleArrivals_newest_first :
    (∀ op ∈ sampleArrivals, op.Dated) ∧ (empty.afterAll sampleArrivals).DistinctlyCreated ∧
      ∃ rs, (empty.afterAll sampleArrivals).all = .ok rs ∧
        (∀ id r, (empty.afterAll sampleArrivals).get? id = .ok (some r) ↔ r ∈ rs ∧ r.id = id) ∧
        rs.Pairwise fun a b => b.createdAt.Before a.createdAt := by
  have hdated : ∀ op ∈ sampleArrivals, op.Dated := by
    simp only [sampleArrivals, List.mem_cons, List.not_mem_nil, or_false]
    rintro op (rfl | rfl | rfl)
    · exact ⟨⟨by decide, by decide, by decide⟩, ⟨by decide, by decide, by decide⟩⟩
    · exact ⟨⟨by decide, by decide, by decide⟩, ⟨by decide, by decide, by decide⟩⟩
    · exact ⟨⟨by decide, by decide, by decide⟩, ⟨by decide, by decide, by decide⟩⟩
  have hdistinct : (empty.afterAll sampleArrivals).DistinctlyCreated := by
    apply distinctlyCreated_afterAll hdated
    simp only [sampleArrivals, List.mem_cons, List.not_mem_nil, or_false,
      Operation.insert.injEq]
    rintro a b (rfl | rfl | rfl) (rfl | rfl | rfl) hcreated
    all_goals first | rfl | exact absurd hcreated (by decide)
  obtain ⟨rs, hall, hmem, -, hsorted, -⟩ := all_newest_first hdated hdistinct
  exact ⟨hdated, hdistinct, rs, hall, hmem, hsorted⟩

end Store

end IdentityDocs
