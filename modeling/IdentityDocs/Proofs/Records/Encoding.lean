import IdentityDocs.Proofs.Document.Id
import IdentityDocs.Proofs.Json.Shape
import IdentityDocs.Proofs.Records.Rows
import IdentityDocs.Proofs.Time.Stamp

/-!
# Rows read back

The row of a record whose times lie in the years that a stamp can hold is read back as the record.
Two parts come back in another form: the path is the one that its text names, and a zero has no
sign, which as a number is the same. The guards see in such a row the status that a reader finds.
-/

namespace IdentityDocs

namespace DocumentRecord

/-- The times of the record lie in the years that a stamp can hold. -/
structure Dated (r : DocumentRecord) : Prop where
  createdAt : r.createdAt.Dated
  updatedAt : r.updatedAt.Dated

/-- The record as the store gives it back. -/
def stored (r : DocumentRecord) : DocumentRecord :=
  { r with path := .ofText r.path.text, confidence := Row.storedNumber r.confidence }

end DocumentRecord

namespace Row

/-! ## Numbers -/

section StoredNumber

open Float.Model

theorem unpacked_beq_self {u : UnpackedFloat} (h : u.isNaN = false) : u.beq u = true := by
  cases u with
  | notANumber => exact absurd h.symm Bool.false_ne_true
  | infinity sign => cases sign <;> rfl
  | zero sign => rfl
  | finite sign m e hm =>
    have hcompare : (compare e e).then (compare m m) = .eq := by simp
    cases sign with
    | positive =>
      change (some ((compare e e).then (compare m m)) == some .eq) = true
      rw [hcompare]
      rfl
    | negative =>
      change (some ((compare e e).then (compare m m)).swap == some .eq) = true
      rw [hcompare]
      rfl

/-- What equals a zero is equalled by it. -/
theorem unpacked_zero_beq {u : UnpackedFloat} {sign : UnpackedFloat.Sign}
    (h : u.beq (.zero sign) = true) : UnpackedFloat.beq (.zero sign) u = true := by
  cases u with
  | notANumber => exact absurd h Bool.false_ne_true
  | infinity other => cases other <;> exact absurd h Bool.false_ne_true
  | zero other => rfl
  | finite other m e hm => cases other <;> exact absurd h Bool.false_ne_true

/-- The stored form of a number is the same number. -/
theorem storedNumber_beq {x : Float} (h : x.isNaN = false) : (storedNumber x == x) = true := by
  unfold storedNumber
  split
  case isFalse => exact unpacked_beq_self h
  case isTrue hx =>
    -- both sides are compared as unpacked numbers, of which the zero is one by evaluation
    have hzero : (0.0 : Float).toModel.unpack = .zero .positive := rfl
    change UnpackedFloat.beq x.toModel.unpack (0.0 : Float).toModel.unpack = true at hx
    change UnpackedFloat.beq (0.0 : Float).toModel.unpack x.toModel.unpack = true
    rw [hzero] at hx ⊢
    exact unpacked_zero_beq hx

end StoredNumber

/-! ## Columns -/

theorem readJson?_choiceText {α : Type} [Enumerated α] (a : α) :
    readJson? Json.choice? (choiceText a) = some a := by
  rw [readJson?, choiceText, Json.parse?_ofChoice, Option.bind_some, Json.choice?_ofChoice]

theorem readData?_dataText (data : Option TextMap) :
    readData? (data.map dataText) = some data := by
  cases data with
  | none => rfl
  | some data =>
    rw [Option.map_some, readData?, readJson?, dataText,
      Json.parse?_compact (Json.plain_ofTextMap data), Option.bind_some,
      Json.textMap?_ofTextMap, Option.map_some]

/-! ## Rows -/

/-- The row of a record is read back. -/
theorem record_ofRecord {r : DocumentRecord} (h : r.Dated) :
    (ofRecord r).record = .ok r.stored := by
  have hread : (ofRecord r).record? = .ok r.stored := by
    unfold record? ofRecord statusText
    simp only [DocumentId.ofText?_text, readJson?_choiceText, readData?_dataText,
      h.createdAt.ofStamp?_stamp, h.updatedAt.ofStamp?_stamp, orColumn]
    rfl
  rw [record, hread]

/-- A guard admits the row of a record by the status of the record. -/
theorem admits_ofRecord {statuses : List VerificationStatus} {r : DocumentRecord} :
    Table.admits statuses (ofRecord r) = true ↔ r.status ∈ statuses := by
  rw [Table.admits_iff]
  constructor
  · rintro ⟨status, hmem, htext⟩
    have hstatus : r.status = status := statusText_injective htext
    exact hstatus ▸ hmem
  · intro hmem
    exact ⟨r.status, hmem, rfl⟩

end Row

/-- Rows of records are read one by one. -/
theorem Table.records_map_ofRecord {rs : List DocumentRecord} (h : ∀ r ∈ rs, r.Dated) :
    records (rs.map Row.ofRecord) = .ok (rs.map DocumentRecord.stored) := by
  unfold records
  induction rs with
  | nil => rfl
  | cons r rs ih =>
    have hfirst : (Row.ofRecord r).record = .ok r.stored := Row.record_ofRecord (h r (by simp))
    have hrest := ih fun r hr => h r (List.mem_cons_of_mem _ hr)
    rw [List.map_cons, List.mapM_cons, hfirst, hrest]
    rfl

end IdentityDocs
