import IdentityDocs.Document.Fields

/-!
# The first value that is written stays

What a slot holds, and what a key of the labelled values has, after a write: the value from before
if there was one, and otherwise the value written if it was for that slot or key. Read as options,
both are `Option.or`, so that the first of many writes is `List.findSome?`.
-/

namespace IdentityDocs

/-- The value, if there is one. -/
def FieldValue.value? : FieldValue → Option String
  | notFound => none
  | found value => some value

@[simp] theorem FieldValue.value?_eq_some {slot : FieldValue} {value : String} :
    slot.value? = some value ↔ slot = .found value := by
  cases slot <;> simp [value?]

@[simp] theorem FieldValue.value?_eq_none {slot : FieldValue} :
    slot.value? = none ↔ slot = .notFound := by
  cases slot <;> simp [value?]

theorem FieldValue.value?_injective : Function.Injective value? := by
  intro slot slot' h
  cases slot' with
  | notFound => exact value?_eq_none.1 h
  | found value => exact value?_eq_some.1 h

namespace Fields

theorem value?_get_fill (fields : Fields) (slot other : Field) (value : String) :
    ((fields.fill slot value).1.get other).value? =
      (fields.get other).value?.or (if slot = other then some value else none) := by
  unfold fill
  cases hslot : fields.get slot with
  | found v =>
    by_cases hother : slot = other
    · subst hother
      simp [hslot, FieldValue.value?]
    · simp [hother]
  | notFound =>
    by_cases hother : slot = other
    · subst hother
      simp [hslot, FieldValue.value?]
    · simp [hother, Ne.symm hother]

theorem get_fill_of_ne (fields : Fields) {slot other : Field} (h : other ≠ slot) (value : String) :
    (fields.fill slot value).1.get other = fields.get other := by
  unfold fill
  split
  · rfl
  · rw [get_set, if_neg h]

@[simp] theorem labels_fill (fields : Fields) (slot : Field) (value : String) :
    (fields.fill slot value).1.labels = fields.labels := by
  unfold fill
  split <;> simp

theorem get?_labels_fillLabel (fields : Fields) (key other value : String) :
    (fields.fillLabel key value).1.labels.get? other =
      (fields.labels.get? other).or (if key = other then some value else none) := by
  unfold fillLabel
  cases hkey : fields.labels.get? key with
  | some v =>
    by_cases hother : key = other
    · subst hother
      simp [hkey]
    · simp [hother]
  | none =>
    by_cases hother : key = other
    · subst hother
      simp [hkey]
    · simp [hother, Ne.symm hother]

@[simp] theorem get_fillLabel (fields : Fields) (key value : String) (slot : Field) :
    (fields.fillLabel key value).1.get slot = fields.get slot := by
  unfold fillLabel
  split <;> cases slot <;> rfl

end Fields

end IdentityDocs
