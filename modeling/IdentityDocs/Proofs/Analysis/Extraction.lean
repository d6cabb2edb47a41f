import IdentityDocs.Proofs.Analysis.Labels

/-!
# What an extraction keeps of the label scan

The search for an identifier and the guess at a name come after the scan and write only into a slot
that it left empty; the labelled values and the date of birth are the scan's alone. So what the scan
says of a slot (`get_labelled_eq_found`, `get_labelled_eq_notFound`) is what the lines of the text
say of its fields.
-/

namespace IdentityDocs

variable {t : RecognizedText}

namespace Fields

theorem searchIdentifier_of_found {fields : Fields} {value : String}
    (h : fields.idNumber = .found value) (raw : List Char) :
    fields.searchIdentifier raw = ⟨fields, none⟩ := by
  simp [searchIdentifier, h, FieldValue.isFound]

theorem searchIdentifier_of_notFound {fields : Fields} (h : fields.idNumber = .notFound)
    (raw : List Char) : fields.searchIdentifier raw = match identifier? raw with
      | some (number, category) =>
        ⟨(fields.fill .idNumber (String.ofList number)).1, some category⟩
      | none => ⟨fields, none⟩ := by
  cases hfound : identifier? raw with
  | none => simp [searchIdentifier, h, FieldValue.isFound, hfound]
  | some found => simp [searchIdentifier, h, FieldValue.isFound, hfound]

/-- The search for an identifier writes into the slot for it alone. -/
theorem searchIdentifier_frame (fields : Fields) (raw : List Char) :
    (fields.searchIdentifier raw).fields.labels = fields.labels ∧
      ∀ slot, slot ≠ .idNumber →
        (fields.searchIdentifier raw).fields.get slot = fields.get slot := by
  cases hid : fields.idNumber with
  | found value =>
    rw [searchIdentifier_of_found hid]
    exact ⟨rfl, fun _ _ => rfl⟩
  | notFound =>
    rw [searchIdentifier_of_notFound hid]
    cases identifier? raw with
    | none => exact ⟨rfl, fun _ _ => rfl⟩
    | some found => exact ⟨labels_fill .., fun slot hslot => get_fill_of_ne _ hslot _⟩

theorem guessName_of_found {fields : Fields} {value : String} (h : fields.name = .found value)
    (lines : List (List Char)) : fields.guessName lines = fields := by
  simp [guessName, h, FieldValue.isFound]

/-- The guess at a name writes into the slot for it alone. -/
theorem guessName_frame (fields : Fields) (lines : List (List Char)) :
    (fields.guessName lines).labels = fields.labels ∧
      ∀ slot, slot ≠ .name → (fields.guessName lines).get slot = fields.get slot := by
  cases hname : fields.name with
  | found value =>
    rw [guessName_of_found hname]
    exact ⟨rfl, fun _ _ => rfl⟩
  | notFound =>
    simp only [guessName, hname, FieldValue.isFound, Bool.false_eq_true, if_false]
    cases guessName? lines with
    | none => exact ⟨rfl, fun _ _ => rfl⟩
    | some found => exact ⟨labels_fill .., fun slot hslot => get_fill_of_ne _ hslot _⟩

end Fields

/-- The fields after the label scan. -/
def RecognizedText.labelled (t : RecognizedText) : Fields := Fields.enterLines {} t.lines

open Label (FirstValue Qualifies SomeQualifies)

theorem get_labelled_eq_found (slot : Field) {value : String} :
    t.labelled.get slot = .found value ↔
      FirstValue (Label.tokensOf (·.slot = some slot)) t.lines value.toList := by
  have hempty : (({} : Fields).get slot).value? = none := by cases slot <;> rfl
  rw [← FieldValue.value?_eq_some, RecognizedText.labelled, Fields.value?_get_enterLines, hempty,
    Option.none_or, Label.findSome?_valueFor?]

theorem get_labelled_eq_notFound (slot : Field) :
    t.labelled.get slot = .notFound ↔
      ¬ SomeQualifies (Label.tokensOf (·.slot = some slot)) t.lines := by
  have hempty : (({} : Fields).get slot).value? = none := by cases slot <;> rfl
  rw [← FieldValue.value?_eq_none, RecognizedText.labelled, Fields.value?_get_enterLines, hempty,
    Option.none_or, Label.findSome?_valueFor?_eq_none]

/-- A slot for which some line qualifies has the value of the first. -/
theorem exists_get_labelled (slot : Field)
    (h : SomeQualifies (Label.tokensOf (·.slot = some slot)) t.lines) :
    ∃ value, FirstValue (Label.tokensOf (·.slot = some slot)) t.lines value.toList ∧
      t.labelled.get slot = .found value := by
  cases hslot : t.labelled.get slot with
  | notFound => exact absurd h ((get_labelled_eq_notFound slot).1 hslot)
  | found value => exact ⟨value, (get_labelled_eq_found slot).1 hslot, rfl⟩

theorem get?_labels_labelled {key value : String} :
    t.labelled.labels.get? key = some value ↔
      FirstValue (Label.tokensOf (·.key = key)) t.lines value.toList := by
  have hempty : ({} : Fields).labels.get? key = none := rfl
  rw [RecognizedText.labelled, Fields.get?_labels_enterLines, hempty, Option.none_or,
    Label.findSome?_valueFor?]

theorem extract_labels (t : RecognizedText) : (extract t).fields.labels = t.labelled.labels := by
  have hguess := (t.labelled.searchIdentifier t.raw).fields.guessName_frame t.lines
  have hsearch := t.labelled.searchIdentifier_frame t.raw
  exact hguess.1.trans hsearch.1

theorem extract_dateOfBirth (t : RecognizedText) :
    (extract t).fields.dateOfBirth = t.labelled.dateOfBirth := by
  have hguess := (t.labelled.searchIdentifier t.raw).fields.guessName_frame t.lines
  have hsearch := t.labelled.searchIdentifier_frame t.raw
  exact (hguess.2 .dateOfBirth (by decide)).trans (hsearch.2 .dateOfBirth (by decide))

theorem extract_idNumber (t : RecognizedText) :
    (extract t).fields.idNumber = (t.labelled.searchIdentifier t.raw).fields.idNumber :=
  ((t.labelled.searchIdentifier t.raw).fields.guessName_frame t.lines).2 .idNumber (by decide)

theorem extract_hint (t : RecognizedText) :
    (extract t).hint = (t.labelled.searchIdentifier t.raw).hint := rfl

/-- A labelled name is not guessed at. -/
theorem extract_name_of_found {value : String} (h : t.labelled.name = .found value) :
    (extract t).fields.name = .found value := by
  have hname : (t.labelled.searchIdentifier t.raw).fields.name = .found value :=
    ((t.labelled.searchIdentifier_frame t.raw).2 .name (by decide)).trans h
  have hextract : (extract t).fields = (t.labelled.searchIdentifier t.raw).fields := by
    exact Fields.guessName_of_found hname t.lines
  rw [hextract, hname]

/-- **The label scan finds the first line that qualifies.** A line qualifies for one token at most.
A key is in the map of labelled values just if it is that of a token for which some line qualifies,
and then it has the value of the first such line. The date of birth is the value of the first line
that qualifies for one of its two tokens, and not found if none does. If some line qualifies for a
token of the identifier, the identifier is the value of the first such line, and its form gives no
hint; and the same holds of the name. -/
theorem extract_first_qualifying (t : RecognizedText) :
    (∀ label ∈ Label.all, ∀ other ∈ Label.all, ∀ line value value',
      Qualifies label.token line value → Qualifies other.token line value' → label = other) ∧
    (∀ key value, (extract t).fields.labels.get? key = some value ↔
      ∃ label ∈ Label.all, label.key = key ∧ FirstValue [label.token] t.lines value.toList) ∧
    (∀ value, (extract t).fields.dateOfBirth = .found value ↔
      FirstValue ["DOB", "DATE OF BIRTH"] t.lines value.toList) ∧
    ((extract t).fields.dateOfBirth = .notFound ↔
      ¬ SomeQualifies ["DOB", "DATE OF BIRTH"] t.lines) ∧
    (SomeQualifies ["ID NO", "ACCOUNT NO"] t.lines →
      ∃ value, FirstValue ["ID NO", "ACCOUNT NO"] t.lines value.toList ∧
        (extract t).fields.idNumber = .found value ∧ (extract t).hint = none) ∧
    (SomeQualifies ["NAME"] t.lines →
      ∃ value, FirstValue ["NAME"] t.lines value.toList ∧
        (extract t).fields.name = .found value) := by
  refine ⟨?unique, ?labels, ?dateOfBirth, ?noDateOfBirth, ?idNumber, ?name⟩
  case unique =>
    intro label hlabel other hother line value value' h h'
    exact h.eq hlabel hother h'
  case labels =>
    intro key value
    rw [extract_labels, get?_labels_labelled]
    constructor
    · intro h
      obtain ⟨line, -, token, htoken, -⟩ := h.someQualifies
      obtain ⟨label, hlabel, -⟩ := List.mem_map.1 htoken
      obtain ⟨hmem, hkey⟩ := List.mem_filter.1 hlabel
      obtain rfl : label.key = key := by simpa using hkey
      rw [Label.tokensOf_key label hmem] at h
      exact ⟨label, hmem, rfl, h⟩
    · rintro ⟨label, hmem, rfl, h⟩
      rwa [Label.tokensOf_key label hmem]
  case dateOfBirth =>
    intro value
    rw [extract_dateOfBirth]
    exact get_labelled_eq_found .dateOfBirth
  case noDateOfBirth =>
    rw [extract_dateOfBirth]
    exact get_labelled_eq_notFound .dateOfBirth
  case idNumber =>
    intro h
    obtain ⟨value, hfirst, hvalue⟩ := exists_get_labelled .idNumber h
    have hsearch := Fields.searchIdentifier_of_found hvalue t.raw
    refine ⟨value, hfirst, ?_, ?_⟩
    · rw [extract_idNumber, hsearch]
      exact hvalue
    · rw [extract_hint, hsearch]
  case name =>
    intro h
    obtain ⟨value, hfirst, hvalue⟩ := exists_get_labelled .name h
    exact ⟨value, hfirst, extract_name_of_found hvalue⟩

/-- A card with two names, and with an identifier in a labelled line before another one that only
its form tells. -/
def RecognizedText.labelledCard : RecognizedText :=
  .of "Name : JOHN DOE\nNAME JANE ROE\nid no 99887766\nABCDE1234F"

theorem extract_first_qualifying_labelledCard :
    (∃ value, FirstValue ["ID NO", "ACCOUNT NO"] RecognizedText.labelledCard.lines value.toList ∧
      (extract .labelledCard).fields.idNumber = .found value ∧
      (extract .labelledCard).hint = none) ∧
    (∃ value, FirstValue ["NAME"] RecognizedText.labelledCard.lines value.toList ∧
      (extract .labelledCard).fields.name = .found value) ∧
    (extract .labelledCard).fields.labels.get? "name" = some "JOHN DOE" ∧
    ∀ label ∈ Label.all, ∀ value,
      Qualifies label.token "NAME JANE ROE".toList value → label = ⟨"NAME", some .name⟩ := by
  obtain ⟨hunique, hlabels, -, -, hidNumber, hname⟩ :=
    extract_first_qualifying RecognizedText.labelledCard
  have hfirstName : Qualifies "NAME" "Name : JOHN DOE".toList "JOHN DOE".toList :=
    ⟨"Name".toList, " : JOHN DOE".toList, by decide, by decide, by decide, by decide⟩
  have hsecondName : Qualifies "NAME" "NAME JANE ROE".toList "JANE ROE".toList :=
    ⟨"NAME".toList, " JANE ROE".toList, by decide, by decide, by decide, by decide⟩
  have hnumber : Qualifies "ID NO" "id no 99887766".toList "99887766".toList :=
    ⟨"id no".toList, " 99887766".toList, by decide, by decide, by decide, by decide⟩
  have hlines : RecognizedText.labelledCard.lines = ["Name : JOHN DOE".toList,
      "NAME JANE ROE".toList, "id no 99887766".toList, "ABCDE1234F".toList] := by decide +kernel
  refine ⟨hidNumber ?_, hname ?_, (hlabels "name" "JOHN DOE").2 ?_, ?_⟩
  · exact ⟨_, by rw [hlines]; simp, "ID NO", by simp, _, hnumber⟩
  · exact ⟨_, by rw [hlines]; simp, "NAME", by simp, _, hfirstName⟩
  · exact ⟨⟨"NAME", some .name⟩, by decide, by decide +kernel, [], _, _, hlines,
      ⟨"NAME", by simp, hfirstName⟩, by simp⟩
  · exact fun label hlabel value h => hunique label hlabel _ (by decide) _ value _ h hsecondName

end IdentityDocs
