import IdentityDocs.Pipeline.Conclusion
import IdentityDocs.Proofs.Analysis.Provenance

/-!
# What is stored of a result

With a document are stored six values under keys of their own and the labelled values beside them. A
labelled value whose key is one of the six gives way. Among the keys that the label scan can enter
this is `dob` alone: the slot for the date of birth takes the first line for either of two tokens,
so it holds another value than the label just if a line for the other token comes first
(`Label.FirstValue.eq_or_overtaken`).
-/

namespace IdentityDocs

/-! ## Keys -/

namespace TextMap

variable {m : TextMap} {key : String}

/-- The keys that have a value, in ascending order. -/
def keys (m : TextMap) : List String := m.entries.map Prod.fst

theorem mem_keys_iff : key ∈ m.keys ↔ ∃ value, m.get? key = some value := by
  rw [← Option.isSome_iff_exists, get?, List.lookup_isSome_iff, keys, List.mem_map]
  constructor
  · rintro ⟨entry, hentry, rfl⟩
    exact ⟨entry, hentry, beq_self_eq_true _⟩
  · rintro ⟨entry, hentry, hkey⟩
    exact ⟨entry, hentry, (eq_of_beq hkey).symm⟩

/-- Entries for different keys take the place of what was there. -/
theorem get?_foldl_insert {entries : List (String × String)}
    (hdistinct : (entries.map Prod.fst).Nodup) (m : TextMap) :
    (entries.foldl (fun n e => n.insert e.1 e.2) m).get? key =
      (entries.lookup key).or (m.get? key) := by
  induction entries generalizing m with
  | nil => rfl
  | cons entry entries ih =>
    rw [List.map_cons, List.nodup_cons] at hdistinct
    obtain ⟨hfirst, hdistinct⟩ := hdistinct
    rw [List.foldl_cons, ih hdistinct, get?_insert, List.lookup_cons]
    by_cases hkey : key = entry.1
    · have hlater : entries.lookup key = none := by
        rw [List.lookup_eq_none_iff]
        intro e he
        have hne : key ≠ e.1 := by
          rintro rfl
          exact hfirst (List.mem_map.2 ⟨e, he, hkey⟩)
        simpa using hne
      rw [hlater, if_pos hkey, hkey, beq_self_eq_true, Option.none_or, Option.some_or]
    · have hbeq : (key == entry.1) = false := by simpa using hkey
      rw [if_neg hkey, hbeq]

end TextMap

namespace AnalysisResult

/-- The keys under which six values of every result are stored. -/
def fixedKeys : List String :=
  ["document_type", "id_number", "dob", "name_guess", "ai_confidence", "raw_text"]

/-- The six values, in the order of their keys. -/
def fixedValues (r : AnalysisResult) : List String :=
  [r.category.label, r.fields.idNumber.display, r.fields.dateOfBirth.display,
    r.fields.name.display, r.percent, r.rawText]

theorem get?_extractedData (r : AnalysisResult) (key : String) : r.extractedData.get? key =
    ((fixedKeys.zip r.fixedValues).lookup key).or (r.fields.labels.get? key) := by
  have hfold : r.extractedData = (fixedKeys.zip r.fixedValues).foldl
    (fun n e => n.insert e.1 e.2) r.fields.labels := rfl
  have hdistinct : ((fixedKeys.zip r.fixedValues).map Prod.fst).Nodup := by
    have hkeys : (fixedKeys.zip r.fixedValues).map Prod.fst = fixedKeys := rfl
    rw [hkeys]
    decide
  rw [hfold, TextMap.get?_foldl_insert hdistinct]

theorem get?_extractedData_of_notMem {r : AnalysisResult} {key : String} (h : key ∉ fixedKeys) :
    r.extractedData.get? key = r.fields.labels.get? key := by
  have hnone : (fixedKeys.zip r.fixedValues).lookup key = none := by
    rw [List.lookup_eq_none_iff]
    intro e he
    have hne : key ≠ e.1 := ne_of_mem_of_not_mem (List.of_mem_zip he).1 h |>.symm
    simpa using hne
  rw [get?_extractedData, hnone, Option.none_or]

theorem mem_keys_extractedData {r : AnalysisResult} {key : String} :
    key ∈ r.extractedData.keys ↔ key ∈ fixedKeys ∨ key ∈ r.fields.labels.keys := by
  by_cases hfixed : key ∈ fixedKeys
  · have hvalue : ∃ value, r.extractedData.get? key = some value := by
      simp only [fixedKeys, List.mem_cons, List.not_mem_nil, or_false] at hfixed
      rcases hfixed with rfl | rfl | rfl | rfl | rfl | rfl
      all_goals exact ⟨_, get?_extractedData r _⟩
    simp [TextMap.mem_keys_iff, hvalue, hfixed]
  · rw [TextMap.mem_keys_iff, TextMap.mem_keys_iff, get?_extractedData_of_notMem hfixed]
    simp [hfixed]

/-- The key under which the value of a slot is stored. -/
def slotKey : Field → String
  | .idNumber => "id_number"
  | .name => "name_guess"
  | .dateOfBirth => "dob"

theorem get?_slotKey (r : AnalysisResult) (slot : Field) :
    r.extractedData.get? (slotKey slot) = some (r.fields.get slot).display := by
  cases slot <;> exact get?_extractedData r _

end AnalysisResult

/-! ## Two tokens for one slot -/

namespace Label

variable {label other : Label} {lines : List (List Char)} {line value value' : List Char}

theorem Qualifies.eq_value (hlabel : label ∈ all) (h : Qualifies label.token line value)
    (h' : Qualifies label.token line value') : value = value' := by
  have hread : readLine? line = some (label, String.ofList value) :=
    readLine?_eq_some_iff.2 ⟨hlabel, by rwa [String.toList_ofList]⟩
  have hread' : readLine? line = some (label, String.ofList value') :=
    readLine?_eq_some_iff.2 ⟨hlabel, by rwa [String.toList_ofList]⟩
  rw [hread, Option.some.injEq, Prod.mk.injEq] at hread'
  exact String.ofList_injective hread'.2

/-- The value is that of a line for the first token, and a line for the second comes before it. -/
def Overtaken (token other : String) (lines : List (List Char)) (value : List Char) : Prop :=
  ∃ before line after, lines = before ++ line :: after ∧ Qualifies token line value ∧
    SomeQualifies [other] before

/-- The first line for either of two tokens is the first for one of them, or it comes earlier. -/
theorem FirstValue.eq_or_overtaken (hlabel : label ∈ all) (hother : other ∈ all)
    (hne : label ≠ other) (h : FirstValue [label.token] lines value)
    (h' : FirstValue [label.token, other.token] lines value') :
    value' = value ∨ (Overtaken label.token other.token lines value ∧
      FirstValue [other.token] lines value') := by
  obtain ⟨before, line, after, rfl, ⟨_, htoken, hline⟩, hnone⟩ := h
  obtain rfl := List.mem_singleton.1 htoken
  obtain ⟨before', line', after', hsplit, ⟨token, htoken', hline'⟩, hnone'⟩ := h'
  have heither : token = label.token ∨ token = other.token := by simpa using htoken'
  have hsame : line' = line → value' = value := by
    rintro rfl
    rcases heither with rfl | rfl
    · exact hline'.eq_value hlabel hline
    · exact absurd (hline.eq hlabel hother hline') hne
  rcases List.append_eq_append_iff.1 hsplit with ⟨gap, rfl, hgap⟩ | ⟨gap, rfl, hgap⟩
  · cases gap with
    | nil => exact .inl (hsame (List.cons.inj hgap).1.symm)
    | cons first gap =>
      -- the line for the first token would come before the first line for either
      obtain rfl : line = first := (List.cons.inj hgap).1
      exact absurd hline (hnone' line (by simp) label.token (by simp) value)
  · cases gap with
    | nil => exact .inl (hsame (List.cons.inj hgap).1)
    | cons first gap =>
      obtain rfl : line' = first := (List.cons.inj hgap).1
      rcases heither with rfl | rfl
      · exact absurd hline' (hnone line' (by simp) label.token (by simp) value')
      · have hothers : ∀ earlier ∈ before', ∀ token ∈ [other.token], ∀ v,
            ¬ Qualifies token earlier v := by
          intro earlier hearlier token htoken v
          exact hnone' earlier hearlier token (by simp_all) v
        refine .inr ⟨⟨_, line, after, rfl, hline, ?_⟩, ?_⟩
        · exact ⟨line', by simp, other.token, by simp, value', hline'⟩
        · exact ⟨before', line', after', hsplit, ⟨_, by simp, hline'⟩, hothers⟩

end Label

/-! ## Results of texts -/

open Label (FirstValue Overtaken)

variable {t : RecognizedText}

/-- The only label whose key is one of the six is the first token for the date of birth. -/
theorem Label.eq_of_key_mem_fixedKeys : ∀ label ∈ Label.all,
    label.key ∈ AnalysisResult.fixedKeys → label = ⟨"DOB", some .dateOfBirth⟩ := by
  decide

theorem exists_label_of_get?_labels {key value : String}
    (h : t.labelled.labels.get? key = some value) :
    ∃ label ∈ Label.all, label.key = key ∧ FirstValue [label.token] t.lines value.toList := by
  have hfirst := get?_labels_labelled.1 h
  obtain ⟨line, -, token, htoken, -⟩ := hfirst.someQualifies
  obtain ⟨label, hlabel, -⟩ := List.mem_map.1 htoken
  obtain ⟨hmem, hkey⟩ := List.mem_filter.1 hlabel
  obtain rfl : label.key = key := by simpa using hkey
  rw [Label.tokensOf_key label hmem] at hfirst
  exact ⟨label, hmem, rfl, hfirst⟩

/-- The date of birth is that of the label with the same key, or of an earlier line for the other
token. -/
theorem dateOfBirth_of_get?_labels {value : String}
    (h : t.labelled.labels.get? "dob" = some value) :
    t.labelled.dateOfBirth = .found value ∨
      (Overtaken "DOB" "DATE OF BIRTH" t.lines value.toList ∧
        ∃ earlier, t.labelled.dateOfBirth = .found earlier ∧
          t.labelled.labels.get? "date_of_birth" = some earlier) := by
  have hfirst : FirstValue ["DOB"] t.lines value.toList := get?_labels_labelled.1 h
  have hsome : Label.SomeQualifies (Label.tokensOf (·.slot = some .dateOfBirth)) t.lines := by
    obtain ⟨line, hline, token, htoken, v, hqualifies⟩ := hfirst.someQualifies
    obtain rfl := List.mem_singleton.1 htoken
    exact ⟨line, hline, "DOB", by decide, v, hqualifies⟩
  obtain ⟨found, heither, hfound⟩ := exists_get_labelled .dateOfBirth hsome
  have hdate : t.labelled.dateOfBirth = .found found := hfound
  have hdob : (⟨"DOB", some .dateOfBirth⟩ : Label) ∈ Label.all := by decide
  have hlong : (⟨"DATE OF BIRTH", some .dateOfBirth⟩ : Label) ∈ Label.all := by decide
  rcases hfirst.eq_or_overtaken hdob hlong (by decide) heither with heq | ⟨hovertaken, hother⟩
  · rw [hdate, String.toList_injective heq]
    exact .inl rfl
  · exact .inr ⟨hovertaken, found, hdate, get?_labels_labelled.2 hother⟩

/-- **What is stored of a result.** Of any result the keys stored are the six and those of the
labelled values, the six hold what the result says of them, whatever the labels are, and every other
key holds its labelled value. If the result is that of a text, what the label scan found is stored:
a value that it put into a slot under the key of the slot, and a labelled value under its own,
unless the label is the first token for the date of birth and a line for the second token comes
before it. Then the date of birth is stored that the earlier line gives. -/
theorem extractedData_keeps_values :
    (∀ r : AnalysisResult,
      (∀ key, key ∈ r.extractedData.keys ↔
        key ∈ ["document_type", "id_number", "dob", "name_guess", "ai_confidence", "raw_text"] ∨
          key ∈ r.fields.labels.keys) ∧
      r.extractedData.get? "document_type" = some r.category.label ∧
      r.extractedData.get? "id_number" = some r.fields.idNumber.display ∧
      r.extractedData.get? "dob" = some r.fields.dateOfBirth.display ∧
      r.extractedData.get? "name_guess" = some r.fields.name.display ∧
      r.extractedData.get? "ai_confidence" = some r.percent ∧
      r.extractedData.get? "raw_text" = some r.rawText ∧
      ∀ key, key ∉ AnalysisResult.fixedKeys →
        r.extractedData.get? key = r.fields.labels.get? key) ∧
    (∀ claimed preparation text,
      let data := (concludeText claimed preparation text).extractedData
      let t := RecognizedText.of text
      (∀ slot value, t.labelled.get slot = .found value →
        data.get? (AnalysisResult.slotKey slot) = some value) ∧
      ∀ key value, t.labelled.labels.get? key = some value →
        data.get? key = some value ∨
          (key = "dob" ∧ Overtaken "DOB" "DATE OF BIRTH" t.lines value.toList ∧
            data.get? "dob" = data.get? "date_of_birth")) := by
  constructor
  · intro r
    refine ⟨fun key => AnalysisResult.mem_keys_extractedData, ?_, ?_, ?_, ?_, ?_, ?_, ?_⟩
    case refine_7 => exact fun key => AnalysisResult.get?_extractedData_of_notMem
    all_goals exact AnalysisResult.get?_extractedData r _
  · intro claimed preparation text data t
    have hdate : data.get? "dob" = some t.labelled.dateOfBirth.display := by
      rw [← extract_dateOfBirth]
      exact AnalysisResult.get?_extractedData _ "dob"
    have hlabels : ∀ key, key ∉ AnalysisResult.fixedKeys →
        data.get? key = t.labelled.labels.get? key := by
      intro key hkey
      rw [← extract_labels]
      exact AnalysisResult.get?_extractedData_of_notMem hkey
    constructor
    · intro slot value hslot
      have hstored : data.get? (AnalysisResult.slotKey slot) =
        some ((extract t).fields.get slot).display := AnalysisResult.get?_slotKey _ slot
      rw [hstored, get_extract_of_labelled slot hslot]
      rfl
    · intro key value hvalue
      obtain ⟨label, hmem, rfl, -⟩ := exists_label_of_get?_labels hvalue
      by_cases hfixed : label.key ∈ AnalysisResult.fixedKeys
      · obtain rfl := Label.eq_of_key_mem_fixedKeys label hmem hfixed
        rcases dateOfBirth_of_get?_labels hvalue with hfound | ⟨hovertaken, earlier, hfound, hother⟩
        · left
          rw [hfound] at hdate
          exact hdate
        · refine .inr ⟨rfl, hovertaken, ?_⟩
          rw [hdate, hfound, hlabels _ (by decide), hother]
          rfl
      · exact .inl ((hlabels _ hfixed).trans hvalue)

/-- A card with both tokens for the date of birth, the first one behind the other. -/
def twoDates : String :=
  "DATE OF BIRTH 01/02/1990\nDOB: 03/04/1991\nFATHER R KUMAR"

/-- A result with a label that has the key of the raw text. -/
def shadowed : AnalysisResult :=
  { AnalysisResult.failed "blurry" with
    fields := { labels := .ofList [("raw_text", "hidden"), ("seal", "shown")] } }

theorem extractedData_twoDates :
    (let data := (concludeText none .disabled twoDates).extractedData;
      data.get? "dob" = some "01/02/1990" ∧ data.get? "date_of_birth" = some "01/02/1990" ∧
      Overtaken "DOB" "DATE OF BIRTH" (RecognizedText.of twoDates).lines
        "03/04/1991".toList ∧
      data.get? "father" = some "R KUMAR") ∧
    shadowed.extractedData.get? "raw_text" = some "" ∧
    shadowed.extractedData.get? "seal" = some "shown" := by
  obtain ⟨hany, htext⟩ := extractedData_keeps_values
  obtain ⟨hslots, hlabels⟩ := htext none .disabled twoDates
  obtain ⟨-, -, -, -, -, -, hrawText, hseal⟩ := hany shadowed
  have hdate := hslots .dateOfBirth "01/02/1990" (by decide +kernel)
  have hother := hlabels "date_of_birth" "01/02/1990" (by decide +kernel)
  have hdob := hlabels "dob" "03/04/1991" (by decide +kernel)
  have hfather := hlabels "father" "R KUMAR" (by decide +kernel)
  refine ⟨⟨hdate, ?_, ?_, ?_⟩, hrawText, hseal "seal" (by decide)⟩
  · exact hother.resolve_right fun h => absurd h.1 (by decide)
  · rcases hdob with hkept | ⟨-, hovertaken, -⟩
    · exact absurd (hkept.symm.trans hdate) (by decide)
    · exact hovertaken
  · exact hfather.resolve_right fun h => absurd h.1 (by decide)

end IdentityDocs
