import IdentityDocs.Analysis.Extraction
import IdentityDocs.Proofs.Document.Fields

/-!
# The label scan reads the first line that qualifies

A line qualifies for a token if it begins with it, in any mixture of ASCII case, and what follows
leaves a value of at least three characters. The scan goes through the lines once and enters what it
finds into slots and into the map of labelled values, where the first value stays. What it comes to
can be said without the scan: for each key and for each slot it is the value of the first line, in
reading order, that qualifies for one of the tokens concerned.

Two facts carry this. No token begins another one, so a line qualifies for at most one, whatever the
order of the labels (`Label.readLine?_eq_some_iff`). And entering a line is `Option.or` for every
key and slot, so entering all lines is `List.findSome?` (`Fields.value?_get_enterLines`).
-/

namespace IdentityDocs

/-! ## Lines and tokens -/

/-- What is cut off is a spelling of the known beginning in any mixture of ASCII case. -/
theorem Text.stripPrefixFolded?_eq_some_iff {start text rest : List Char} :
    stripPrefixFolded? start text = some rest ↔
      ∃ spelling, text = spelling ++ rest ∧ spelling.map Char.toLower = start.map Char.toLower := by
  induction start generalizing text with
  | nil =>
    constructor
    · intro h
      obtain rfl : text = rest := by simpa [stripPrefixFolded?] using h
      exact ⟨[], rfl, rfl⟩
    · rintro ⟨spelling, rfl, hspelling⟩
      obtain rfl : spelling = [] := by simpa using hspelling
      rfl
  | cons s start ih =>
    cases text with
    | nil =>
      constructor
      · intro h
        cases h
      · rintro ⟨spelling, htext, hspelling⟩
        obtain rfl : spelling = [] := (List.append_eq_nil_iff.1 htext.symm).1
        cases hspelling
    | cons c text =>
      by_cases hc : s.toLower = c.toLower
      · rw [stripPrefixFolded?, if_pos hc, ih]
        constructor
        · rintro ⟨spelling, rfl, hspelling⟩
          exact ⟨c :: spelling, rfl, by rw [List.map_cons, List.map_cons, hspelling, hc]⟩
        · rintro ⟨spelling, htext, hspelling⟩
          cases spelling with
          | nil => cases hspelling
          | cons d spelling =>
            exact ⟨spelling, (List.cons.inj htext).2, (List.cons.inj hspelling).2⟩
      · rw [stripPrefixFolded?, if_neg hc]
        constructor
        · intro h
          cases h
        · rintro ⟨spelling, htext, hspelling⟩
          cases spelling with
          | nil => cases hspelling
          | cons d spelling =>
            obtain rfl : c = d := (List.cons.inj htext).1
            exact absurd (List.cons.inj hspelling).1.symm hc

namespace Label

/-- The line begins with the token, in any mixture of ASCII case, and the rest of it, from its first
ASCII letter or digit on and without blanks at its end, is the value: at least three characters. -/
def Qualifies (token : String) (line value : List Char) : Prop :=
  ∃ spelling rest, line = spelling ++ rest ∧
    spelling.map Char.toLower = token.toList.map Char.toLower ∧
    value = Text.trim (rest.dropWhile fun c => !c.isAlphanum) ∧ 3 ≤ value.length

variable {label other : Label} {line rest value : List Char}

/-- No token begins another one. -/
theorem eq_of_token_begins : ∀ label ∈ all, ∀ other ∈ all,
    label.token.toList.map Char.toLower <+: other.token.toList.map Char.toLower →
      label = other := by
  decide

/-- A line begins with one token at most. -/
theorem eq_of_stripPrefixFolded? {rest' : List Char} (hlabel : label ∈ all) (hother : other ∈ all)
    (h : Text.stripPrefixFolded? label.token.toList line = some rest)
    (h' : Text.stripPrefixFolded? other.token.toList line = some rest') : label = other := by
  obtain ⟨spelling, hline, hspelling⟩ := Text.stripPrefixFolded?_eq_some_iff.1 h
  obtain ⟨spelling', hline', hspelling'⟩ := Text.stripPrefixFolded?_eq_some_iff.1 h'
  -- of two beginnings of one line the shorter begins the longer
  rcases List.prefix_or_prefix_of_prefix ⟨rest, hline.symm⟩ ⟨rest', hline'.symm⟩ with hpre | hpre
  · refine eq_of_token_begins label hlabel other hother ?_
    rw [← hspelling, ← hspelling']
    exact hpre.map _
  · refine (eq_of_token_begins other hother label hlabel ?_).symm
    rw [← hspelling, ← hspelling']
    exact hpre.map _

theorem ofLine?_eq_some_iff : ofLine? line = some (label, rest) ↔
    label ∈ all ∧ Text.stripPrefixFolded? label.token.toList line = some rest := by
  constructor
  · intro h
    obtain ⟨other, hother, hstrip⟩ := List.exists_of_findSome?_eq_some h
    obtain ⟨rest', hrest, heq⟩ := Option.map_eq_some_iff.1 hstrip
    obtain ⟨rfl, rfl⟩ := Prod.mk.inj heq
    exact ⟨hother, hrest⟩
  · rintro ⟨hlabel, hstrip⟩
    cases hline : ofLine? line with
    | none =>
      have hnone := List.findSome?_eq_none_iff.1 hline label hlabel
      rw [hstrip] at hnone
      cases hnone
    | some found =>
      obtain ⟨other, rest'⟩ := found
      obtain ⟨other', hother, hstrip'⟩ := List.exists_of_findSome?_eq_some hline
      obtain ⟨rest'', hrest, heq⟩ := Option.map_eq_some_iff.1 hstrip'
      obtain ⟨rfl, rfl⟩ := Prod.mk.inj heq
      obtain rfl := eq_of_stripPrefixFolded? hlabel hother hstrip hrest
      obtain rfl : rest = rest'' := Option.some.inj (hstrip.symm.trans hrest)
      rfl

/-- The label and the value that are read off a line are those for which it qualifies. -/
theorem readLine?_eq_some_iff {value : String} : readLine? line = some (label, value) ↔
    label ∈ all ∧ Qualifies label.token line value.toList := by
  unfold readLine?
  constructor
  · intro h
    cases hline : ofLine? line with
    | none => simp [hline] at h
    | some found =>
      obtain ⟨label', rest⟩ := found
      by_cases hshort : (valueOf rest).length ≤ maxNoiseLength
      · simp [hline, hshort] at h
      · simp only [hline, if_neg hshort, Option.some.injEq, Prod.mk.injEq] at h
        obtain ⟨rfl, rfl⟩ := h
        obtain ⟨hlabel, hstrip⟩ := ofLine?_eq_some_iff.1 hline
        obtain ⟨spelling, hsplit, hspelling⟩ := Text.stripPrefixFolded?_eq_some_iff.1 hstrip
        refine ⟨hlabel, spelling, rest, hsplit, hspelling, String.toList_ofList, ?_⟩
        rw [String.toList_ofList]
        exact Nat.lt_of_not_le hshort
  · rintro ⟨hlabel, spelling, rest, hsplit, hspelling, hvalue, hlength⟩
    have hline : ofLine? line = some (label, rest) :=
      ofLine?_eq_some_iff.2
        ⟨hlabel, Text.stripPrefixFolded?_eq_some_iff.2 ⟨spelling, hsplit, hspelling⟩⟩
    have hvalueOf : valueOf rest = value.toList := hvalue.symm
    have hlong : ¬ value.toList.length ≤ maxNoiseLength := Nat.not_le.2 hlength
    simp only [hline, hvalueOf, if_neg hlong, String.ofList_toList]

/-- A line qualifies for one token at most. -/
theorem Qualifies.eq {value' : List Char} (hlabel : label ∈ all) (hother : other ∈ all)
    (h : Qualifies label.token line value) (h' : Qualifies other.token line value') :
    label = other := by
  obtain ⟨spelling, rest, hsplit, hspelling, -⟩ := h
  obtain ⟨spelling', rest', hsplit', hspelling', -⟩ := h'
  exact eq_of_stripPrefixFolded? hlabel hother
    (Text.stripPrefixFolded?_eq_some_iff.2 ⟨spelling, hsplit, hspelling⟩)
    (Text.stripPrefixFolded?_eq_some_iff.2 ⟨spelling', hsplit', hspelling'⟩)

/-! ## The first line that qualifies -/

/-- The value is that of the first line that qualifies for one of the tokens. -/
def FirstValue (tokens : List String) (lines : List (List Char)) (value : List Char) : Prop :=
  ∃ before line after, lines = before ++ line :: after ∧
    (∃ token ∈ tokens, Qualifies token line value) ∧
    ∀ earlier ∈ before, ∀ token ∈ tokens, ∀ v, ¬ Qualifies token earlier v

/-- Some line qualifies for one of the tokens. -/
def SomeQualifies (tokens : List String) (lines : List (List Char)) : Prop :=
  ∃ line ∈ lines, ∃ token ∈ tokens, ∃ value, Qualifies token line value

theorem FirstValue.someQualifies {tokens : List String} {lines : List (List Char)}
    (h : FirstValue tokens lines value) : SomeQualifies tokens lines := by
  obtain ⟨before, line, after, rfl, ⟨token, htoken, hqualifies⟩, -⟩ := h
  exact ⟨line, by simp, token, htoken, value, hqualifies⟩

/-- The tokens of the labels that a test picks. -/
def tokensOf (pick : Label → Bool) : List String := (all.filter pick).map token

/-- The value of a line that qualifies for a token of the labels that a test picks. -/
def valueFor? (pick : Label → Bool) (line : List Char) : Option String :=
  (readLine? line).bind fun found => if pick found.1 then some found.2 else none

variable {pick : Label → Bool}

theorem valueFor?_eq_some_iff {value : String} : valueFor? pick line = some value ↔
    ∃ token ∈ tokensOf pick, Qualifies token line value.toList := by
  simp only [valueFor?, Option.bind_eq_some_iff, tokensOf, List.mem_map, List.mem_filter]
  constructor
  · rintro ⟨⟨label, v⟩, hread, hpick⟩
    by_cases hlabel : pick label = true
    · simp only [if_pos hlabel, Option.some.injEq] at hpick
      subst hpick
      obtain ⟨hmem, hqualifies⟩ := readLine?_eq_some_iff.1 hread
      exact ⟨label.token, ⟨label, ⟨hmem, hlabel⟩, rfl⟩, hqualifies⟩
    · simp [hlabel] at hpick
  · rintro ⟨token, ⟨label, ⟨hmem, hlabel⟩, rfl⟩, hqualifies⟩
    exact ⟨(label, value), readLine?_eq_some_iff.2 ⟨hmem, hqualifies⟩, if_pos hlabel⟩

theorem valueFor?_eq_none_iff : valueFor? pick line = none ↔
    ∀ token ∈ tokensOf pick, ∀ value, ¬ Qualifies token line value := by
  constructor
  · intro h token htoken value hqualifies
    have hsome : valueFor? pick line = some (String.ofList value) :=
      valueFor?_eq_some_iff.2 ⟨token, htoken, by rwa [String.toList_ofList]⟩
    rw [h] at hsome
    cases hsome
  · intro h
    cases hvalue : valueFor? pick line with
    | none => rfl
    | some value =>
      obtain ⟨token, htoken, hqualifies⟩ := valueFor?_eq_some_iff.1 hvalue
      exact absurd hqualifies (h token htoken _)

theorem findSome?_valueFor? {lines : List (List Char)} {value : String} :
    lines.findSome? (valueFor? pick) = some value ↔
      FirstValue (tokensOf pick) lines value.toList := by
  simp only [List.findSome?_eq_some_iff, valueFor?_eq_some_iff, valueFor?_eq_none_iff, FirstValue]

theorem findSome?_valueFor?_eq_none {lines : List (List Char)} :
    lines.findSome? (valueFor? pick) = none ↔ ¬ SomeQualifies (tokensOf pick) lines := by
  simp only [List.findSome?_eq_none_iff, valueFor?_eq_none_iff, SomeQualifies, not_exists, not_and]

theorem tokensOf_key : ∀ label ∈ all, tokensOf (·.key = label.key) = [label.token] := by
  decide

end Label

/-! ## Entering the lines -/

namespace Fields

open Label (valueFor?)

theorem value?_get_enterLine (fields : Fields) (line : List Char) (slot : Field) :
    ((fields.enterLine line).get slot).value? =
      (fields.get slot).value?.or (valueFor? (·.slot = some slot) line) := by
  unfold enterLine valueFor?
  cases Label.readLine? line with
  | none => simp
  | some found =>
    obtain ⟨label, value⟩ := found
    cases hslot : label.slot with
    | none => simp [enter, hslot]
    | some other => simp [enter, hslot, value?_get_fill]

theorem get?_labels_enterLine (fields : Fields) (line : List Char) (key : String) :
    (fields.enterLine line).labels.get? key =
      (fields.labels.get? key).or (valueFor? (·.key = key) line) := by
  unfold enterLine valueFor?
  cases Label.readLine? line with
  | none => simp
  | some found =>
    obtain ⟨label, value⟩ := found
    cases hslot : label.slot with
    | none => simp [enter, hslot, get?_labels_fillLabel]
    | some other => simp [enter, hslot, get?_labels_fillLabel]

/-- A slot keeps its value, or takes that of the first line for it. -/
theorem value?_get_enterLines (lines : List (List Char)) (slot : Field) : ∀ fields : Fields,
    ((fields.enterLines lines).get slot).value? =
      (fields.get slot).value?.or (lines.findSome? (valueFor? (·.slot = some slot))) := by
  induction lines with
  | nil => exact fun fields => (Option.or_none).symm
  | cons line lines ih =>
    intro fields
    have hnext : fields.enterLines (line :: lines) = (fields.enterLine line).enterLines lines := rfl
    rw [hnext, ih, value?_get_enterLine, Option.or_assoc, List.findSome?_cons]
    cases valueFor? (·.slot = some slot) line <;> simp

/-- A key keeps its value, or takes that of the first line for it. -/
theorem get?_labels_enterLines (lines : List (List Char)) (key : String) : ∀ fields : Fields,
    (fields.enterLines lines).labels.get? key =
      (fields.labels.get? key).or (lines.findSome? (valueFor? (·.key = key))) := by
  induction lines with
  | nil => exact fun fields => (Option.or_none).symm
  | cons line lines ih =>
    intro fields
    have hnext : fields.enterLines (line :: lines) = (fields.enterLine line).enterLines lines := rfl
    rw [hnext, ih, get?_labels_enterLine, Option.or_assoc, List.findSome?_cons]
    cases valueFor? (·.key = key) line <;> simp

end Fields

end IdentityDocs
