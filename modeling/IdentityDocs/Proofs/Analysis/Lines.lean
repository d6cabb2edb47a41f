import IdentityDocs.Proofs.Analysis.Provenance
import IdentityDocs.Proofs.Text.Layout

/-!
# The lines of a text do not depend on its layout

The lines that the analysis sees are the segments of the text without the blanks around them, those
of fewer than three characters left out (`Cleaned`). So a text can be laid out in another way and
keep its lines: blanks at the ends of a segment, the kind of line end and noise between the segments
do not matter (`SameButLayout`), and nothing else can be changed (`sameButLayout_iff`). So the lines
themselves, one after another, are a text with the same lines.

Labelled values, the date of birth and the name are extracted from the lines alone, and so is an
identifier that a label gives. One that only its form tells is searched in the text as it came, and
a blank at a line end can be too many for it.
-/

namespace IdentityDocs

open Label (SomeQualifies)
open Text (Padded Segmented Trimmed)

variable {core line segment segment' : List Char} {segments segments' lines : List (List Char)}

/-! ## Clean segments -/

/-- The lines are what is left of the segments, in their order. -/
inductive Cleaned : List (List Char) → List (List Char) → Prop
  | nil : Cleaned [] []
  /-- A line of at least three characters loses the blanks around it. -/
  | line {line segment : List Char} {segments lines : List (List Char)} : Padded line segment →
    Trimmed line → 3 ≤ line.length → Cleaned segments lines →
    Cleaned (segment :: segments) (line :: lines)
  /-- Of a segment with fewer than three characters between its blanks nothing is left. -/
  | noise {core segment : List Char} {segments lines : List (List Char)} : Padded core segment →
    core.length < 3 → Cleaned segments lines → Cleaned (segment :: segments) lines

/-- What the analysis makes of segments. -/
def cleanSegments (segments : List (List Char)) : List (List Char) :=
  (segments.map Text.trim).filter fun line => minLineLength ≤ line.length

theorem cleanSegments_of_line (hpadded : Padded line segment) (htrimmed : Trimmed line)
    (hlong : 3 ≤ line.length) :
    cleanSegments (segment :: segments) = line :: cleanSegments segments := by
  obtain rfl := Text.trim_eq_iff.2 ⟨hpadded, htrimmed⟩
  exact List.filter_cons_of_pos (decide_eq_true hlong)

theorem cleanSegments_of_noise (hpadded : Padded core segment) (hshort : core.length < 3) :
    cleanSegments (segment :: segments) = cleanSegments segments := by
  have hle : (Text.trim segment).length ≤ core.length := by
    rw [hpadded.trim_eq]
    exact (Text.trim_isInfix core).length_le
  have hnot : ¬ minLineLength ≤ (Text.trim segment).length :=
    Nat.not_le.2 (Nat.lt_of_le_of_lt hle hshort)
  exact List.filter_cons_of_neg (by simpa using hnot)

theorem cleaned_cleanSegments (segments : List (List Char)) :
    Cleaned segments (cleanSegments segments) := by
  induction segments with
  | nil => exact .nil
  | cons segment segments ih =>
    obtain ⟨hpadded, htrimmed⟩ := Text.trim_eq_iff.1 (rfl : Text.trim segment = _)
    by_cases hlong : 3 ≤ (Text.trim segment).length
    · rw [cleanSegments_of_line hpadded htrimmed hlong]
      exact .line hpadded htrimmed hlong ih
    · have hshort := Nat.not_le.1 hlong
      rw [cleanSegments_of_noise hpadded hshort]
      exact .noise hpadded hshort ih

theorem cleaned_iff : Cleaned segments lines ↔ cleanSegments segments = lines := by
  constructor
  · intro h
    induction h with
    | nil => rfl
    | line hpadded htrimmed hlong _ ih => rw [cleanSegments_of_line hpadded htrimmed hlong, ih]
    | noise hpadded hshort _ ih => rw [cleanSegments_of_noise hpadded hshort, ih]
  · rintro rfl
    exact cleaned_cleanSegments segments

theorem cleanLines_of_segmented {raw : List Char} (h : Segmented raw segments) :
    cleanLines raw = cleanSegments segments :=
  Text.filter_map_trim_lines rfl h

/-- Lines are clean already. -/
theorem Cleaned.self (h : ∀ line ∈ lines, Trimmed line ∧ 3 ≤ line.length) :
    Cleaned lines lines := by
  induction lines with
  | nil => exact .nil
  | cons line lines ih =>
    obtain ⟨htrimmed, hlong⟩ := h line List.mem_cons_self
    have hpadded : Padded line line := (Text.trim_eq_iff.1 htrimmed.trim_eq).1
    have hrest := ih fun other hother => h other (List.mem_cons_of_mem _ hother)
    exact .line hpadded htrimmed hlong hrest

/-! ## Another layout -/

/-- The segments are the same but for blanks around them and noise between them. -/
inductive Relaid : List (List Char) → List (List Char) → Prop
  | nil : Relaid [] []
  /-- The blanks around a segment are others. -/
  | blanks {core segment segment' : List Char} {segments segments' : List (List Char)} :
    Padded core segment → Padded core segment' → Relaid segments segments' →
    Relaid (segment :: segments) (segment' :: segments')
  /-- Noise was put in. -/
  | added {core segment' : List Char} {segments segments' : List (List Char)} :
    Padded core segment' → core.length < 3 → Relaid segments segments' →
    Relaid segments (segment' :: segments')
  /-- Noise was left out. -/
  | removed {core segment : List Char} {segments segments' : List (List Char)} :
    Padded core segment → core.length < 3 → Relaid segments segments' →
    Relaid (segment :: segments) segments'

/-- The texts are the same but for indentation and other blanks at the ends of their lines, the kind
of line ends, and noise in lines of its own. -/
def SameButLayout (raw raw' : List Char) : Prop :=
  ∃ segments segments', Segmented raw segments ∧ Segmented raw' segments' ∧
    Relaid segments segments'

theorem Relaid.cleanSegments_eq (h : Relaid segments segments') :
    cleanSegments segments = cleanSegments segments' := by
  induction h with
  | nil => rfl
  | @blanks core segment segment' segments segments' hpadded hpadded' _ ih =>
    have htrim : Text.trim segment = Text.trim segment' :=
      hpadded.trim_eq.trans hpadded'.trim_eq.symm
    simp only [cleanSegments, List.map_cons, List.filter_cons, htrim] at ih ⊢
    rw [ih]
  | added hpadded hshort _ ih => rw [cleanSegments_of_noise hpadded hshort, ih]
  | removed hpadded hshort _ ih => rw [cleanSegments_of_noise hpadded hshort, ih]

/-- Segments that leave the same lines are the same but for their layout. -/
theorem Cleaned.relaid (h : Cleaned segments lines) :
    ∀ {segments'}, Cleaned segments' lines → Relaid segments segments' := by
  -- noise in front of a line is dealt with on the left first, then on the right
  induction h with
  | nil =>
    intro segments' h'
    generalize hlines : ([] : List (List Char)) = lines at h'
    induction h' with
    | nil => exact .nil
    | line => cases hlines
    | noise hpadded hshort _ ih => exact .added hpadded hshort (ih hlines)
  | @line line segment segments lines hpadded _ _ _ ih =>
    intro segments' h'
    generalize hlines : line :: lines = lines' at h'
    induction h' with
    | nil => cases hlines
    | line hpadded' _ _ hrest =>
      obtain ⟨rfl, rfl⟩ := List.cons.inj hlines
      exact .blanks hpadded hpadded' (ih hrest)
    | noise hpadded hshort _ ih' => exact .added hpadded hshort (ih' hlines)
  | noise hpadded hshort _ ih =>
    intro segments' h'
    exact .removed hpadded hshort (ih h')

/-- Texts have the same lines just if they are the same but for their layout. -/
theorem sameButLayout_iff {raw raw' : List Char} :
    SameButLayout raw raw' ↔ cleanLines raw = cleanLines raw' := by
  constructor
  · rintro ⟨segments, segments', hsegments, hsegments', hrelaid⟩
    rw [cleanLines_of_segmented hsegments, cleanLines_of_segmented hsegments',
      hrelaid.cleanSegments_eq]
  · intro h
    obtain ⟨segments, hsegments⟩ := Text.exists_segmented raw
    obtain ⟨segments', hsegments'⟩ := Text.exists_segmented raw'
    rw [cleanLines_of_segmented hsegments, cleanLines_of_segmented hsegments'] at h
    exact ⟨segments, segments', hsegments, hsegments',
      (cleaned_cleanSegments segments).relaid (cleaned_iff.2 h.symm)⟩

/-! ## Recognized texts -/

namespace RecognizedText

variable {t t' : RecognizedText}

theorem cleaned_iff_lines (h : Segmented t.raw segments) :
    Cleaned segments lines ↔ t.lines = lines := by
  rw [cleaned_iff, ← cleanLines_of_segmented h]
  rfl

/-- The text of lines with a line feed between any two. -/
def ofLines (lines : List (List Char)) : RecognizedText :=
  .of ("\n".intercalate (lines.map String.ofList))

theorem raw_ofLines (lines : List (List Char)) :
    (ofLines lines).raw = ['\n'].intercalate lines := by
  have hlines : (lines.map String.ofList).map String.toList = lines := by simp
  rw [ofLines, of, String.toList_intercalate, hlines]
  rfl

/-- Clean lines are the lines of their text. -/
theorem lines_ofLines (h : ∀ line ∈ lines, '\n' ∉ line ∧ Trimmed line ∧ 3 ≤ line.length) :
    (ofLines lines).lines = lines := by
  by_cases hempty : lines = []
  · subst hempty
    rfl
  · have hsegmented : Segmented (ofLines lines).raw lines := by
      rw [raw_ofLines]
      exact Text.segmented_intercalate hempty fun line hline => (h line hline).1
    exact (cleaned_iff_lines hsegmented).1 (.self fun line hline => (h line hline).2)

/-- The extractions of the texts agree in all that is read off lines. -/
structure AgreeInLines (t t' : RecognizedText) : Prop where
  labels : (extract t).fields.labels = (extract t').fields.labels
  dateOfBirth : (extract t).fields.dateOfBirth = (extract t').fields.dateOfBirth
  name : (extract t).fields.name = (extract t').fields.name
  idNumber : SomeQualifies ["ID NO", "ACCOUNT NO"] t.lines →
    (extract t).fields.idNumber = (extract t').fields.idNumber ∧
      (extract t).hint = (extract t').hint

theorem agreeInLines_of_lines (h : t.lines = t'.lines) : AgreeInLines t t' := by
  have hlabelled : t.labelled = t'.labelled := by rw [labelled, labelled, h]
  refine ⟨?labels, ?dateOfBirth, ?name, ?idNumber⟩
  case labels => rw [extract_labels, extract_labels, hlabelled]
  case dateOfBirth => rw [extract_dateOfBirth, extract_dateOfBirth, hlabelled]
  case name =>
    cases hname : t.labelled.name with
    | found value =>
      rw [extract_name_of_found hname, extract_name_of_found (hlabelled ▸ hname)]
    | notFound =>
      -- both names are guesses
      refine FieldValue.value?_injective (Option.ext fun name => ?_)
      rw [FieldValue.value?_eq_some, FieldValue.value?_eq_some, extract_name_of_notFound hname,
        extract_name_of_notFound (hlabelled ▸ hname), h]
  case idNumber =>
    intro hqualifies
    obtain ⟨value, -, hvalue⟩ := exists_get_labelled .idNumber hqualifies
    obtain ⟨hid, hhint⟩ := extract_of_labelled hvalue
    obtain ⟨hid', hhint'⟩ := extract_of_labelled (t := t') (hlabelled ▸ hvalue)
    exact ⟨hid.trans hid'.symm, hhint.trans hhint'.symm⟩

/-- **Lines are exact, stable and free of layout.** A text is kept as it came. However it is cut at
its line ends, its lines are what is left of the segments, each either without the blanks around it
or, with fewer than three characters, left out; so no line holds a line feed or has a blank at
either end. The lines put together again, with a line feed between any two, have the same lines. Two
texts have the same lines just if they are the same but for their layout, and then their labelled
values, dates of birth and names are the same, and so are their identifiers if a label gives one. -/
theorem lines_exact_and_free_of_layout :
    (∀ raw : String, String.ofList (RecognizedText.of raw).raw = raw) ∧
    (∀ t : RecognizedText, (∃ segments, Segmented t.raw segments) ∧
      ∀ segments lines, Segmented t.raw segments → (Cleaned segments lines ↔ t.lines = lines)) ∧
    (∀ t : RecognizedText, ∀ line ∈ t.lines, '\n' ∉ line ∧ Trimmed line) ∧
    (∀ t : RecognizedText, (ofLines t.lines).lines = t.lines) ∧
    (∀ t t' : RecognizedText, SameButLayout t.raw t'.raw ↔ t.lines = t'.lines) ∧
    (∀ t t' : RecognizedText, SameButLayout t.raw t'.raw → AgreeInLines t t') := by
  have hclean : ∀ t : RecognizedText, ∀ line ∈ t.lines,
      '\n' ∉ line ∧ Trimmed line ∧ 3 ≤ line.length := by
    intro t line hline
    obtain ⟨hexcerpt, hnewline⟩ := excerpt_of_mem_lines hline
    exact ⟨hnewline, hexcerpt.trimmed, hexcerpt.length⟩
  refine ⟨?kept, ?cleaned, ?clean, ?again, ?layout, ?agree⟩
  case kept =>
    intro raw
    exact String.ofList_toList
  case cleaned =>
    intro t
    exact ⟨Text.exists_segmented t.raw, fun segments lines => cleaned_iff_lines⟩
  case clean =>
    intro t line hline
    obtain ⟨hnewline, htrimmed, -⟩ := hclean t line hline
    exact ⟨hnewline, htrimmed⟩
  case again =>
    intro t
    exact lines_ofLines (hclean t)
  case layout =>
    intro t t'
    exact sameButLayout_iff
  case agree =>
    intro t t' h
    exact agreeInLines_of_lines (sameButLayout_iff.1 h)

/-- An identifier that only its form tells is searched in the text as it came. -/
example : (of "1234 5678\n9012").lines = ["1234 5678".toList, "9012".toList] ∧
    (of "1234 5678\n 9012").lines = ["1234 5678".toList, "9012".toList] ∧
    (extract (.of "1234 5678\n9012")).hint = some .nationalId ∧
    (extract (.of "1234 5678\n 9012")).hint = none := by
  decide +kernel

/-- A card with two labelled values. -/
def plainCard : RecognizedText := .of "NAME JOHN DOE\nID NO 99887766"

/-- The same card, indented, with other line ends, a blank line and a line of noise. -/
def untidyCard : RecognizedText := .of "\t NAME JOHN DOE \r\n\r\n|.\n  ID NO 99887766\r\n"

/-- The segments of the untidy card, the last one empty. -/
def untidySegments : List (List Char) :=
  ["\t NAME JOHN DOE ", "", "|.", "  ID NO 99887766", ""].map String.toList

theorem segmented_untidyCard : Segmented untidyCard.raw untidySegments := by
  have hraw : untidyCard.raw = "\t NAME JOHN DOE ".toList ++ '\r' :: '\n' :: ("".toList ++
      '\r' :: '\n' :: ("|.".toList ++ '\n' :: ("  ID NO 99887766".toList ++
      '\r' :: '\n' :: "".toList))) := by decide +kernel
  rw [hraw]
  refine .returnFeed (by decide) (.returnFeed (by decide) (.feed (by decide) ?_))
  exact .returnFeed (by decide) (.last (by decide))

theorem lines_untidyCard_free_of_layout :
    Cleaned untidySegments ["NAME JOHN DOE".toList, "ID NO 99887766".toList] ∧
    SameButLayout plainCard.raw untidyCard.raw ∧
    (extract plainCard).fields.idNumber = (extract untidyCard).fields.idNumber ∧
    ∀ line ∈ untidyCard.lines, '\n' ∉ line ∧ Trimmed line := by
  obtain ⟨-, hcleaned, hclean, -, hlayout, hagree⟩ := lines_exact_and_free_of_layout
  have hsame : SameButLayout plainCard.raw untidyCard.raw :=
    (hlayout plainCard untidyCard).2 (by decide +kernel)
  refine ⟨((hcleaned untidyCard).2 _ _ segmented_untidyCard).2 (by decide +kernel), hsame,
    ((hagree _ _ hsame).idNumber ?_).1, hclean untidyCard⟩
  refine ⟨"ID NO 99887766".toList, by decide +kernel, "ID NO", by simp, "99887766".toList, ?_⟩
  exact ⟨"ID NO".toList, " 99887766".toList, by decide, by decide, by decide, by decide⟩

end RecognizedText

end IdentityDocs
