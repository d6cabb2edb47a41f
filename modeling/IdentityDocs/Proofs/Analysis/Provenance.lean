import IdentityDocs.Proofs.Analysis.Identifier
import IdentityDocs.Proofs.Text.Pieces
import Mathlib.Data.List.TakeWhile

/-!
# Every value stands in the text it was extracted from

A value comes from a label, from the form of an identifier or from the guess at a name. The first
and the last are cut out of a line of the text, which was itself cut out and trimmed; an identifier
is searched in the text as it came. On each of these ways a value stays a part of the text, in one
piece, keeps at least three characters and has no blank at its ends (`Excerpt`). The value of a label
also begins with a letter or digit and lies within one line (`LineExcerpt`), and a name that was
guessed at is a whole line (`Guessed`).
-/

namespace IdentityDocs

open Label (FirstValue Qualifies SomeQualifies)

/-- A part of the text, of at least three characters and with no blank at either end. -/
structure Excerpt (raw value : List Char) : Prop where
  part : value <:+: raw
  length : 3 ≤ value.length
  trimmed : Text.Trimmed value

/-- A part of one of the lines that begins with an ASCII letter or digit. -/
structure LineExcerpt (lines : List (List Char)) (value : List Char) : Prop where
  head : ∃ c ∈ value.head?, c.isAlphanum = true
  line : ∃ line ∈ lines, value <:+: line ∧ '\n' ∉ line

/-- The upper-case form of the line speaks of a name or of income tax. -/
def SpeaksOfName (line : List Char) : Prop :=
  "NAME".toList <:+: Text.upper line ∨ "INCOME TAX".toList <:+: Text.upper line

/-- The name is the line after the first one that speaks of a name or of income tax, and consists
of capitals, blanks and full stops. -/
structure Guessed (lines : List (List Char)) (name : List Char) : Prop where
  next : ∃ before anchor after, lines = before ++ anchor :: name :: after ∧
    SpeaksOfName anchor ∧ ∀ earlier ∈ before, ¬ SpeaksOfName earlier
  letters : ∀ c ∈ name, ('A' ≤ c ∧ c ≤ 'Z') ∨ Text.isBlank c = true ∨ c = '.'

variable {t : RecognizedText} {line value : List Char}

/-! ## Values that begin and end with a letter or digit -/

theorem isBlank_of_isAlphanum {c : Char} (h : c.isAlphanum = true) : Text.isBlank c = false := by
  have hcode : (65 ≤ c.toNat ∧ c.toNat ≤ 90) ∨ (97 ≤ c.toNat ∧ c.toNat ≤ 122) ∨
      (48 ≤ c.toNat ∧ c.toNat ≤ 57) := by
    have hranges : (decide (c.val ≥ 'A'.val ∧ c.val ≤ 'Z'.val) ||
        (decide (c.val ≥ 'a'.val) && decide (c.val ≤ 'z'.val)) || c.isDigit) = true := h
    simpa [Char.isDigit, UInt32.le_iff_toNat_le, or_assoc] using hranges
  exact isBlank_of_graphic (by omega) (by omega)

theorem isAlphanum_of_isDigit {c : Char} (h : c.isDigit = true) : c.isAlphanum = true := by
  simp [Char.isAlphanum, h]

theorem isCapital_iff {c : Char} : isCapital c = true ↔ 'A' ≤ c ∧ c ≤ 'Z' := by
  simp [isCapital]

theorem isAlphanum_of_isCapital {c : Char} (h : isCapital c = true) : c.isAlphanum = true := by
  obtain ⟨hlow, hhigh⟩ := isCapital_iff.1 h
  have hupper : c.isUpper = true := decide_eq_true ⟨hlow, hhigh⟩
  have halpha : (c.isUpper || c.isLower) = true := by simp [hupper]
  exact Bool.or_eq_true_iff.2 (.inl halpha)

/-- What begins and ends with runs of letters and digits has no blank at either end. -/
theorem trimmed_of_isRun {n m : Nat} {test test' : Char → Bool} {first : List Char}
    (middle : List Char) {last : List Char}
    (htest : ∀ c, test c = true → c.isAlphanum = true)
    (htest' : ∀ c, test' c = true → c.isAlphanum = true)
    (hfirst : IsRun (n + 1) test first) (hlast : IsRun (m + 1) test' last) :
    Text.Trimmed (first ++ middle ++ last) where
  head c hc := by
    obtain ⟨d, hhead, hd⟩ := hfirst.exists_head?
    obtain rfl : d = c := by simpa [List.head?_append, hhead] using hc
    exact isBlank_of_isAlphanum (htest d hd)
  last c hc := by
    obtain ⟨d, hend, hd⟩ := hlast.exists_getLast?
    obtain rfl : d = c := by simpa [List.getLast?_append, hend] using hc
    exact isBlank_of_isAlphanum (htest' d hd)

theorem StandsLeftmost.part {form : Standing} {text found : List Char}
    (h : StandsLeftmost form text found) : found <:+: text := by
  obtain ⟨before, after, rfl, -⟩ := h
  exact List.infix_append _ _ _

theorem excerpt_of_taxNumber {raw number : List Char}
    (h : StandsLeftmost taxNumberForm raw number) : Excerpt raw number := by
  have hpart := h.part
  obtain ⟨-, -, -, ⟨letters, digits, letter, rfl, hletters, hdigits, hletter⟩, -⟩ := h
  exact {
    part := hpart
    length := by
      simp only [List.length_append, hletters.1, hdigits.1, hletter.1]
      decide
    trimmed := trimmed_of_isRun digits (fun _ => isAlphanum_of_isCapital)
      (fun _ => isAlphanum_of_isCapital) hletters hletter }

theorem excerpt_of_nationalNumber {raw number : List Char}
    (h : StandsLeftmost nationalNumberForm raw number) : Excerpt raw number := by
  have hpart := h.part
  obtain ⟨-, -, -, ⟨⟨first, gap, second, gap', third, rfl, hfirst, -, -, -, hthird⟩, -⟩, -⟩ := h
  have htrimmed := trimmed_of_isRun (gap ++ second ++ gap') (fun _ => isAlphanum_of_isDigit)
    (fun _ => isAlphanum_of_isDigit) hfirst hthird
  exact {
    part := hpart
    length := by
      simp only [List.length_append, hfirst.1]
      omega
    trimmed := by simpa only [List.append_assoc] using htrimmed }

/-! ## Values of labels -/

/-- A line of the text as the analysis sees it is an excerpt of the text, and holds no line feed. -/
theorem excerpt_of_mem_lines (h : line ∈ t.lines) : Excerpt t.raw line ∧ '\n' ∉ line := by
  obtain ⟨hmem, hlength⟩ := List.mem_filter.1 h
  obtain ⟨whole, hwhole, rfl⟩ := List.mem_map.1 hmem
  obtain ⟨hpart, hnewline⟩ := Text.isInfix_of_mem_lines hwhole
  have htrim := Text.trim_isInfix whole
  exact ⟨⟨htrim.trans hpart, of_decide_eq_true hlength, Text.trimmed_trim whole⟩,
    fun hc => hnewline (htrim.subset hc)⟩

/-- What follows the first letter or digit of a text, and what is left of it without the blanks at
its end, begin with that letter or digit. -/
theorem isAlphanum_of_mem_head?_valueOf {rest : List Char} {c : Char}
    (h : c ∈ (Label.valueOf rest).head?) : c.isAlphanum = true := by
  have hstart := Text.mem_head?_of_isPrefix (Text.trimEnd_isPrefix _) h
  cases hdrop : rest.dropWhile (fun c => !c.isAlphanum) with
  | nil => simp [hdrop, Text.trimStart] at hstart
  | cons d after =>
    have hd : d.isAlphanum = true := by
      have hnot := List.head?_dropWhile_not (fun c : Char => !c.isAlphanum) rest
      simpa [hdrop] using hnot
    -- no blank is a letter, so that nothing is trimmed in front
    obtain rfl : d = c := by
      simpa [hdrop, Text.trimStart, isBlank_of_isAlphanum hd] using hstart
    exact hd

/-- What a line gives for a token is cut out of it, from a letter or digit on. -/
theorem Label.Qualifies.cut {token : String} (h : Qualifies token line value) :
    value <:+: line ∧ 3 ≤ value.length ∧ Text.Trimmed value ∧
      ∃ c ∈ value.head?, c.isAlphanum = true := by
  obtain ⟨spelling, rest, rfl, -, hvalue, hlength⟩ := h
  have hdrop : rest.dropWhile (fun c => !c.isAlphanum) <:+: spelling ++ rest :=
    (List.dropWhile_suffix _).isInfix.trans (List.suffix_append _ _).isInfix
  obtain ⟨c, after, hcons⟩ : ∃ c after, value = c :: after :=
    List.exists_cons_of_length_pos (by omega)
  have hhead : c ∈ value.head? := by rw [hcons]; rfl
  refine ⟨?_, hlength, ?_, c, hhead, ?_⟩
  · rw [hvalue]
    exact (Text.trim_isInfix _).trans hdrop
  · rw [hvalue]
    exact Text.trimmed_trim _
  · rw [hvalue] at hhead
    exact isAlphanum_of_mem_head?_valueOf hhead

theorem excerpt_of_firstValue {tokens : List String} (h : FirstValue tokens t.lines value) :
    Excerpt t.raw value ∧ LineExcerpt t.lines value := by
  obtain ⟨before, line, after, hlines, ⟨token, -, hqualifies⟩, -⟩ := h
  have hline : line ∈ t.lines := by simp [hlines]
  obtain ⟨hexcerpt, hnewline⟩ := excerpt_of_mem_lines hline
  obtain ⟨hpart, hlength, htrimmed, hhead⟩ := hqualifies.cut
  exact ⟨⟨hpart.trans hexcerpt.part, hlength, htrimmed⟩, hhead, line, hline, hpart, hnewline⟩

/-! ## The guess at a name -/

theorem isNameAnchor_iff : isNameAnchor line = true ↔ SpeaksOfName line := by
  simp [isNameAnchor, nameAnchors, Text.occursIn_iff, SpeaksOfName]

/-- No line is too short to be a name. -/
theorem looksLikeName_iff (h : line ∈ t.lines) : looksLikeName line = true ↔
    ∀ c ∈ line, ('A' ≤ c ∧ c ≤ 'Z') ∨ Text.isBlank c = true ∨ c = '.' := by
  have hlength := (excerpt_of_mem_lines h).1.length
  have hne : line.isEmpty = false := by
    cases line with
    | nil => cases hlength
    | cons c line => rfl
  simp [looksLikeName, hne, isCapital_iff, or_assoc]

/-- The lines from the first one on that speaks of a name or of income tax. -/
theorem dropWhile_isNameAnchor_eq_cons_iff {lines rest : List (List Char)} {anchor : List Char} :
    lines.dropWhile (fun line => !isNameAnchor line) = anchor :: rest ↔
      ∃ before, lines = before ++ anchor :: rest ∧ SpeaksOfName anchor ∧
        ∀ earlier ∈ before, ¬ SpeaksOfName earlier := by
  simp only [← isNameAnchor_iff]
  constructor
  · intro h
    have hnot := List.head?_dropWhile_not (fun line => !isNameAnchor line) lines
    refine ⟨lines.takeWhile fun line => !isNameAnchor line, ?_, by simpa [h] using hnot, ?_⟩
    · rw [← h, List.takeWhile_append_dropWhile]
    · intro earlier hearlier
      simpa using List.mem_takeWhile_imp hearlier
  · rintro ⟨before, rfl, hanchor, hbefore⟩
    rw [List.dropWhile_append_of_pos (by simpa using hbefore),
      List.dropWhile_cons_of_neg (by simpa using hanchor)]

/-- The guess takes the line after the first anchor, and no other. -/
theorem guessName?_eq_some_iff {name : List Char} :
    guessName? t.lines = some name ↔ Guessed t.lines name := by
  constructor
  · intro h
    unfold guessName? at h
    split at h
    case h_1 anchor candidate after hdrop =>
      obtain ⟨before, hlines, hanchor, hbefore⟩ := dropWhile_isNameAnchor_eq_cons_iff.1 hdrop
      have hmem : candidate ∈ t.lines := by simp [hlines]
      by_cases hlooks : looksLikeName candidate = true
      · obtain rfl : candidate = name := by simpa [hlooks] using h
        exact ⟨⟨before, anchor, after, hlines, hanchor, hbefore⟩, (looksLikeName_iff hmem).1 hlooks⟩
      · simp [hlooks] at h
    case h_2 => cases h
  · rintro ⟨⟨before, anchor, after, hlines, hanchor, hbefore⟩, hletters⟩
    have hdrop := dropWhile_isNameAnchor_eq_cons_iff.2 ⟨before, hlines, hanchor, hbefore⟩
    have hmem : name ∈ t.lines := by simp [hlines]
    simp only [guessName?, hdrop, (looksLikeName_iff hmem).2 hletters, if_true]

/-- Without a labelled name the name is the guess. -/
theorem extract_name_of_notFound {name : String} (h : t.labelled.name = .notFound) :
    (extract t).fields.name = .found name ↔ guessName? t.lines = some name.toList := by
  have hname : (t.labelled.searchIdentifier t.raw).fields.get .name = .notFound :=
    ((t.labelled.searchIdentifier_frame t.raw).2 .name (by decide)).trans h
  have hextract : (extract t).fields =
      (t.labelled.searchIdentifier t.raw).fields.guessName t.lines := rfl
  generalize (t.labelled.searchIdentifier t.raw).fields = fields at hname hextract
  have hempty : fields.name = .notFound := hname
  rw [hextract, Fields.guessName, hempty]
  cases guessName? t.lines with
  | none => simp [FieldValue.isFound, hempty]
  | some guess =>
    simp [FieldValue.isFound, Fields.fill, hname, Fields.set, ← String.toList_inj]

theorem extract_name_of_unlabelled {name : String} (h : ¬ SomeQualifies ["NAME"] t.lines) :
    (extract t).fields.name = .found name ↔ Guessed t.lines name.toList := by
  rw [extract_name_of_notFound ((get_labelled_eq_notFound .name).2 h), guessName?_eq_some_iff]

/-! ## All values of a text -/

theorem excerpt_of_labels {key value : String}
    (h : (extract t).fields.labels.get? key = some value) :
    Excerpt t.raw value.toList ∧ LineExcerpt t.lines value.toList := by
  rw [extract_labels] at h
  exact excerpt_of_firstValue (get?_labels_labelled.1 h)

theorem excerpt_of_idNumber {value : String} (h : (extract t).fields.idNumber = .found value) :
    Excerpt t.raw value.toList := by
  have hidentified := identified_extract t
  rw [h] at hidentified
  generalize (extract t).hint = hint at hidentified
  cases hidentified with
  | labelled hfirst => exact (excerpt_of_firstValue hfirst).1
  | taxNumber _ hnumber =>
    rw [String.toList_ofList]
    exact excerpt_of_taxNumber hnumber
  | nationalNumber _ _ hnumber =>
    rw [String.toList_ofList]
    exact excerpt_of_nationalNumber hnumber

theorem excerpt_of_name {value : String} (h : (extract t).fields.name = .found value) :
    Excerpt t.raw value.toList := by
  cases hlabelled : t.labelled.name with
  | found other =>
    obtain rfl : other = value := by simpa [extract_name_of_found hlabelled] using h
    exact (excerpt_of_firstValue ((get_labelled_eq_found .name).1 hlabelled)).1
  | notFound =>
    obtain ⟨⟨before, anchor, after, hlines, -⟩, -⟩ :=
      guessName?_eq_some_iff.1 ((extract_name_of_notFound hlabelled).1 h)
    exact (excerpt_of_mem_lines (by simp [hlines])).1

theorem excerpt_of_slot (slot : Field) {value : String}
    (h : (extract t).fields.get slot = .found value) : Excerpt t.raw value.toList := by
  cases slot with
  | idNumber => exact excerpt_of_idNumber h
  | name => exact excerpt_of_name h
  | dateOfBirth =>
    rw [Fields.get, extract_dateOfBirth] at h
    exact (excerpt_of_firstValue ((get_labelled_eq_found .dateOfBirth).1 h)).1

/-- What a label filled is not filled again. -/
theorem get_extract_of_labelled (slot : Field) {value : String}
    (h : t.labelled.get slot = .found value) : (extract t).fields.get slot = .found value := by
  cases slot with
  | idNumber => exact (extract_of_labelled h).1
  | name => exact extract_name_of_found h
  | dateOfBirth => exact (extract_dateOfBirth t).trans h

theorem lineExcerpt_of_slot (slot : Field) {value : String}
    (h : (extract t).fields.get slot = .found value)
    (hlabelled : SomeQualifies (Label.tokensOf (·.slot = some slot)) t.lines) :
    LineExcerpt t.lines value.toList := by
  obtain ⟨first, hfirst, hslot⟩ := exists_get_labelled slot hlabelled
  obtain rfl : first = value := by simpa [get_extract_of_labelled slot hslot] using h
  exact (excerpt_of_firstValue hfirst).2

/-- **Extraction invents nothing.** Every value that is found, in a slot or under a key, is a part
of the text in one piece, at least three characters long and without a blank at either end. The
value of a label, also in a slot, begins with an ASCII letter or digit and lies within one line. A
name that no label gave is the whole line after the first that speaks of a name or of income tax,
and that line is the name just if it consists of capitals, blanks and full stops. -/
theorem extract_invents_nothing (t : RecognizedText) :
    (∀ slot value, (extract t).fields.get slot = .found value → Excerpt t.raw value.toList) ∧
    (∀ key value, (extract t).fields.labels.get? key = some value →
      Excerpt t.raw value.toList ∧ LineExcerpt t.lines value.toList) ∧
    (∀ slot value, (extract t).fields.get slot = .found value →
      SomeQualifies (Label.tokensOf (·.slot = some slot)) t.lines →
      LineExcerpt t.lines value.toList) ∧
    (∀ name, ¬ SomeQualifies ["NAME"] t.lines →
      ((extract t).fields.name = .found name ↔ Guessed t.lines name.toList)) :=
  ⟨fun slot _ => excerpt_of_slot slot, fun _ _ => excerpt_of_labels,
    fun slot _ => lineExcerpt_of_slot slot, fun _ => extract_name_of_unlabelled⟩

/-- A card with a labelled date, an identifier that only its form tells and a name that stands in
the line after the first that speaks of income tax. -/
def RecognizedText.unlabelledCard : RecognizedText :=
  .of " INCOME TAX DEPARTMENT\n JOHN Q. DOE \r\nDOB : 12-03-1985\nABCDE1234F"

theorem extract_invents_nothing_unlabelledCard :
    Excerpt RecognizedText.unlabelledCard.raw "ABCDE1234F".toList ∧
    (Excerpt RecognizedText.unlabelledCard.raw "12-03-1985".toList ∧
      LineExcerpt RecognizedText.unlabelledCard.lines "12-03-1985".toList) ∧
    LineExcerpt RecognizedText.unlabelledCard.lines "12-03-1985".toList ∧
    Guessed RecognizedText.unlabelledCard.lines "JOHN Q. DOE".toList := by
  obtain ⟨hslots, hlabels, hlabelled, hguess⟩ :=
    extract_invents_nothing RecognizedText.unlabelledCard
  have hdate : (extract .unlabelledCard).fields.get .dateOfBirth = .found "12-03-1985" := by
    decide +kernel
  have hname : RecognizedText.unlabelledCard.labelled.name = .notFound := by decide +kernel
  have hline : Qualifies "DOB" "DOB : 12-03-1985".toList "12-03-1985".toList :=
    ⟨"DOB".toList, " : 12-03-1985".toList, by decide, by decide, by decide, by decide⟩
  refine ⟨hslots .idNumber _ (by decide +kernel), hlabels "dob" _ (by decide +kernel),
    hlabelled .dateOfBirth _ hdate ?_, (hguess _ ?_).1 (by decide +kernel)⟩
  · exact ⟨_, by decide +kernel, "DOB", by decide, _, hline⟩
  · exact (get_labelled_eq_notFound .name).1 hname

end IdentityDocs
