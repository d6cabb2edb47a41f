import IdentityDocs.Proofs.Analysis.Extraction
import Mathlib.Data.Nat.Find

/-!
# The search for an identifier is sound, complete and leftmost

A number form says of what stands between the rest of a text on its left and on its right whether it
is a number. The two forms are stated with the characters and the word boundaries alone. The search
reads a text from left to right, and what it finds is the number at the leftmost place where any
stands; it finds none just if none stands anywhere (`leftmost_eq_some_iff`, `leftmost_eq_none_iff`).
That holds of every form that a reader at one place reads exactly (`Reads`), and what remains is
that the two readers do so.

`Identified` puts labels and forms together: a labelled identifier comes before any form, and a tax
number anywhere comes before a national number.
-/

namespace IdentityDocs

/-! ## Leftmost places -/

/-- Whether the middle of a text, between what is on its left and on its right, is a number. -/
abbrev Standing := (before found after : List Char) → Prop

/-- A number of the form stands somewhere in the text. -/
def StandsIn (form : Standing) (text : List Char) : Prop :=
  ∃ before found after, text = before ++ found ++ after ∧ form before found after

/-- The number stands in the text, and no number stands further to the left. -/
def StandsLeftmost (form : Standing) (text found : List Char) : Prop :=
  ∃ before after, text = before ++ found ++ after ∧ form before found after ∧
    ∀ before' found' after', text = before' ++ found' ++ after' → form before' found' after' →
      before.length ≤ before'.length

/-- What is read at a place, after the character in front of it, is what stands there. -/
def Reads (read : NumberForm) (form : Standing) : Prop :=
  ∀ before rest found, read before.getLast? rest = some found ↔
    ∃ after, rest = found ++ after ∧ form before found after

section Leftmost

variable {read : NumberForm} {form : Standing}

theorem StandsLeftmost.standsIn {text found : List Char} (h : StandsLeftmost form text found) :
    StandsIn form text := by
  obtain ⟨before, after, htext, hform, -⟩ := h
  exact ⟨before, found, after, htext, hform⟩

/-- If any number stands in a text, one stands leftmost. -/
theorem StandsIn.exists_leftmost {text : List Char} (h : StandsIn form text) :
    ∃ found, StandsLeftmost form text found := by
  have hplace : ∃ n before found after, text = before ++ found ++ after ∧
      form before found after ∧ before.length = n := by
    obtain ⟨before, found, after, htext, hform⟩ := h
    exact ⟨before.length, before, found, after, htext, hform, rfl⟩
  classical
  obtain ⟨before, found, after, htext, hform, hlength⟩ := Nat.find_spec hplace
  refine ⟨found, before, after, htext, hform, ?_⟩
  intro before' found' after' htext' hform'
  rw [hlength]
  exact Nat.find_min' hplace ⟨before', found', after', htext', hform', rfl⟩

/-- The form after more text on the left. -/
def Standing.behind (form : Standing) (before : List Char) : Standing :=
  fun left found after => form (before ++ left) found after

theorem leftmost_cons_of_none {before : List Char} {c : Char} {cs : List Char}
    (h : read before.getLast? (c :: cs) = none) :
    leftmost read before.getLast? (c :: cs) = leftmost read (before ++ [c]).getLast? cs := by
  rw [leftmost, h, List.getLast?_concat]

theorem leftmost_cons_of_some {before : Option Char} {c : Char} {cs found : List Char}
    (h : read before (c :: cs) = some found) : leftmost read before (c :: cs) = some found := by
  rw [leftmost, h]

/-- Where nothing is read at a place, every number stands further to the right. -/
theorem Reads.exists_cons {before left found after : List Char} {c : Char} {cs : List Char}
    (hreads : Reads read form) (h : read before.getLast? (c :: cs) = none)
    (htext : c :: cs = left ++ found ++ after) (hform : form.behind before left found after) :
    ∃ left', left = c :: left' ∧ cs = left' ++ found ++ after ∧
      form.behind (before ++ [c]) left' found after := by
  cases left with
  | nil =>
    have hread : read before.getLast? (c :: cs) = some found := by
      refine (hreads before (c :: cs) found).2 ⟨after, by simpa using htext, ?_⟩
      simpa [Standing.behind] using hform
    rw [h] at hread
    cases hread
  | cons d left =>
    obtain ⟨rfl, hrest⟩ := List.cons.inj htext
    refine ⟨left, rfl, hrest, ?_⟩
    simpa [Standing.behind] using hform

theorem leftmost_eq_some_iff_behind (hreads : Reads read form) (cs : List Char) :
    ∀ before found, leftmost read before.getLast? cs = some found ↔
      StandsLeftmost (form.behind before) cs found := by
  -- on the rest of the text, for any text before it: each step moves one character over
  induction cs with
  | nil =>
    intro before found
    rw [leftmost, hreads]
    constructor
    · rintro ⟨after, htext, hform⟩
      exact ⟨[], after, htext, by simpa [Standing.behind] using hform, by simp⟩
    · rintro ⟨left, after, htext, hform, -⟩
      have hnil := (List.append_eq_nil_iff.1 htext.symm).1
      obtain ⟨rfl, rfl⟩ : left = [] ∧ found = [] := by simpa using hnil
      exact ⟨after, htext, by simpa [Standing.behind] using hform⟩
  | cons c cs ih =>
    intro before found
    cases hread : read before.getLast? (c :: cs) with
    | some number =>
      obtain ⟨rest, hrest, hform⟩ := (hreads before (c :: cs) number).1 hread
      have hhere : form.behind before [] number rest := by simpa [Standing.behind] using hform
      rw [leftmost_cons_of_some hread]
      constructor
      · intro h
        obtain rfl : number = found := by simpa using h
        exact ⟨[], rest, hrest, hhere, by simp⟩
      · rintro ⟨left, after, htext, hfound, hfirst⟩
        -- nothing is further to the left than what was read here
        have hzero : left.length ≤ 0 := hfirst [] number rest hrest hhere
        obtain rfl : left = [] := List.eq_nil_of_length_eq_zero (by omega)
        rw [← hread]
        exact (hreads before (c :: cs) found).2
          ⟨after, htext, by simpa [Standing.behind] using hfound⟩
    | none =>
      rw [leftmost_cons_of_none hread, ih]
      constructor
      · rintro ⟨left, after, rfl, hform, hfirst⟩
        refine ⟨c :: left, after, rfl, by simpa [Standing.behind] using hform, ?_⟩
        intro left' found' after' htext hform'
        obtain ⟨left'', rfl, hrest, hform''⟩ := hreads.exists_cons hread htext hform'
        have := hfirst left'' found' after' hrest hform''
        simpa using this
      · rintro ⟨left, after, htext, hform, hfirst⟩
        obtain ⟨left, rfl, hrest, hform⟩ := hreads.exists_cons hread htext hform
        refine ⟨left, after, hrest, hform, ?_⟩
        intro left' found' after' hrest' hform'
        have := hfirst (c :: left') found' after' (by rw [hrest']; rfl)
          (by simpa [Standing.behind] using hform')
        simpa using this

/-- What the search finds is the number that stands leftmost. -/
theorem leftmost_eq_some_iff (hreads : Reads read form) {text found : List Char} :
    leftmost read none text = some found ↔ StandsLeftmost form text found :=
  leftmost_eq_some_iff_behind hreads text [] found

/-- The search finds nothing just if no number stands anywhere. -/
theorem leftmost_eq_none_iff (hreads : Reads read form) {text : List Char} :
    leftmost read none text = none ↔ ¬ StandsIn form text := by
  constructor
  · intro h hstands
    obtain ⟨found, hfound⟩ := hstands.exists_leftmost
    rw [(leftmost_eq_some_iff hreads).2 hfound] at h
    cases h
  · intro h
    cases hsearch : leftmost read none text with
    | none => rfl
    | some found => exact absurd ((leftmost_eq_some_iff hreads).1 hsearch).standsIn h

end Leftmost

/-! ## The two forms -/

/-- As many characters, each of which passes the test. -/
def IsRun (n : Nat) (test : Char → Bool) (cs : List Char) : Prop :=
  cs.length = n ∧ ∀ c ∈ cs, test c = true

/-- Five capitals, four digits and a capital, wherever they stand. -/
def taxNumberForm : Standing := fun _ found _ =>
  ∃ letters digits letter, found = letters ++ digits ++ letter ∧
    IsRun 5 isCapital letters ∧ IsRun 4 Char.isDigit digits ∧ IsRun 1 isCapital letter

/-- What may stand between two groups of digits: nothing, or one blank. -/
def IsGap (cs : List Char) : Prop := cs = [] ∨ ∃ c, cs = [c] ∧ Text.isBlank c = true

/-- A word begins or ends between the two parts of a text: of the characters on both sides, where
there are such, exactly one belongs to a word. -/
def WordBoundary (before after : List Char) : Prop :=
  (before.getLast?.any Text.isWordChar) ≠ (after.head?.any Text.isWordChar)

/-- Three groups of four digits with gaps between them, and a word boundary on either side. -/
def nationalNumberForm : Standing := fun before found after =>
  (∃ first gap second gap' third, found = first ++ gap ++ second ++ gap' ++ third ∧
    IsRun 4 Char.isDigit first ∧ IsGap gap ∧ IsRun 4 Char.isDigit second ∧ IsGap gap' ∧
    IsRun 4 Char.isDigit third) ∧
  WordBoundary before (found ++ after) ∧ WordBoundary (before ++ found) after

theorem fits_cons {test : Char → Bool} {form : List (Char → Bool)} {c : Char} {cs : List Char} :
    fits (test :: form) (c :: cs) = (test c && fits form cs) := by
  simp [fits, Bool.and_left_comm]

theorem fits_nil {cs : List Char} : fits [] cs = true ↔ cs = [] := by
  simp [fits]

/-- A test that is asked for a number of times is passed by a run of characters. -/
theorem fits_replicate_append {n : Nat} {test : Char → Bool} {form : List (Char → Bool)}
    {cs : List Char} : fits (List.replicate n test ++ form) cs = true ↔
      ∃ run rest, cs = run ++ rest ∧ IsRun n test run ∧ fits form rest = true := by
  induction n generalizing cs with
  | zero =>
    constructor
    · exact fun h => ⟨[], cs, rfl, ⟨rfl, by simp⟩, by simpa using h⟩
    · rintro ⟨run, rest, rfl, ⟨hlength, -⟩, hrest⟩
      obtain rfl : run = [] := List.eq_nil_of_length_eq_zero hlength
      simpa using hrest
  | succ n ih =>
    cases cs with
    | nil =>
      constructor
      · intro h
        simp [fits, List.replicate_succ] at h
      · rintro ⟨run, rest, hcs, ⟨hlength, -⟩, -⟩
        obtain ⟨rfl, -⟩ := List.append_eq_nil_iff.1 hcs.symm
        cases hlength
    | cons c cs =>
      rw [List.replicate_succ, List.cons_append, fits_cons, Bool.and_eq_true, ih]
      constructor
      · rintro ⟨hc, run, rest, rfl, ⟨hlength, hrun⟩, hrest⟩
        refine ⟨c :: run, rest, rfl, ⟨by rw [List.length_cons, hlength], ?_⟩, hrest⟩
        simpa using ⟨hc, hrun⟩
      · rintro ⟨run, rest, hcs, ⟨hlength, hrun⟩, hrest⟩
        cases run with
        | nil => cases hlength
        | cons d run =>
          obtain ⟨rfl, rfl⟩ := List.cons.inj hcs
          rw [List.forall_mem_cons] at hrun
          exact ⟨hrun.1, run, rest, rfl, ⟨by simpa using hlength, hrun.2⟩, hrest⟩

theorem fits_replicate {n : Nat} {test : Char → Bool} {cs : List Char} :
    fits (List.replicate n test) cs = true ↔ IsRun n test cs := by
  rw [← List.append_nil (List.replicate n test), fits_replicate_append]
  simp [fits_nil]

theorem fits_taxNumberTests {before found after : List Char} :
    fits taxNumberTests found = true ↔ taxNumberForm before found after := by
  have hlast : [isCapital] = List.replicate 1 isCapital := rfl
  simp only [taxNumberTests, List.append_assoc, fits_replicate_append, hlast, fits_replicate,
    taxNumberForm]
  constructor
  · rintro ⟨letters, rest, rfl, hletters, digits, letter, rfl, hdigits, hletter⟩
    exact ⟨letters, digits, letter, rfl, hletters, hdigits, hletter⟩
  · rintro ⟨letters, digits, letter, rfl, hletters, hdigits, hletter⟩
    exact ⟨letters, _, rfl, hletters, digits, letter, rfl, hdigits, hletter⟩

theorem reads_taxNumber : Reads taxNumber taxNumberForm := by
  intro before rest found
  unfold taxNumber
  constructor
  · intro h
    by_cases hfits : fits taxNumberTests (rest.take 10) = true
    · simp only [if_pos hfits, Option.some.injEq] at h
      subst h
      exact ⟨rest.drop 10, (List.take_append_drop 10 rest).symm, fits_taxNumberTests.1 hfits⟩
    · simp [hfits] at h
  · rintro ⟨after, rfl, hform⟩
    have hfits : fits taxNumberTests found = true := fits_taxNumberTests.2 hform
    obtain ⟨letters, digits, letter, rfl, ⟨hletters, -⟩, ⟨hdigits, -⟩, ⟨hletter, -⟩⟩ := hform
    have htake : (letters ++ digits ++ letter ++ after).take 10 = letters ++ digits ++ letter := by
      refine List.take_left' ?_
      simp only [List.length_append, hletters, hdigits, hletter]
    simp only [htake, if_pos hfits]

/-! ## National numbers -/

theorem toNat_of_isDigit {c : Char} (h : c.isDigit = true) : 48 ≤ c.toNat ∧ c.toNat ≤ 57 := by
  simpa [Char.isDigit, UInt32.le_iff_toNat_le] using h

/-- No blank lies among the ASCII characters that are seen. -/
theorem isBlank_of_graphic {c : Char} (hlow : 0x20 < c.toNat) (hhigh : c.toNat < 0x7f) :
    Text.isBlank c = false := by
  have hranges : ∀ r ∈ Text.blankRanges, r.2 ≤ 0x20 ∨ 0x85 ≤ r.1 := by decide
  refine Bool.eq_false_iff.2 fun hblank => ?_
  obtain ⟨r, hr, hfirst, hlast⟩ := Text.CodeRange.covers_iff.1 hblank
  rcases hranges r hr with hbelow | habove
  · omega
  · omega

theorem isBlank_of_isDigit {c : Char} (h : c.isDigit = true) : Text.isBlank c = false := by
  obtain ⟨hlow, hhigh⟩ := toNat_of_isDigit h
  exact isBlank_of_graphic (by omega) (by omega)

theorem isWordChar_of_isDigit {c : Char} (h : c.isDigit = true) : Text.isWordChar c = true :=
  Text.CodeRange.covers_iff.2 ⟨(0x30, 0x39), List.mem_cons_self, toNat_of_isDigit h⟩

theorem isWordGap_eq (neighbour : Option Char) :
    Text.isWordGap neighbour = !neighbour.any Text.isWordChar := by
  cases neighbour <;> rfl

theorem readGroup_eq_some_iff {cs group rest : List Char} :
    readGroup cs = some (group, rest) ↔ cs = group ++ rest ∧ IsRun 4 Char.isDigit group := by
  unfold readGroup
  constructor
  · intro h
    by_cases hfits : fits (List.replicate 4 Char.isDigit) (cs.take 4) = true
    · simp only [if_pos hfits, Option.some.injEq, Prod.mk.injEq] at h
      obtain ⟨rfl, rfl⟩ := h
      exact ⟨(List.take_append_drop 4 cs).symm, fits_replicate.1 hfits⟩
    · simp only [if_neg hfits, reduceCtorEq] at h
  · rintro ⟨rfl, hrun⟩
    have htake : (group ++ rest).take 4 = group := List.take_left' hrun.1
    have hdrop : (group ++ rest).drop 4 = rest := List.drop_left' hrun.1
    simp only [htake, hdrop, if_pos (fits_replicate.2 hrun)]

theorem IsRun.exists_head? {n : Nat} {test : Char → Bool} {cs : List Char}
    (h : IsRun (n + 1) test cs) : ∃ c, cs.head? = some c ∧ test c = true := by
  obtain ⟨c, hc⟩ : ∃ c, cs.head? = some c := by
    cases cs with
    | nil => cases h.1
    | cons c rest => exact ⟨c, rfl⟩
  exact ⟨c, hc, h.2 c (List.mem_of_mem_head? hc)⟩

theorem IsRun.exists_getLast? {n : Nat} {test : Char → Bool} {cs : List Char}
    (h : IsRun (n + 1) test cs) : ∃ c, cs.getLast? = some c ∧ test c = true := by
  obtain ⟨c, hc⟩ : ∃ c, cs.getLast? = some c := by
    cases hlast : cs.getLast? with
    | none =>
      rw [List.getLast?_eq_none_iff.1 hlast] at h
      cases h.1
    | some c => exact ⟨c, rfl⟩
  exact ⟨c, hc, h.2 c (List.mem_of_getLast? hc)⟩

theorem readGap_spec (cs : List Char) : cs = (readGap cs).1 ++ (readGap cs).2 ∧
    IsGap (readGap cs).1 := by
  cases cs with
  | nil => exact ⟨rfl, .inl rfl⟩
  | cons c cs =>
    by_cases hblank : Text.isBlank c = true
    · simp only [readGap, if_pos hblank]
      exact ⟨rfl, .inr ⟨c, rfl, hblank⟩⟩
    · simp only [readGap, if_neg hblank]
      exact ⟨rfl, .inl rfl⟩

/-- In front of a group of digits a gap is read to its end, since no digit is a blank. -/
theorem readGap_append {gap group rest : List Char} (hgap : IsGap gap)
    (hgroup : IsRun 4 Char.isDigit group) :
    readGap (gap ++ (group ++ rest)) = (gap, group ++ rest) := by
  rcases hgap with rfl | ⟨c, rfl, hblank⟩
  · obtain ⟨d, hhead, hdigit⟩ := hgroup.exists_head?
    obtain ⟨digits, rfl⟩ := List.head?_eq_some_iff.1 hhead
    simp [readGap, isBlank_of_isDigit hdigit]
  · simp [readGap, hblank]

/-- In front of a digit a word begins where no word character precedes. -/
theorem wordBoundary_of_head? {before after : List Char} {d : Char} (h : after.head? = some d)
    (hdigit : d.isDigit = true) :
    WordBoundary before after ↔ Text.isWordGap before.getLast? = true := by
  simp [WordBoundary, isWordGap_eq, h, isWordChar_of_isDigit hdigit]

/-- After a digit a word ends where no word character follows. -/
theorem wordBoundary_of_getLast? {before after : List Char} {d : Char}
    (h : before.getLast? = some d) (hdigit : d.isDigit = true) :
    WordBoundary before after ↔ Text.isWordGap after.head? = true := by
  simp [WordBoundary, isWordGap_eq, h, isWordChar_of_isDigit hdigit]

/-- On either side of three groups a word boundary is a place that no word character touches. -/
theorem wordBoundaries_iff {before first : List Char} (middle : List Char) {third after : List Char}
    (hfirst : IsRun 4 Char.isDigit first) (hthird : IsRun 4 Char.isDigit third) :
    WordBoundary before (first ++ middle ++ third ++ after) ∧
        WordBoundary (before ++ (first ++ middle ++ third)) after ↔
      Text.isWordGap before.getLast? = true ∧ Text.isWordGap after.head? = true := by
  obtain ⟨d, hhead, hd⟩ := hfirst.exists_head?
  obtain ⟨e, hlast, he⟩ := hthird.exists_getLast?
  have hright : (first ++ middle ++ third ++ after).head? = some d := by
    simp [List.head?_append, hhead]
  have hleft : (before ++ (first ++ middle ++ third)).getLast? = some e := by
    simp [List.getLast?_append, hlast]
  rw [wordBoundary_of_head? hright hd, wordBoundary_of_getLast? hleft he]

theorem nationalNumber_eq_some {before : Option Char} {cs found : List Char}
    (h : nationalNumber before cs = some found) :
    ∃ first gap second gap' third after, cs = first ++ gap ++ second ++ gap' ++ third ++ after ∧
      found = first ++ gap ++ second ++ gap' ++ third ∧ IsRun 4 Char.isDigit first ∧
      IsGap gap ∧ IsRun 4 Char.isDigit second ∧ IsGap gap' ∧ IsRun 4 Char.isDigit third ∧
      Text.isWordGap before = true ∧ Text.isWordGap after.head? = true := by
  unfold nationalNumber at h
  by_cases hbefore : Text.isWordGap before = true
  · simp only [hbefore, Bool.not_true, Bool.false_eq_true, if_false, Option.bind_eq_bind,
      Option.bind_eq_some_iff, Prod.exists] at h
    obtain ⟨first, cs₁, hfirst, second, cs₂, hsecond, third, after, hthird, h⟩ := h
    by_cases hafter : Text.isWordGap after.head? = true
    · simp only [if_pos hafter, Option.some.injEq] at h
      obtain ⟨rfl, hrun⟩ := readGroup_eq_some_iff.1 hfirst
      obtain ⟨hcs₁, hgap⟩ := readGap_spec cs₁
      obtain ⟨hrest, hsecond⟩ := readGroup_eq_some_iff.1 hsecond
      obtain ⟨hcs₂, hgap'⟩ := readGap_spec cs₂
      obtain ⟨hrest', hthird⟩ := readGroup_eq_some_iff.1 hthird
      refine ⟨first, _, second, _, third, after, ?_, h.symm, hrun, hgap, hsecond, hgap', hthird,
        hbefore, hafter⟩
      calc first ++ cs₁ = first ++ ((readGap cs₁).1 ++ (second ++ cs₂)) := by rw [← hrest, ← hcs₁]
        _ = first ++ ((readGap cs₁).1 ++ (second ++ ((readGap cs₂).1 ++ (third ++ after)))) := by
          rw [← hrest', ← hcs₂]
        _ = _ := by simp only [List.append_assoc]
    · simp only [if_neg hafter, reduceCtorEq] at h
  · simp [hbefore] at h

theorem nationalNumber_append {before : Option Char} {first gap second gap' third after : List Char}
    (hfirst : IsRun 4 Char.isDigit first) (hgap : IsGap gap) (hsecond : IsRun 4 Char.isDigit second)
    (hgap' : IsGap gap') (hthird : IsRun 4 Char.isDigit third)
    (hbefore : Text.isWordGap before = true) (hafter : Text.isWordGap after.head? = true) :
    nationalNumber before (first ++ gap ++ second ++ gap' ++ third ++ after) =
      some (first ++ gap ++ second ++ gap' ++ third) := by
  have hgroup {group : List Char} (h : IsRun 4 Char.isDigit group) (rest : List Char) :
      readGroup (group ++ rest) = some (group, rest) := readGroup_eq_some_iff.2 ⟨rfl, h⟩
  unfold nationalNumber
  simp only [hbefore, Bool.not_true, Bool.false_eq_true, if_false, Option.bind_eq_bind,
    List.append_assoc, hgroup hfirst, Option.bind_some, readGap_append hgap hsecond, hgroup hsecond,
    readGap_append hgap' hthird, hgroup hthird, hafter, if_true]

theorem reads_nationalNumber : Reads nationalNumber nationalNumberForm := by
  intro before rest found
  constructor
  · intro h
    obtain ⟨first, gap, second, gap', third, after, rfl, rfl, hfirst, hgap, hsecond, hgap', hthird,
      hsides⟩ := nationalNumber_eq_some h
    have hboundaries := (wordBoundaries_iff (gap ++ second ++ gap') hfirst hthird).2 hsides
    refine ⟨after, rfl, ⟨first, gap, second, gap', third, rfl, hfirst, hgap, hsecond, hgap',
      hthird⟩, ?_⟩
    simpa only [List.append_assoc] using hboundaries
  · rintro ⟨after, rfl, ⟨first, gap, second, gap', third, rfl, hfirst, hgap, hsecond, hgap',
      hthird⟩, hboundaries⟩
    obtain ⟨hbefore, hafter⟩ := (wordBoundaries_iff (gap ++ second ++ gap') hfirst
      hthird).1 (by simpa only [List.append_assoc] using hboundaries)
    exact nationalNumber_append hfirst hgap hsecond hgap' hthird hbefore hafter

/-! ## The identifier of a text -/

open Label (FirstValue SomeQualifies)

/-- What the identifier of a text is, and the category that its form hints at. -/
inductive Identified (t : RecognizedText) : FieldValue → Option Category → Prop
  /-- A line is labelled as one: the first such line gives the identifier, and its form does not
  matter. -/
  | labelled {value : String} : FirstValue ["ID NO", "ACCOUNT NO"] t.lines value.toList →
    Identified t (.found value) none
  /-- No line is, and there is a tax number. -/
  | taxNumber {number : List Char} : ¬ SomeQualifies ["ID NO", "ACCOUNT NO"] t.lines →
    StandsLeftmost taxNumberForm t.raw number →
    Identified t (.found (String.ofList number)) (some .taxId)
  /-- No line is, there is no tax number anywhere, and there is a national number. -/
  | nationalNumber {number : List Char} : ¬ SomeQualifies ["ID NO", "ACCOUNT NO"] t.lines →
    ¬ StandsIn taxNumberForm t.raw → StandsLeftmost nationalNumberForm t.raw number →
    Identified t (.found (String.ofList number)) (some .nationalId)
  /-- There is none of them. -/
  | nothing : ¬ SomeQualifies ["ID NO", "ACCOUNT NO"] t.lines → ¬ StandsIn taxNumberForm t.raw →
    ¬ StandsIn nationalNumberForm t.raw → Identified t .notFound none

/-- What the search by form finds of a text. -/
theorem identifier?_eq (raw : List Char) : identifier? raw =
    match leftmost taxNumber none raw with
    | some number => some (number, .taxId)
    | none => (leftmost nationalNumber none raw).map fun number => (number, .nationalId) := by
  unfold identifier?
  cases leftmost taxNumber none raw <;> cases leftmost nationalNumber none raw <;> rfl

variable {t : RecognizedText}

theorem idNumber_fill_of_notFound {fields : Fields} (h : fields.idNumber = .notFound)
    (value : String) : (fields.fill .idNumber value).1.idNumber = .found value := by
  have hget : fields.get .idNumber = .notFound := h
  simp only [Fields.fill, hget]
  rfl

theorem extract_of_labelled {value : String} (h : t.labelled.idNumber = .found value) :
    (extract t).fields.idNumber = .found value ∧ (extract t).hint = none := by
  rw [extract_idNumber, extract_hint, Fields.searchIdentifier_of_found h]
  exact ⟨h, rfl⟩

theorem extract_of_identifier {number : List Char} {category : Category}
    (h : t.labelled.idNumber = .notFound) (hnumber : identifier? t.raw = some (number, category)) :
    (extract t).fields.idNumber = .found (String.ofList number) ∧
      (extract t).hint = some category := by
  rw [extract_idNumber, extract_hint, Fields.searchIdentifier_of_notFound h, hnumber]
  exact ⟨idNumber_fill_of_notFound h _, rfl⟩

theorem extract_of_nothing (h : t.labelled.idNumber = .notFound)
    (hnumber : identifier? t.raw = none) :
    (extract t).fields.idNumber = .notFound ∧ (extract t).hint = none := by
  rw [extract_idNumber, extract_hint, Fields.searchIdentifier_of_notFound h, hnumber]
  exact ⟨h, rfl⟩

/-- Every text is identified in one of the ways. -/
theorem identified_extract (t : RecognizedText) :
    Identified t (extract t).fields.idNumber (extract t).hint := by
  cases hlabelled : t.labelled.idNumber with
  | found value =>
    obtain ⟨hid, hhint⟩ := extract_of_labelled hlabelled
    rw [hid, hhint]
    exact .labelled ((get_labelled_eq_found .idNumber).1 hlabelled)
  | notFound =>
    have hnone := (get_labelled_eq_notFound .idNumber).1 hlabelled
    have hsearch := identifier?_eq t.raw
    cases htax : leftmost taxNumber none t.raw with
    | some number =>
      obtain ⟨hid, hhint⟩ := extract_of_identifier hlabelled (by rw [hsearch, htax])
      rw [hid, hhint]
      exact .taxNumber hnone ((leftmost_eq_some_iff reads_taxNumber).1 htax)
    | none =>
      have hnoTax := (leftmost_eq_none_iff reads_taxNumber).1 htax
      cases hnational : leftmost nationalNumber none t.raw with
      | some number =>
        obtain ⟨hid, hhint⟩ :=
          extract_of_identifier hlabelled (by rw [hsearch, htax, hnational, Option.map_some])
        rw [hid, hhint]
        exact .nationalNumber hnone hnoTax ((leftmost_eq_some_iff reads_nationalNumber).1 hnational)
      | none =>
        obtain ⟨hid, hhint⟩ :=
          extract_of_nothing hlabelled (by rw [hsearch, htax, hnational, Option.map_none])
        rw [hid, hhint]
        exact .nothing hnone hnoTax ((leftmost_eq_none_iff reads_nationalNumber).1 hnational)

/-- A text is identified in no other way than the extraction finds. -/
theorem Identified.extract_eq {value : FieldValue} {hint : Option Category}
    (h : Identified t value hint) :
    (extract t).fields.idNumber = value ∧ (extract t).hint = hint := by
  have hsearch := identifier?_eq t.raw
  cases h with
  | labelled hfirst => exact extract_of_labelled ((get_labelled_eq_found .idNumber).2 hfirst)
  | taxNumber hnone hnumber =>
    refine extract_of_identifier ((get_labelled_eq_notFound .idNumber).2 hnone) ?_
    rw [hsearch, (leftmost_eq_some_iff reads_taxNumber).2 hnumber]
  | nationalNumber hnone hnoTax hnumber =>
    refine extract_of_identifier ((get_labelled_eq_notFound .idNumber).2 hnone) ?_
    rw [hsearch, (leftmost_eq_none_iff reads_taxNumber).2 hnoTax,
      (leftmost_eq_some_iff reads_nationalNumber).2 hnumber, Option.map_some]
  | nothing hnone hnoTax hnoNational =>
    refine extract_of_nothing ((get_labelled_eq_notFound .idNumber).2 hnone) ?_
    rw [hsearch, (leftmost_eq_none_iff reads_taxNumber).2 hnoTax,
      (leftmost_eq_none_iff reads_nationalNumber).2 hnoNational, Option.map_none]

/-- **The search for an identifier is sound, complete and leftmost.** The identifier of a text and
the hint at a category are exactly those of the way in which the text is identified: by the first
line with a label for it; without such a line by the leftmost tax number in the text, if there is
any; without a tax number anywhere by the leftmost national number, which no word character touches;
and without all of these there is no identifier and no hint. -/
theorem extract_iff_identified (t : RecognizedText) (value : FieldValue) (hint : Option Category) :
    (extract t).fields.idNumber = value ∧ (extract t).hint = hint ↔ Identified t value hint := by
  constructor
  · rintro ⟨rfl, rfl⟩
    exact identified_extract t
  · intro h
    exact h.extract_eq

end IdentityDocs
