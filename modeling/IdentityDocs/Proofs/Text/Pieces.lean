import IdentityDocs.Text.Blank
import IdentityDocs.Text.Lines
import Mathlib.Data.List.Infix
import Mathlib.Data.List.TakeWhile

/-!
# Trimmed texts and lines are parts of the text

Cutting blanks off the ends of a text and splitting a text into lines drop characters and invent
none: what remains stands in the text in one piece. A trimmed text has no blank at either end,
however many stand around the text, and a line holds no line feed.
-/

namespace IdentityDocs.Text

variable {cs line blanks : List Char}

/-! ## Trimming -/

theorem trimStart_isSuffix (cs : List Char) : trimStart cs <:+ cs := List.dropWhile_suffix _

theorem trimEnd_isPrefix (cs : List Char) : trimEnd cs <+: cs := by
  rw [← List.reverse_suffix, trimEnd, List.reverse_reverse]
  exact List.dropWhile_suffix _

theorem trim_isInfix (cs : List Char) : trim cs <:+: cs :=
  (trimEnd_isPrefix _).isInfix.trans (trimStart_isSuffix cs).isInfix

/-- What is trimmed has no blank at either end. -/
structure Trimmed (cs : List Char) : Prop where
  head : ∀ c ∈ cs.head?, isBlank c = false
  last : ∀ c ∈ cs.getLast?, isBlank c = false

theorem isBlank_of_mem_head?_trimStart {c : Char} (h : c ∈ (trimStart cs).head?) :
    isBlank c = false := by
  have hnot := List.head?_dropWhile_not isBlank cs
  rw [Option.mem_def, trimStart] at h
  rw [h] at hnot
  simpa using hnot

theorem isBlank_of_mem_getLast?_trimEnd {c : Char} (h : c ∈ (trimEnd cs).getLast?) :
    isBlank c = false := by
  rw [trimEnd, List.getLast?_reverse] at h
  exact isBlank_of_mem_head?_trimStart h

/-- What is left after the end was trimmed begins as the text does, unless nothing is left. -/
theorem mem_head?_of_isPrefix {c : Char} {start : List Char} (hstart : start <+: cs)
    (h : c ∈ start.head?) : c ∈ cs.head? := by
  obtain ⟨rest, rfl⟩ := hstart
  exact List.mem_head?_append_of_mem_head? h

theorem trimmed_trim (cs : List Char) : Trimmed (trim cs) where
  head _ h := isBlank_of_mem_head?_trimStart (mem_head?_of_isPrefix (trimEnd_isPrefix _) h)
  last _ h := isBlank_of_mem_getLast?_trimEnd h

theorem trimStart_append_of_blank (h : ∀ c ∈ blanks, isBlank c = true) :
    trimStart (blanks ++ cs) = trimStart cs :=
  List.dropWhile_append_of_pos h

theorem trimEnd_append_of_blank (h : ∀ c ∈ blanks, isBlank c = true) :
    trimEnd (cs ++ blanks) = trimEnd cs := by
  have hreverse : ∀ c ∈ blanks.reverse, isBlank c = true := by
    intro c hc
    exact h c (List.mem_reverse.1 hc)
  rw [trimEnd, List.reverse_append, List.dropWhile_append_of_pos hreverse, trimEnd]

/-- Blanks around a text are trimmed away with its own. -/
theorem trim_surrounded {before behind : List Char} (hbefore : ∀ c ∈ before, isBlank c = true)
    (hbehind : ∀ c ∈ behind, isBlank c = true) : trim (before ++ (cs ++ behind)) = trim cs := by
  rw [trim, trimStart_append_of_blank hbefore, trimStart, List.dropWhile_append]
  by_cases hall : cs.dropWhile isBlank = []
  · -- all of it is blank
    have hnone : behind.dropWhile isBlank = [] := List.dropWhile_eq_nil_iff.2 hbehind
    rw [hall, List.isEmpty_nil, if_pos rfl, hnone, trim, trimStart, hall]
  · rw [if_neg (by simpa using hall), trimEnd_append_of_blank hbehind]
    rfl

/-! ## Lines -/

theorem mem_pushFront {c : Char} {rest : List (List Char)} (h : line ∈ pushFront c rest) :
    line ∈ rest ∨ ∃ first, line = c :: first ∧ (first = [] ∨ rest.head? = some first) := by
  cases rest with
  | nil =>
    obtain rfl : line = [c] := by simpa [pushFront] using h
    exact .inr ⟨[], rfl, .inl rfl⟩
  | cons first rest =>
    rw [pushFront, List.mem_cons] at h
    rcases h with rfl | h
    · exact .inr ⟨first, rfl, .inr rfl⟩
    · exact .inl (List.mem_cons_of_mem _ h)

/-- The first line is what the text begins with. -/
theorem isPrefix_of_head?_lines (h : (lines cs).head? = some line) : line <+: cs := by
  -- the cases are the end of the text, its two line ends and any other character
  fun_induction lines cs generalizing line with
  | case1 => cases h
  | case2 =>
    obtain rfl : [] = line := by simpa using h
    exact List.nil_prefix
  | case3 =>
    obtain rfl : [] = line := by simpa using h
    exact List.nil_prefix
  | case4 c cs _ _ ih =>
    cases hrest : lines cs with
    | nil =>
      obtain rfl : [c] = line := by simpa [pushFront, hrest] using h
      exact ⟨cs, rfl⟩
    | cons first rest =>
      obtain rfl : c :: first = line := by simpa [pushFront, hrest] using h
      exact List.cons_prefix_cons.2 ⟨rfl, ih (by rw [hrest, List.head?_cons])⟩

/-- Every line stands in the text in one piece and holds no line feed. -/
theorem isInfix_of_mem_lines (h : line ∈ lines cs) : line <:+: cs ∧ '\n' ∉ line := by
  fun_induction lines cs generalizing line with
  | case1 => cases h
  | case2 cs ih =>
    rcases List.mem_cons.1 h with rfl | h
    · exact ⟨List.nil_infix, List.not_mem_nil⟩
    · exact ⟨List.infix_cons (ih h).1, (ih h).2⟩
  | case3 cs ih =>
    rcases List.mem_cons.1 h with rfl | h
    · exact ⟨List.nil_infix, List.not_mem_nil⟩
    · exact ⟨List.infix_cons (List.infix_cons (ih h).1), (ih h).2⟩
  | case4 c cs hnewline _ ih =>
    have hc : '\n' ≠ c := fun hc => hnewline hc.symm
    rcases mem_pushFront h with h | ⟨first, rfl, rfl | hfirst⟩
    · exact ⟨List.infix_cons (ih h).1, (ih h).2⟩
    · exact ⟨List.IsPrefix.isInfix ⟨cs, rfl⟩, by simpa using hc⟩
    · have hbegins : c :: first <+: c :: cs :=
        List.cons_prefix_cons.2 ⟨rfl, isPrefix_of_head?_lines hfirst⟩
      exact ⟨hbegins.isInfix, by simpa using ⟨hc, (ih (List.mem_of_mem_head? hfirst)).2⟩⟩

end IdentityDocs.Text
