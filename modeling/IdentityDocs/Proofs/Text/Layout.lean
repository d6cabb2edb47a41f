import IdentityDocs.Proofs.Text.Pieces

/-!
# How a text is laid out

A text is a row of segments with a line end after each but the last, and a segment is a core with
blanks around it. Neither is unique: the carriage return in front of a line feed is part of the line
end or a blank at the end of the segment, and a blank at the end of a core may as well stand around
it. Trimming makes up for both. However a text is cut into segments, the trimmed segments are the
same, empty ones aside (`filter_map_trim_lines`), and the trimmed text is the only core without
blanks at its ends (`trim_eq_iff`).
-/

namespace IdentityDocs.Text

variable {cs core text segment rest : List Char} {segments : List (List Char)}

/-! ## Blanks around a core -/

/-- The text is the core with blanks around it. -/
def Padded (core text : List Char) : Prop :=
  ∃ before behind, text = before ++ (core ++ behind) ∧ (∀ c ∈ before, isBlank c = true) ∧
    ∀ c ∈ behind, isBlank c = true

theorem Padded.trim_eq (h : Padded core text) : trim text = trim core := by
  obtain ⟨before, behind, rfl, hbefore, hbehind⟩ := h
  exact trim_surrounded hbefore hbehind

theorem padded_trim (text : List Char) : Padded (trim text) text := by
  have hstart : text = text.takeWhile isBlank ++ trimStart text :=
    List.takeWhile_append_dropWhile.symm
  have hend : trimStart text =
      trim text ++ ((trimStart text).reverse.takeWhile isBlank).reverse := by
    rw [trim, trimEnd, ← List.reverse_append, List.takeWhile_append_dropWhile, List.reverse_reverse]
  refine ⟨text.takeWhile isBlank, _, by rw [← hend, ← hstart], ?_, ?_⟩
  · intro c hc
    exact List.mem_takeWhile_imp hc
  · intro c hc
    exact List.mem_takeWhile_imp (List.mem_reverse.1 hc)

theorem dropWhile_isBlank_eq_self (h : ∀ c ∈ cs.head?, isBlank c = false) :
    cs.dropWhile isBlank = cs := by
  cases cs with
  | nil => rfl
  | cons c cs => rw [List.dropWhile_cons_of_neg (by simp [h c rfl])]

theorem Trimmed.trim_eq (h : Trimmed core) : trim core = core := by
  have hstart : trimStart core = core := dropWhile_isBlank_eq_self h.head
  have hend : core.reverse.dropWhile isBlank = core.reverse := by
    refine dropWhile_isBlank_eq_self ?_
    rw [List.head?_reverse]
    exact h.last
  rw [trim, hstart, trimEnd, hend, List.reverse_reverse]

/-- The trimmed text is the one core that has no blanks at its ends. -/
theorem trim_eq_iff : trim text = core ↔ Padded core text ∧ Trimmed core := by
  constructor
  · rintro rfl
    exact ⟨padded_trim text, trimmed_trim text⟩
  · rintro ⟨hpadded, htrimmed⟩
    rw [hpadded.trim_eq, htrimmed.trim_eq]

/-! ## Line ends between segments -/

/-- The text is the segments, with a line feed, or a carriage return and a line feed, after each but
the last. No segment holds a line feed. -/
inductive Segmented : List Char → List (List Char) → Prop
  | last {segment : List Char} : '\n' ∉ segment → Segmented segment [segment]
  | feed {segment rest : List Char} {segments : List (List Char)} : '\n' ∉ segment →
    Segmented rest segments → Segmented (segment ++ '\n' :: rest) (segment :: segments)
  | returnFeed {segment rest : List Char} {segments : List (List Char)} : '\n' ∉ segment →
    Segmented rest segments → Segmented (segment ++ '\r' :: '\n' :: rest) (segment :: segments)

theorem Segmented.cons {c : Char} (hc : c ≠ '\n') (h : Segmented text segments) :
    ∃ segments', Segmented (c :: text) segments' := by
  have hmem {segment : List Char} (hsegment : '\n' ∉ segment) : '\n' ∉ c :: segment := by
    simp [hc.symm, hsegment]
  cases h with
  | last hsegment => exact ⟨_, .last (hmem hsegment)⟩
  | feed hsegment hrest => exact ⟨_, .feed (hmem hsegment) hrest⟩
  | returnFeed hsegment hrest => exact ⟨_, .returnFeed (hmem hsegment) hrest⟩

/-- Every text can be cut into segments. -/
theorem exists_segmented (text : List Char) : ∃ segments, Segmented text segments := by
  induction text with
  | nil => exact ⟨[[]], .last List.not_mem_nil⟩
  | cons c text ih =>
    obtain ⟨segments, hsegments⟩ := ih
    by_cases hc : c = '\n'
    · subst hc
      exact ⟨[] :: segments, .feed List.not_mem_nil hsegments⟩
    · exact hsegments.cons hc

theorem segmented_intercalate (hne : segments ≠ [])
    (hsegments : ∀ segment ∈ segments, '\n' ∉ segment) :
    Segmented (['\n'].intercalate segments) segments := by
  induction segments with
  | nil => exact absurd rfl hne
  | cons segment segments ih =>
    have hsegment := hsegments segment List.mem_cons_self
    cases segments with
    | nil =>
      rw [List.intercalate_singleton]
      exact .last hsegment
    | cons next others =>
      have hothers := ih (List.cons_ne_nil _ _) fun s hs => hsegments s (List.mem_cons_of_mem _ hs)
      rw [List.intercalate_cons_cons, List.append_assoc, List.singleton_append]
      exact .feed hsegment hothers

/-! ## The lines of a text -/

theorem lines_cons {c : Char} (hc : c ≠ '\n') (hreturn : c = '\r' → cs.head? ≠ some '\n') :
    lines (c :: cs) = pushFront c (lines cs) := by
  rw [lines]
  · exact hc
  · rintro rest rfl rfl
    exact hreturn rfl rfl

/-- Without a line feed a text is one line, or none if it is empty. -/
theorem lines_of_notMem (h : '\n' ∉ cs) : lines cs = if cs = [] then [] else [cs] := by
  induction cs with
  | nil => rfl
  | cons c cs ih =>
    obtain ⟨hc, hcs⟩ := List.ne_and_not_mem_of_not_mem_cons h
    have hhead : cs.head? ≠ some '\n' := fun hhead => hcs (List.mem_of_mem_head? hhead)
    rw [lines_cons (Ne.symm hc) fun _ => hhead, ih hcs]
    cases cs with
    | nil => rfl
    | cons d cs => rfl

/-- A segment with a line feed behind it is a line, but for a carriage return at its end. -/
theorem exists_lines_append (hsegment : '\n' ∉ segment) (rest : List Char) :
    ∃ line, lines (segment ++ '\n' :: rest) = line :: lines rest ∧
      (segment = line ∨ segment = line ++ ['\r']) := by
  induction segment with
  | nil => exact ⟨[], by rw [List.nil_append, lines], .inl rfl⟩
  | cons c segment ih =>
    obtain ⟨hc, hmem⟩ := List.ne_and_not_mem_of_not_mem_cons hsegment
    by_cases hreturn : c = '\r' ∧ segment = []
    · obtain ⟨rfl, rfl⟩ := hreturn
      exact ⟨[], by rw [List.singleton_append, lines], .inr rfl⟩
    · have hhead : c = '\r' → (segment ++ '\n' :: rest).head? ≠ some '\n' := by
        rintro rfl hhead
        cases segment with
        | nil => exact hreturn ⟨rfl, rfl⟩
        | cons d segment =>
          obtain rfl : d = '\n' := by simpa using hhead
          exact hmem List.mem_cons_self
      obtain ⟨line, hlines, hline⟩ := ih hmem
      refine ⟨c :: line, ?_, ?_⟩
      · rw [List.cons_append, lines_cons (Ne.symm hc) hhead, hlines, pushFront]
      · rcases hline with rfl | rfl
        · exact .inl rfl
        · exact .inr rfl

theorem trim_append_return (cs : List Char) : trim (cs ++ ['\r']) = trim cs := by
  have hreturn : isBlank '\r' = true := by decide
  exact Padded.trim_eq
    ⟨[], ['\r'], rfl, List.forall_mem_nil _, List.forall_mem_singleton.2 hreturn⟩

theorem exists_lines_append_trim (hsegment : '\n' ∉ segment) (rest : List Char) :
    ∃ line, lines (segment ++ '\n' :: rest) = line :: lines rest ∧ trim line = trim segment := by
  obtain ⟨line, hlines, rfl | rfl⟩ := exists_lines_append hsegment rest
  · exact ⟨segment, hlines, rfl⟩
  · exact ⟨line, hlines, (trim_append_return line).symm⟩

/-- Trimmed, and the empty ones left out, the lines are the segments, however the text is cut. -/
theorem filter_map_trim_lines {keep : List Char → Bool} (hkeep : keep [] = false)
    (h : Segmented text segments) :
    ((lines text).map trim).filter keep = (segments.map trim).filter keep := by
  induction h with
  | @last segment hsegment =>
    rw [lines_of_notMem hsegment]
    by_cases hempty : segment = []
    · have htrim : trim [] = [] := rfl
      simp [hempty, htrim, hkeep]
    · rw [if_neg hempty]
  | @feed segment rest segments hsegment _ ih =>
    obtain ⟨line, hlines, hline⟩ := exists_lines_append_trim hsegment rest
    rw [hlines, List.map_cons, List.map_cons, List.filter_cons, List.filter_cons, hline, ih]
  | @returnFeed segment rest segments hsegment _ ih =>
    -- with the carriage return counted as part of the segment this is the case before
    have hreturn : '\n' ∉ segment ++ ['\r'] := by simp [hsegment]
    obtain ⟨line, hlines, hline⟩ := exists_lines_append_trim hreturn rest
    rw [List.append_assoc, List.singleton_append] at hlines
    rw [trim_append_return] at hline
    rw [hlines, List.map_cons, List.map_cons, List.filter_cons, List.filter_cons, hline, ih]

end IdentityDocs.Text
