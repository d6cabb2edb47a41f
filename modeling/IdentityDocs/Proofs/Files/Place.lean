import IdentityDocs.Proofs.Files.Change

/-!
# Where a path leads

The names of a path are walked one after the other, so a path that ends in the name of a file leads
to a location that ends in that name: files of different names in one directory lie apart.
-/

namespace IdentityDocs

namespace Path

/-- The pieces of a longer list: only the last one grows, if the end does not separate. -/
theorem exists_splitAtAll_append {α : Type} [DecidableEq α] (separator : α) (l : List α) :
    ∃ front last, splitAtAll separator l = front ++ [last] ∧
      ∀ tail, separator ∉ tail → splitAtAll separator (l ++ tail) = front ++ [last ++ tail] := by
  induction l with
  | nil =>
    refine ⟨[], [], rfl, ?_⟩
    intro tail htail
    induction tail with
    | nil => rfl
    | cons a tail ih =>
      rw [List.mem_cons, not_or] at htail
      have hrest : splitAtAll separator tail = [tail] := by simpa using ih htail.2
      simp [splitAtAll, Ne.symm htail.1, hrest]
  | cons a l ih =>
    obtain ⟨front, last, hl, htails⟩ := ih
    by_cases ha : a = separator
    · refine ⟨[] :: front, last, by simp [splitAtAll, ha, hl], fun tail htail => ?_⟩
      simp [splitAtAll, ha, htails tail htail]
    · cases front with
      | nil =>
        refine ⟨[], a :: last, by simp [splitAtAll, ha, hl], fun tail htail => ?_⟩
        simp [splitAtAll, ha, htails tail htail]
      | cons piece front =>
        refine ⟨(a :: piece) :: front, last, by simp [splitAtAll, ha, hl], fun tail htail => ?_⟩
        simp [splitAtAll, ha, htails tail htail]

/-- The pieces on both sides of a separator are pieces of the whole. -/
theorem splitAtAll_append_cons {α : Type} [DecidableEq α] (separator : α) (l tail : List α) :
    splitAtAll separator (l ++ separator :: tail) =
      splitAtAll separator l ++ splitAtAll separator tail := by
  induction l with
  | nil => simp [splitAtAll]
  | cons a l ih =>
    by_cases ha : a = separator
    · simp [splitAtAll, ha, ih]
    · obtain ⟨front, last, hl, -⟩ := exists_splitAtAll_append separator l
      cases front <;> simp [splitAtAll, ha, ih, hl]

theorem splitAtAll_of_notMem {α : Type} [DecidableEq α] {separator : α} {l : List α}
    (h : separator ∉ l) : splitAtAll separator l = [l] := by
  induction l with
  | nil => rfl
  | cons a l ih =>
    rw [List.mem_cons, not_or] at h
    simp [splitAtAll, Ne.symm h.1, ih h.2]

/-- The name of a file: no slash is in it, and it means neither the directory nor the one above. -/
def IsFileName (name : FileName) : Prop :=
  slash ∉ name ∧ name ≠ [] ∧ name ≠ [dot] ∧ name ≠ parentName

instance (name : FileName) : Decidable (IsFileName name) :=
  inferInstanceAs (Decidable (slash ∉ name ∧ name ≠ [] ∧ name ≠ [dot] ∧ name ≠ parentName))

variable {name : FileName}

/-- The path of a file in a directory is some bytes, which may end in a slash, and the name. -/
theorem exists_bytes_join (p : Path) (h : IsFileName name) :
    ∃ front, (p.join ⟨name⟩).bytes = front ++ name ∧
      (front = [] ∨ front.getLast? = some slash) := by
  have habsolute : (⟨name⟩ : Path).isAbsolute = false := by
    cases name with
    | nil => rfl
    | cons b name =>
      have hb : b ≠ slash := by
        rintro rfl
        exact h.1 List.mem_cons_self
      simp [isAbsolute, hb]
  simp only [join, habsolute, Bool.false_eq_true, if_false]
  by_cases hempty : p.isEmpty = true
  · exact ⟨[], by simp [hempty], .inl rfl⟩
  · by_cases hslash : p.endsInSlash = true
    · exact ⟨p.bytes, by simp [hempty, hslash], .inr (by simpa [endsInSlash] using hslash)⟩
    · exact ⟨p.bytes ++ [slash], by simp [hempty, hslash], .inr (by simp)⟩

/-- The pieces of such a path end in the name. -/
theorem exists_splitAtAll_join (p : Path) (h : IsFileName name) :
    ∃ front, splitAtAll slash (p.join ⟨name⟩).bytes = front ++ [name] := by
  obtain ⟨front, hbytes, rfl | hfront⟩ := exists_bytes_join p h
  · exact ⟨[], by rw [hbytes, List.nil_append, splitAtAll_of_notMem h.1]; rfl⟩
  · obtain ⟨directory, rfl⟩ := List.getLast?_eq_some_iff.1 hfront
    refine ⟨splitAtAll slash directory, ?_⟩
    rw [hbytes, List.append_assoc, List.singleton_append, splitAtAll_append_cons,
      splitAtAll_of_notMem h.1]

theorem exists_names_join (p : Path) (h : IsFileName name) :
    ∃ front, (p.join ⟨name⟩).names = front ++ [name] := by
  obtain ⟨front, hpieces⟩ := exists_splitAtAll_join p h
  refine ⟨front.filter fun name => name ≠ [] ∧ name ≠ [dot], ?_⟩
  rw [names, hpieces, List.filter_append,
    List.filter_cons_of_pos (by simpa using And.intro h.2.1 h.2.2.1), List.filter_nil]

end Path

namespace FileSystem

variable {fs : FileSystem} {loc : Location}

theorem walk_append {names more : List FileName} {start : Location} :
    fs.walk start (names ++ more) = .ok loc ↔
      ∃ mid, fs.walk start names = .ok mid ∧ fs.walk mid more = .ok loc := by
  induction names generalizing start with
  | nil => simp [walk]
  | cons name names ih =>
    simp only [List.cons_append, walk]
    cases fs.get? start with
    | none => simp
    | some node =>
      cases node with
      | file bytes kind => simp
      | directory =>
        by_cases hlong : maxNameLength < name.length
        · simp [hlong]
        · simp only [if_neg hlong]
          exact ih

/-- A single name leads to the directory above or to what has that name. -/
theorem walk_singleton {name : FileName} {start : Location}
    (h : fs.walk start [name] = .ok loc) :
    loc = if name = Path.parentName then start.dropLast else start ++ [name] := by
  simp only [walk] at h
  cases hget : fs.get? start with
  | none => simp [hget] at h
  | some node =>
    cases node with
    | file bytes kind => simp [hget] at h
    | directory =>
      by_cases hlong : maxNameLength < name.length
      · simp [hget, hlong] at h
      · simpa [hget, hlong] using h.symm

/-- The location of a path that has one is found by walking through its names. -/
theorem walk_of_locate {p : Path} (h : fs.locate p = .ok loc) :
    p.isEmpty = false ∧
      fs.walk (if p.isAbsolute then [] else fs.current) p.names = .ok loc := by
  unfold locate at h
  by_cases hnul : 0 ∈ p.bytes
  · simp [hnul] at h
  · by_cases hempty : p.isEmpty = true
    · simp [hnul, hempty] at h
    · by_cases hlong : maxPathLength < p.bytes.length
      · simp [hnul, hempty, hlong] at h
      · simp only [hnul, hempty, hlong, if_false, Bool.false_eq_true] at h
        exact ⟨by simpa using hempty, h⟩

/-- A path that ends in the name of a file leads to a location that ends in it. -/
theorem getLast?_of_locate {directory : Path} {name : FileName} (h : Path.IsFileName name)
    (hloc : fs.locate (directory.join ⟨name⟩) = .ok loc) : loc.getLast? = some name := by
  obtain ⟨front, hnames⟩ := Path.exists_names_join directory h
  obtain ⟨-, hwalk⟩ := walk_of_locate hloc
  rw [hnames, walk_append] at hwalk
  obtain ⟨mid, -, hlast⟩ := hwalk
  rw [walk_singleton hlast, if_neg h.2.2.2, List.getLast?_concat]

end FileSystem

end IdentityDocs
