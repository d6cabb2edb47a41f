import IdentityDocs.Image.Processed
import IdentityDocs.Proofs.Files.Place

/-!
# Where a processed copy lies

The path of a processed copy is that of the image with an ending, so it never means a directory, and
never the image itself. `Copier.copyPlace?` is the location at which making the copy touches a file:
there is one if the image can be processed and no directory stands in the way. Whatever goes wrong
when the copy is written, nothing else is touched (`Copier.write_cases`).
-/

namespace IdentityDocs

open FileSystem (SameTree)

namespace Path

/-- The bytes that the path of a processed copy ends in. -/
def suffixBytes : List UInt8 := Text.encode processedSuffix

theorem bytes_processed (p : Path) : p.processed.bytes = p.bytes ++ suffixBytes := rfl

theorem length_append_suffixBytes (last : FileName) :
    (last ++ suffixBytes).length = last.length + 14 := by
  rw [List.length_append, show suffixBytes.length = 14 by decide]

theorem slash_notMem_suffixBytes : slash ∉ suffixBytes := by decide

/-- A processed copy has for its name the last name of the image, which may be missing, with the
ending. -/
theorem exists_names_processed (p : Path) : ∃ front last,
    (p.names = front ∨ p.names = front ++ [last]) ∧
      p.processed.names = front ++ [last ++ suffixBytes] := by
  obtain ⟨front, last, hp, hprocessed⟩ := exists_splitAtAll_append slash p.bytes
  have hgood : last ++ suffixBytes ≠ [] ∧ last ++ suffixBytes ≠ [dot] := by
    have hlength := length_append_suffixBytes last
    constructor <;> intro h <;> simp [h] at hlength
  refine ⟨front.filter fun name => name ≠ [] ∧ name ≠ [dot], last, ?_, ?_⟩
  · simp only [names, hp, List.filter_append]
    by_cases hlast : last ≠ [] ∧ last ≠ [dot]
    · exact .inr (by rw [List.filter_cons_of_pos (by simpa using hlast), List.filter_nil])
    · exact .inl (by
        rw [List.filter_cons_of_neg (by simpa using hlast), List.filter_nil, List.append_nil])
  · simp only [names, bytes_processed, hprocessed _ slash_notMem_suffixBytes, List.filter_append]
    rw [List.filter_cons_of_pos (by exact decide_eq_true hgood), List.filter_nil]

/-- A processed copy is no directory. -/
theorem endsAsDirectory_processed (p : Path) : p.processed.endsAsDirectory = false := by
  obtain ⟨front, last, -, hprocessed⟩ := exists_splitAtAll_append slash p.bytes
  have hlength := length_append_suffixBytes last
  have hdot : last ++ suffixBytes ≠ [dot] := by
    intro h
    simp [h] at hlength
  have hslash : (p.bytes ++ suffixBytes).getLast? = some 103 := by
    rw [List.getLast?_append, show suffixBytes.getLast? = some 103 by decide]
    rfl
  simp only [endsAsDirectory, endsInDot, endsInSlash, bytes_processed,
    hprocessed _ slash_notMem_suffixBytes, hslash, List.getLast?_append]
  simp [hdot, slash]

end Path

namespace FileSystem

variable {fs fs' : FileSystem} {image : Path} {loc place : Location}

/-- A processed copy never lies where its image lies. -/
theorem locate_processed_ne (h : fs.locate image = .ok loc)
    (hcopy : fs.locate image.processed = .ok place) : place ≠ loc := by
  obtain ⟨hne, hwalk⟩ := walk_of_locate h
  obtain ⟨-, hwalkCopy⟩ := walk_of_locate hcopy
  have habsolute : image.processed.isAbsolute = image.isAbsolute := by
    simp only [Path.isAbsolute, Path.bytes_processed]
    cases hbytes : image.bytes with
    | nil => simp [Path.isEmpty, hbytes] at hne
    | cons b bytes => rfl
  obtain ⟨front, last, hnames, hnamesCopy⟩ := Path.exists_names_processed image
  rw [hnamesCopy, habsolute, walk_append] at hwalkCopy
  obtain ⟨mid, hmid, hplace⟩ := hwalkCopy
  have hlength := Path.length_append_suffixBytes last
  have hparent : last ++ Path.suffixBytes ≠ Path.parentName := by
    intro heq
    rw [heq, show Path.parentName.length = 2 by decide] at hlength
    omega
  have hplace : place = mid ++ [last ++ Path.suffixBytes] := by
    rw [walk_singleton hplace, if_neg hparent]
  rcases hnames with hnames | hnames
  · have hloc : loc = mid := by
      rw [hnames, hmid] at hwalk
      exact (Except.ok.inj hwalk).symm
    intro heq
    have := congrArg List.length (hplace.symm.trans (heq.trans hloc))
    simp at this
  · rw [hnames, walk_append] at hwalk
    obtain ⟨mid', hmid', hloc⟩ := hwalk
    obtain rfl : mid = mid' := Except.ok.inj (hmid.symm.trans hmid')
    intro heq
    have hloc := walk_singleton hloc
    rw [← heq, hplace] at hloc
    by_cases hup : last = Path.parentName
    · rw [if_pos hup] at hloc
      have := congrArg List.length hloc
      simp only [List.length_append, List.length_singleton, List.length_dropLast] at this
      omega
    · rw [if_neg hup] at hloc
      have hsame : last ++ Path.suffixBytes = last := by simpa using hloc
      rw [hsame] at hlength
      omega

end FileSystem

namespace Copier

variable {c : Copier} {files files' written : FileSystem} {image path : Path} {place : Location}
  {bytes : List UInt8} {fault : Option FileError}

/-! ## Making the copy -/

/-- What is processed can be read. -/
theorem exists_read_of_process {copy : List UInt8} (h : c.process files image = .ok copy) :
    ∃ bytes, files.read image = .ok bytes := by
  cases hread : files.read image with
  | ok bytes => exact ⟨bytes, rfl⟩
  | error e => simp [process, hread] at h

/-- What processing an image gives follows from what can be read of it. -/
theorem process_congr (h : files'.read image = files.read image) :
    c.process files' image = c.process files image := by
  simp only [process, h]

/-- A copy was written if nothing went wrong, and the whole of it. -/
theorem write_eq_none (h : c.write files path bytes = (written, none)) :
    c.fault path = none ∧ files.write path bytes = .ok written := by
  unfold write at h
  split at h
  · rename_i hfault
    refine ⟨hfault, ?_⟩
    cases hwrite : files.write path bytes with
    | ok files' =>
      obtain rfl : files' = written := by simpa [hwrite] using h
      rfl
    | error e => simp [hwrite] at h
  · simp at h
  · split at h <;> simp at h

/-- Whatever goes wrong, a file is written to the path, or everything stays as it is. -/
theorem write_cases (h : c.write files path bytes = (written, fault)) :
    (written = files ∧ fault ≠ none) ∨ ∃ begun, files.write path begun = .ok written := by
  unfold write at h
  split at h
  · cases hwrite : files.write path bytes with
    | ok files' =>
      obtain ⟨rfl, -⟩ : files' = written ∧ none = fault := by simpa [hwrite] using h
      exact .inr ⟨bytes, hwrite⟩
    | error e =>
      obtain ⟨rfl, rfl⟩ : files = written ∧ some e = fault := by simpa [hwrite] using h
      exact .inl ⟨rfl, nofun⟩
  · obtain ⟨rfl, rfl⟩ := Prod.mk.inj h
    exact .inl ⟨rfl, nofun⟩
  · rename_i count cause _
    cases hwrite : files.write path (bytes.take count) with
    | ok files' =>
      obtain ⟨rfl, -⟩ : files' = written ∧ some cause = fault := by simpa [hwrite] using h
      exact .inr ⟨bytes.take count, hwrite⟩
    | error e =>
      obtain ⟨rfl, rfl⟩ : files = written ∧ some e = fault := by simpa [hwrite] using h
      exact .inl ⟨rfl, nofun⟩

/-! ## Where the copy is put -/

/-- The location at which making the copy of an image touches a file, if it comes to that. -/
def copyPlace? (c : Copier) (files : FileSystem) (image : Path) : Option Location :=
  match c.process files image, files.locate image.processed with
  | .ok _, .ok loc => if files.get? loc = some .directory then none else some loc
  | _, _ => none

theorem copyPlace?_eq_some : c.copyPlace? files image = some place ↔
    (∃ copy, c.process files image = .ok copy) ∧ files.locate image.processed = .ok place ∧
      files.get? place ≠ some .directory := by
  unfold copyPlace?
  cases c.process files image with
  | error e => simp
  | ok copy =>
    cases hloc : files.locate image.processed with
    | error e => simp
    | ok loc =>
      by_cases hdir : files.get? loc = some .directory
      · simp only [if_pos hdir, Except.ok.injEq]
        constructor
        · exact fun h => by cases h
        · rintro ⟨-, rfl, hnot⟩
          exact absurd hdir hnot
      · simp only [if_neg hdir, Option.some.injEq, Except.ok.injEq]
        constructor
        · rintro rfl
          exact ⟨⟨copy, rfl⟩, rfl, hdir⟩
        · exact fun h => h.2.1

/-- Where the copy of an image is put does not depend on other files. -/
theorem copyPlace?_congr (htree : SameTree files files')
    (hread : files'.read image = files.read image) :
    c.copyPlace? files' image = c.copyPlace? files image := by
  apply Option.ext
  intro place
  rw [copyPlace?_eq_some, copyPlace?_eq_some, process_congr hread, htree.locate_iff,
    Ne, Ne, htree.directory]

end Copier

end IdentityDocs
