import IdentityDocs.Pipeline.Stage
import IdentityDocs.Proofs.Image.Copy

/-!
# What an analysis does to the files

An analysis with a recognizer that only reads touches one location at most: the one at which its
processed copy lies. Which one that is, and whether there is one, is settled by the files from which
the analysis started, as long as nobody changes a directory or the image: the invariant is
`Stage.Fits`.
-/

namespace IdentityDocs

open FileSystem (Touched SameTree)

/-- The recognizer leaves the files as they are. -/
def Recognizer.Reads (r : Recognizer) : Prop :=
  ∀ files path language, r.leaves files path language = files

namespace FileSystem

variable {fs : FileSystem} {p : Path} {loc : Location}

theorem discard_of_locate (h : fs.locate p = .ok loc) (hend : p.endsAsDirectory = false) :
    fs.discard p = match fs.get? loc with
      | some (.file ..) => fs.erase loc
      | _ => fs := by
  simp only [discard, remove_of_locate h hend]
  cases fs.get? loc with
  | none => rfl
  | some node => cases node <;> rfl

theorem discard_of_not_locate (h : ∀ loc, fs.locate p ≠ .ok loc) : fs.discard p = fs := by
  cases hloc : fs.locate p with
  | ok loc => exact absurd hloc (h loc)
  | error e => simp [discard, remove, find, hloc]

theorem touched_discard (h : fs.locate p = .ok loc) (hend : p.endsAsDirectory = false) :
    Touched loc fs (fs.discard p) := by
  rw [discard_of_locate h hend]
  split
  · rename_i hget
    exact touched_erase (by simp [hget])
  · exact Touched.refl loc fs

end FileSystem

/-- A copy that is written is put where its path leads, and no directory stands there. -/
theorem Copier.touched_of_write {c : Copier} {files written : FileSystem} {path : Path}
    {bytes : List UInt8} {fault : Option FileError} {place : Location}
    (hloc : files.locate path = .ok place) (hend : path.endsAsDirectory = false)
    (h : c.write files path bytes = (written, fault)) : Touched place files written := by
  rcases write_cases h with ⟨rfl, -⟩ | ⟨begun, hwrite⟩
  · exact Touched.refl place _
  · exact FileSystem.touched_write hloc hend hwrite

namespace Pipeline

/-- The location at which the analysis of an image touches a file, if it comes to that. -/
def copyPlace? (p : Pipeline) (files : FileSystem) (image : Path) : Option Location :=
  if p.enhances then p.copier.copyPlace? files image else none

/-- The location at which the recognizer finds the processed copy: one at which a file is touched,
and nothing goes wrong when the copy is written. -/
def readyPlace? (p : Pipeline) (files : FileSystem) (image : Path) : Option Location :=
  match p.copier.fault image.processed with
  | none => p.copyPlace? files image
  | some _ => none

variable {p : Pipeline} {files : FileSystem} {image : Path} {place : Location}

theorem copyPlace?_eq_some : p.copyPlace? files image = some place ↔
    p.enhances = true ∧ p.copier.copyPlace? files image = some place := by
  unfold copyPlace?
  split <;> simp_all

theorem readyPlace?_eq_some : p.readyPlace? files image = some place ↔
    p.copier.fault image.processed = none ∧ p.copyPlace? files image = some place := by
  unfold readyPlace?
  split <;> simp_all

/-- A copy is put where its path leads. -/
theorem locate_of_copyPlace? (h : p.copyPlace? files image = some place) :
    files.locate image.processed = .ok place :=
  (Copier.copyPlace?_eq_some.1 (copyPlace?_eq_some.1 h).2).2.1

/-- Without a copy there is nothing for the recognizer to find. -/
theorem readyPlace?_eq_none (h : ∀ copy, p.enhances = true →
    p.copier.process files image ≠ .ok copy) : p.readyPlace? files image = none := by
  rw [Option.eq_none_iff_forall_ne_some]
  intro place hready
  obtain ⟨henhances, hplace⟩ := copyPlace?_eq_some.1 (readyPlace?_eq_some.1 hready).2
  obtain ⟨⟨copy, hcopy⟩, -⟩ := Copier.copyPlace?_eq_some.1 hplace
  exact h copy henhances hcopy

/-- No directory stands where a copy is put. -/
theorem get?_of_copyPlace? (h : p.copyPlace? files image = some place) :
    files.get? place ≠ some .directory :=
  (Copier.copyPlace?_eq_some.1 (copyPlace?_eq_some.1 h).2).2.2

end Pipeline

/-- The stage is one that an analysis of the image reaches from the given files. -/
def Stage.Fits (p : Pipeline) (base : FileSystem) (image : Path) : Stage → Prop
  | decoded _ => p.enhances = true ∧ ∃ copy, p.copier.process base image = .ok copy
  | unwritten _ => p.enhances = true ∧ (∃ copy, p.copier.process base image = .ok copy) ∧
    p.readyPlace? base image = none
  | ready preparation => preparation = .enhanced ↔ (p.readyPlace? base image).isSome = true
  | answered preparation _ _ => preparation = .enhanced ↔ (p.readyPlace? base image).isSome = true
  | begun | finished .. => True

/-- Whether the analysis has done all that it does to the files. -/
def Stage.isClear : Stage → Bool
  | ready .disabled | ready (.skipped _) | answered .disabled .. | answered (.skipped _) .. => true
  | finished .. => true
  | begun | decoded _ | unwritten _ | ready .enhanced | answered .enhanced .. => false

namespace Pipeline

variable {p : Pipeline} {job : Job} {base files : FileSystem} {stage : Stage}

/-- The analysis touches nothing but the place of the processed copy. -/
def TouchesCopy (p : Pipeline) (base : FileSystem) (image : Path) (files files' : FileSystem) :
    Prop :=
  files' = files ∨ ∃ place, p.copyPlace? base image = some place ∧ Touched place files files'

/-- What can be processed has a place for its copy, if its path leads somewhere and no directory
stands there. -/
theorem copyPlace?_of_process (henhances : p.enhances = true) {copy : List UInt8}
    (hcopy : p.copier.process base job.image = .ok copy) {place : Location}
    (hloc : base.locate job.image.processed = .ok place)
    (hdir : base.get? place ≠ some .directory) : p.copyPlace? base job.image = some place :=
  copyPlace?_eq_some.2 ⟨henhances, Copier.copyPlace?_eq_some.2 ⟨⟨copy, hcopy⟩, hloc, hdir⟩⟩

/-- The first stage is left for one that fits, and nothing is touched. -/
theorem fits_step_begun (hread : files.read job.image = base.read job.image) :
    (p.step job files .begun).2.Fits p base job.image ∧ (p.step job files .begun).1 = files := by
  simp only [step]
  by_cases henhances : p.enhances = true
  · rw [if_pos henhances, Copier.process_congr hread]
    cases hcopy : p.copier.process base job.image with
    | ok copy => exact ⟨⟨henhances, copy, hcopy⟩, rfl⟩
    | error e =>
      have hnone : p.readyPlace? base job.image = none :=
        readyPlace?_eq_none fun copy _ h => by simp [hcopy] at h
      simp [Stage.Fits, hnone]
  · have hnone : p.readyPlace? base job.image = none :=
      readyPlace?_eq_none fun _ h => absurd h henhances
    simp [henhances, Stage.Fits, hnone]

/-- The copy is written to its place, if there is one. -/
theorem fits_step_decoded {copy : List UInt8} (htree : SameTree base files)
    (hfits : (Stage.decoded copy).Fits p base job.image) :
    (p.step job files (.decoded copy)).2.Fits p base job.image ∧
      p.TouchesCopy base job.image files (p.step job files (.decoded copy)).1 := by
  obtain ⟨henhances, processed, hprocessed⟩ := hfits
  have hend := job.image.endsAsDirectory_processed
  -- whatever is written, it is written to the place of the copy
  have hwritten : ∀ {bytes : List UInt8} {written : FileSystem},
      files.write job.image.processed bytes = .ok written →
        ∃ place, p.copyPlace? base job.image = some place ∧ Touched place files written := by
    intro bytes written hwrite
    cases hloc : files.locate job.image.processed with
    | error e => simp [FileSystem.write, hloc] at hwrite
    | ok place =>
      rcases FileSystem.write_cases bytes hloc hend with ⟨-, e, herror⟩ | ⟨hdir, -⟩
      · simp [herror] at hwrite
      · exact ⟨place, copyPlace?_of_process henhances hprocessed (htree.locate_iff.1 hloc)
            fun h => hdir ((htree.directory place).2 h),
          FileSystem.touched_write hloc hend hwrite⟩
  simp only [step]
  generalize hwrite : p.copier.write files job.image.processed copy = outcome
  obtain ⟨written, fault⟩ := outcome
  have htouches : p.TouchesCopy base job.image files written := by
    rcases Copier.write_cases hwrite with ⟨hsame, -⟩ | ⟨begun, hbegun⟩
    · exact .inl hsame
    · exact .inr (hwritten hbegun)
  cases fault with
  | none =>
    obtain ⟨hfault, hwhole⟩ := Copier.write_eq_none hwrite
    obtain ⟨place, hplace, -⟩ := hwritten hwhole
    have hready : p.readyPlace? base job.image = some place :=
      readyPlace?_eq_some.2 ⟨hfault, hplace⟩
    exact ⟨by simp [Stage.Fits, hready], htouches⟩
  | some e =>
    refine ⟨⟨henhances, ⟨processed, hprocessed⟩, ?_⟩, htouches⟩
    rw [Option.eq_none_iff_forall_ne_some]
    intro place hplace
    -- without a fault the copy would have been written
    obtain ⟨hfault, hplace⟩ := readyPlace?_eq_some.1 hplace
    rcases FileSystem.write_cases copy (htree.locate (locate_of_copyPlace? hplace)) hend with
      ⟨hdir, -⟩ | ⟨-, written', hok, -⟩
    · exact get?_of_copyPlace? hplace ((htree.directory place).1 hdir)
    · simp [Copier.write, hfault, hok] at hwrite

/-- What was begun to be written is removed from the place of the copy. -/
theorem touchesCopy_discard (htree : SameTree base files) (henhances : p.enhances = true)
    {copy : List UInt8} (hcopy : p.copier.process base job.image = .ok copy) :
    p.TouchesCopy base job.image files (files.discard job.image.processed) := by
  have hend := job.image.endsAsDirectory_processed
  cases hloc : files.locate job.image.processed with
  | error e => exact .inl (FileSystem.discard_of_not_locate fun loc h => by simp [hloc] at h)
  | ok place =>
    by_cases hdir : base.get? place = some .directory
    · refine .inl ?_
      rw [FileSystem.discard_of_locate hloc hend, (htree.directory place).2 hdir]
    · exact .inr ⟨place, copyPlace?_of_process henhances hcopy (htree.locate_iff.1 hloc) hdir,
        FileSystem.touched_discard hloc hend⟩

/-- A step of an analysis leads to a stage that fits again, and touches nothing but the place of the
processed copy. -/
theorem fits_step (hreads : p.recognizer.Reads) (htree : SameTree base files)
    (hread : files.read job.image = base.read job.image) (hfits : stage.Fits p base job.image) :
    (p.step job files stage).2.Fits p base job.image ∧
      p.TouchesCopy base job.image files (p.step job files stage).1 := by
  cases stage with
  | begun =>
    obtain ⟨hnext, hsame⟩ := fits_step_begun (p := p) hread
    exact ⟨hnext, .inl hsame⟩
  | decoded copy => exact fits_step_decoded htree hfits
  | unwritten cause =>
    obtain ⟨henhances, ⟨copy, hcopy⟩, hnone⟩ := hfits
    exact ⟨by simp [step, Stage.Fits, hnone], touchesCopy_discard htree henhances hcopy⟩
  | ready preparation =>
    simp only [step, inquire, hreads files]
    exact ⟨hfits, .inl rfl⟩
  | answered preparation inquiry answer =>
    cases preparation with
    | enhanced =>
      obtain ⟨place, hplace⟩ := Option.isSome_iff_exists.1 (hfits.1 rfl)
      have hplace := (readyPlace?_eq_some.1 hplace).2
      have hloc := htree.locate (locate_of_copyPlace? hplace)
      exact ⟨trivial, .inr ⟨place, hplace,
        FileSystem.touched_discard hloc job.image.endsAsDirectory_processed⟩⟩
    | disabled | skipped => exact ⟨trivial, .inl rfl⟩
  | finished => exact ⟨trivial, .inl rfl⟩

/-- Where a copy is put nothing is left once it is discarded. -/
theorem get?_discard (htree : SameTree base files) {place : Location}
    (hplace : p.copyPlace? base job.image = some place) :
    (files.discard job.image.processed).get? place = none := by
  have hdir : files.get? place ≠ some .directory :=
    fun h => get?_of_copyPlace? hplace ((htree.directory place).1 h)
  rw [FileSystem.discard_of_locate (htree.locate (locate_of_copyPlace? hplace))
    job.image.endsAsDirectory_processed]
  cases hget : files.get? place with
  | none => simpa using hget
  | some node =>
    cases node with
    | directory => exact absurd hget hdir
    | file bytes kind => exact FileSystem.get?_erase_self (FileSystem.ne_nil_of_get? hdir)

/-- Once an analysis has done all that it does to the files, no copy is there. -/
theorem get?_step_of_isClear (hreads : p.recognizer.Reads) (htree : SameTree base files)
    (hread : files.read job.image = base.read job.image) {place : Location}
    (hplace : p.copyPlace? base job.image = some place)
    (hgone : stage.isClear = true → files.get? place = none)
    (hclear : (p.step job files stage).2.isClear = true) :
    (p.step job files stage).1.get? place = none := by
  cases stage with
  | begun =>
    obtain ⟨henhances, hcopy⟩ := copyPlace?_eq_some.1 hplace
    obtain ⟨⟨copy, hcopy⟩, -⟩ := Copier.copyPlace?_eq_some.1 hcopy
    have hprocess : p.copier.process files job.image = .ok copy := by
      rw [Copier.process_congr hread, hcopy]
    simp [step, henhances, hprocess, Stage.isClear] at hclear
  | decoded copy =>
    simp only [step] at hclear
    split at hclear <;> simp [Stage.isClear] at hclear
  | unwritten cause => exact get?_discard htree hplace
  | ready preparation =>
    simp only [step, inquire, hreads files] at hclear ⊢
    cases preparation with
    | enhanced => simp [Stage.isClear] at hclear
    | disabled | skipped => exact hgone rfl
  | answered preparation inquiry answer =>
    cases preparation with
    | enhanced => exact get?_discard htree hplace
    | disabled | skipped => exact hgone rfl
  | finished => exact hgone rfl

end Pipeline

end IdentityDocs
