import IdentityDocs.Files.Database
import IdentityDocs.Proofs.Files.Place

/-!
# What a database touches

Opening and saving a database change at most the file of the database and the files beside it, in
which it keeps its changes. `FileSystem.TouchedOnly` says so; a file of another name in the same
directory is found as before. Where a file stands at the path of a database, saving leaves the
content there, and a database that was saved can be opened if its content can be read back.
-/

namespace IdentityDocs

namespace FileSystem

variable {fs fs' fs'' : FileSystem} {loc : Location} {node : Node} {p q : Path}

/-! ## Touching the files at some paths -/

/-- The file systems differ at most in the files at the paths. -/
structure TouchedOnly (paths : List Path) (fs fs' : FileSystem) : Prop where
  tree : SameTree fs fs'
  get? : ∀ loc, (∀ p ∈ paths, fs.locate p ≠ .ok loc) → fs'.get? loc = fs.get? loc

variable {paths more : List Path}

theorem TouchedOnly.refl (paths : List Path) (fs : FileSystem) : TouchedOnly paths fs fs :=
  ⟨.refl fs, fun _ _ => rfl⟩

theorem TouchedOnly.trans (h : TouchedOnly paths fs fs') (h' : TouchedOnly paths fs' fs'') :
    TouchedOnly paths fs fs'' := by
  refine ⟨h.tree.trans h'.tree, fun loc hloc => ?_⟩
  have hloc' : ∀ p ∈ paths, fs'.locate p ≠ .ok loc := fun p hp heq =>
    hloc p hp (h.tree.locate_iff.1 heq)
  rw [h'.get? loc hloc', h.get? loc hloc]

theorem TouchedOnly.mono (h : TouchedOnly paths fs fs') (hsub : paths ⊆ more) :
    TouchedOnly more fs fs' :=
  ⟨h.tree, fun loc hloc => h.get? loc fun p hp => hloc p (hsub hp)⟩

theorem Touched.only (h : Touched loc fs fs') (hloc : fs.locate p = .ok loc) :
    TouchedOnly [p] fs fs' := by
  refine ⟨h.sameTree, fun other hother => h.get?_of_ne ?_⟩
  rintro rfl
  exact hother p List.mem_cons_self hloc

/-- What is found at a path stands at its location. -/
theorem get?_of_find (h : fs.find p = .ok (loc, node)) :
    fs.locate p = .ok loc ∧ fs.get? loc = some node := by
  unfold find at h
  cases hloc : fs.locate p with
  | error e => simp [hloc] at h
  | ok place =>
    cases hget : fs.get? place with
    | none => simp [hloc, hget] at h
    | some found =>
      cases found with
      | directory =>
        obtain ⟨rfl, rfl⟩ : place = loc ∧ Node.directory = node := by simpa [hloc, hget] using h
        exact ⟨rfl, hget⟩
      | file bytes kind =>
        by_cases hend : p.endsAsDirectory = true
        · simp [hloc, hget, hend] at h
        · obtain ⟨rfl, rfl⟩ : place = loc ∧ Node.file bytes kind = node := by
            simpa [hloc, hget, hend] using h
          exact ⟨rfl, hget⟩

theorem find_of_get? {bytes : List UInt8} {kind : FileKind} (hend : p.endsAsDirectory = false)
    (hloc : fs.locate p = .ok loc) (hget : fs.get? loc = some (.file bytes kind)) :
    fs.find p = .ok (loc, .file bytes kind) := by
  simp only [find, hloc, hget, hend, Bool.false_eq_true, if_false]

/-- A file is found at the path. -/
def HasFile (fs : FileSystem) (p : Path) : Prop :=
  ∃ loc bytes kind, fs.find p = .ok (loc, .file bytes kind)

theorem exists_find_of_read {bytes : List UInt8} (h : fs.read p = .ok bytes) :
    ∃ loc kind, fs.find p = .ok (loc, .file bytes kind) := by
  obtain ⟨hend, loc, kind, hloc, hget⟩ := exists_of_read h
  exact ⟨loc, kind, find_of_get? hend hloc hget⟩

theorem read_of_find {bytes : List UInt8} {kind : FileKind}
    (h : fs.find p = .ok (loc, .file bytes kind)) : fs.read p = .ok bytes := by
  simp only [read, h]

/-- Only files can be written, and only those that a path can mean. -/
theorem endsAsDirectory_of_write {bytes : List UInt8} (h : fs.write p bytes = .ok fs') :
    p.endsAsDirectory = false := by
  cases hend : p.endsAsDirectory with
  | false => rfl
  | true =>
    unfold write at h
    cases hloc : fs.locate p with
    | error e => simp [hloc] at h
    | ok loc => simp only [hloc, hend] at h; split at h <;> simp at h

/-- What was written is found at the path, unless a device swallowed it. -/
theorem find_of_write {bytes : List UInt8} (h : fs.write p bytes = .ok fs') :
    (∃ loc content, fs.find p = .ok (loc, .file content .void) ∧ fs' = fs) ∨
      ∃ loc kind, fs.locate p = .ok loc ∧ Touched loc fs fs' ∧
        fs'.find p = .ok (loc, .file bytes kind) := by
  have hend := endsAsDirectory_of_write h
  cases hloc : fs.locate p with
  | error e => simp [write, hloc] at h
  | ok loc =>
    have htouched := touched_write hloc hend h
    have hlocate := htouched.sameTree.locate hloc
    rw [write_of_locate hloc hend] at h
    cases hget : fs.get? loc with
    | none =>
      have hdirectory : fs.get? loc ≠ some .directory := by simp [hget]
      have hroot := ne_nil_of_get? hdirectory
      obtain rfl : fs.put loc (.file bytes .plain) = fs' := by simpa [hget] using h
      exact .inr ⟨loc, _, rfl, htouched, find_of_get? hend hlocate (get?_put_self hroot)⟩
    | some node =>
      cases node with
      | directory => simp [hget] at h
      | file content kind =>
        have hdirectory : fs.get? loc ≠ some .directory := by simp [hget]
        have hroot := ne_nil_of_get? hdirectory
        by_cases hvoid : kind = .void
        · subst hvoid
          obtain rfl : fs = fs' := by simpa [hget] using h
          exact .inl ⟨loc, content, find_of_get? hend hloc hget, rfl⟩
        · obtain rfl : fs.put loc (.file bytes kind.afterWriting) = fs' := by
            cases kind <;> first | exact absurd rfl hvoid | simpa [hget] using h
          exact .inr ⟨loc, _, rfl, htouched, find_of_get? hend hlocate (get?_put_self hroot)⟩

theorem find_congr (h : fs.locate p = .ok loc) (h' : fs'.locate p = .ok loc)
    (hget : fs'.get? loc = fs.get? loc) : fs'.find p = fs.find p := by
  simp only [find, h, h', hget]

theorem touchedOnly_write {bytes : List UInt8} (h : fs.write p bytes = .ok fs') :
    TouchedOnly [p] fs fs' := by
  rcases find_of_write h with ⟨-, -, -, rfl⟩ | ⟨loc, -, hloc, htouched, -⟩
  · exact .refl _ fs'
  · exact htouched.only hloc

/-- What is found elsewhere is still there. -/
theorem TouchedOnly.find (h : TouchedOnly paths fs fs') (hfind : fs.find q = .ok (loc, node))
    (hapart : ∀ p ∈ paths, fs.locate p ≠ .ok loc) : fs'.find q = .ok (loc, node) := by
  obtain ⟨hloc, -⟩ := get?_of_find hfind
  rw [find_congr hloc (h.tree.locate hloc) (h.get? loc hapart), hfind]

/-- A file is still there if the paths are those of files of other names in the same directory. -/
theorem TouchedOnly.find_join {directory : Path} {name : FileName} {names : List FileName}
    (h : TouchedOnly (names.map fun other => directory.join ⟨other⟩) fs fs')
    (hname : Path.IsFileName name) (hnames : ∀ other ∈ names, Path.IsFileName other ∧ other ≠ name)
    (hfind : fs.find (directory.join ⟨name⟩) = .ok (loc, node)) :
    fs'.find (directory.join ⟨name⟩) = .ok (loc, node) := by
  refine h.find hfind fun p hp heq => ?_
  obtain ⟨other, hother, rfl⟩ := List.mem_map.1 hp
  obtain ⟨hfile, hne⟩ := hnames other hother
  have hlast := getLast?_of_locate hfile heq
  rw [getLast?_of_locate hname (get?_of_find hfind).1] at hlast
  exact hne (Option.some.inj hlast).symm

/-! ## Files beside a database -/

/-- A file that can be removed is all that is touched. -/
theorem touchedOnly_remove (fs : FileSystem) (p : Path) :
    TouchedOnly [p] fs (match fs.remove p with | .ok fs' => fs' | .error _ => fs) := by
  unfold remove
  cases hfind : fs.find p with
  | error e => exact .refl _ fs
  | ok found =>
    obtain ⟨loc, node⟩ := found
    obtain ⟨hloc, hget⟩ := get?_of_find hfind
    cases node with
    | directory => exact .refl _ fs
    | file bytes kind => exact (touched_erase (by simp [hget])).only hloc

theorem touchedOnly_clearChanges (fs : FileSystem) (p : Path) :
    TouchedOnly [p.append "-wal", p.append "-shm"] fs (fs.clearChanges p) :=
  ((fs.touchedOnly_remove (p.append "-wal")).mono (by simp)).trans
    ((touchedOnly_remove _ (p.append "-shm")).mono (by simp))

theorem touchedOnly_clearInterrupted (fs : FileSystem) (p : Path) (isNew : Bool) :
    TouchedOnly [p.append "-journal"] fs (fs.clearInterrupted p isNew) := by
  have hremove := fs.touchedOnly_remove (p.append "-journal")
  unfold clearInterrupted
  simp only
  split
  case h_1 bytes _ =>
    split
    · exact hremove
    · exact .refl _ fs
  case h_2 => exact .refl _ fs

end FileSystem

namespace DatabaseForm

open FileSystem

/-- The names of the files beside a database. -/
def besideNames (name : FileName) : List FileName :=
  ["-wal", "-shm", "-journal"].map fun ending => name ++ Text.encode ending

/-- The paths of the files beside a database. -/
def besidePaths (p : Path) : List Path := ["-wal", "-shm", "-journal"].map p.append

theorem besidePaths_join (directory : Path) {name : FileName} (h : name ≠ []) :
    besidePaths (directory.join ⟨name⟩) =
      (besideNames name).map fun other => directory.join ⟨other⟩ := by
  have happend : ∀ ending, (directory.join ⟨name⟩).append ending =
      directory.join ⟨name ++ Text.encode ending⟩ := by
    intro ending
    have habsolute : (⟨name ++ Text.encode ending⟩ : Path).isAbsolute =
        (⟨name⟩ : Path).isAbsolute := by
      cases name with
      | nil => exact absurd rfl h
      | cons b name => rfl
    simp only [Path.join, habsolute]
    split
    · rfl
    · split
      · rfl
      · split <;> simp [Path.append]
  simp [besidePaths, besideNames, happend]

variable {α : Type} {form : DatabaseForm α} {fs fs' : FileSystem} {p : Path} {loc : Location}
  {bytes : List UInt8} {kind : FileKind} {db : α}

theorem touchedOnly_clear (fs : FileSystem) (p : Path) (isNew : Bool) :
    TouchedOnly (besidePaths p) fs ((fs.clearInterrupted p isNew).clearChanges p) :=
  ((touchedOnly_clearInterrupted fs p isNew).mono (by simp [besidePaths])).trans
    ((touchedOnly_clearChanges _ p).mono (by simp [besidePaths]))

theorem touchedOnly_save (form : DatabaseForm α) (fs : FileSystem) (p : Path) (db : α) :
    TouchedOnly [p] fs (form.save fs p db) := by
  unfold save
  split
  case h_1 hfind =>
    obtain ⟨hloc, hget⟩ := get?_of_find hfind
    exact (touched_put (by simp [hget])).only hloc
  case h_2 => exact .refl _ fs

/-- A file at the path of a database holds its content after it has been saved. -/
theorem find_save (form : DatabaseForm α) (db : α) (h : fs.find p = .ok (loc, .file bytes kind)) :
    (form.save fs p db).find p = .ok (loc, .file (form.bytes db) .database) := by
  obtain ⟨hloc, hget⟩ := get?_of_find h
  have hdirectory : fs.get? loc ≠ some .directory := by simp [hget]
  have htouched : Touched loc fs (fs.put loc (.file (form.bytes db) .database)) :=
    touched_put hdirectory
  have hsaved : form.save fs p db = fs.put loc (.file (form.bytes db) .database) := by
    simp only [save, h]
  have hend : p.endsAsDirectory = false := by
    cases hend : p.endsAsDirectory with
    | false => rfl
    | true => simp [find, hloc, hget, hend] at h
  rw [hsaved]
  have hroot := ne_nil_of_get? hdirectory
  exact find_of_get? hend (htouched.sameTree.locate hloc) (get?_put_self hroot)

/-- A database that was saved can be opened if its content can be read back. -/
theorem load_of_find (h : fs.find p = .ok (loc, .file bytes .database))
    (hread : form.ofFile? bytes .database = some db) :
    form.load fs p =
      (form.save ((fs.clearInterrupted p false).clearChanges p) p db, .ok db) := by
  simp [load, h, hread]

/-- What opening a database does: the file is there, or a new one is made; what lies beside it is
cleared away, and the content is saved. -/
theorem load_cases (h : form.load fs p = (fs', .ok db)) :
    ∃ opened isNew, TouchedOnly [p] fs opened ∧ opened.HasFile p ∧
      fs' = form.save ((opened.clearInterrupted p isNew).clearChanges p) p db := by
  unfold load at h
  split at h
  case h_1 loc bytes kind hfind =>
    simp only at h
    split at h
    case h_1 db' hread =>
      obtain ⟨rfl, rfl⟩ : form.save _ _ db' = fs' ∧ db' = db := by simpa using h
      exact ⟨fs, _, .refl _ fs, ⟨loc, bytes, kind, hfind⟩, rfl⟩
    case h_2 => simp at h
  case h_2 hmissing =>
    split at h
    case h_1 opened hwrite =>
      obtain ⟨rfl, rfl⟩ : form.save _ _ form.fresh = fs' ∧ form.fresh = db := by simpa using h
      rcases find_of_write hwrite with ⟨loc, content, hfind, -⟩ | ⟨loc, kind, -, -, hfind⟩
      · rw [hfind] at hmissing
        cases hmissing
      · exact ⟨opened, true, touchedOnly_write hwrite, ⟨loc, [], kind, hfind⟩, rfl⟩
    case h_2 => simp at h
  case h_3 => simp at h

/-- Opening a database touches no files but its own. -/
theorem touchedOnly_load (h : form.load fs p = (fs', .ok db)) :
    TouchedOnly (p :: besidePaths p) fs fs' := by
  obtain ⟨opened, isNew, htouched, -, rfl⟩ := load_cases h
  have hcleared := (touchedOnly_clear opened p isNew).mono (List.subset_cons_self p _)
  have hsaved := touchedOnly_save form ((opened.clearInterrupted p isNew).clearChanges p) p db
  exact ((htouched.mono (by simp)).trans hcleared).trans (hsaved.mono (by simp))

/-! ## Other files in the directory of a database -/

/-- The file has a name of its own, which no file beside the database has. -/
def LiesBeside (file database : Path) : Prop :=
  Path.IsFileName file.bytes ∧
    ∀ other ∈ besideNames database.bytes, Path.IsFileName other ∧ other ≠ file.bytes

instance (file database : Path) : Decidable (LiesBeside file database) :=
  inferInstanceAs (Decidable (_ ∧ _))

/-- The file is neither that of the database nor one beside it. -/
def LiesApart (file database : Path) : Prop :=
  LiesBeside file database ∧ Path.IsFileName database.bytes ∧ database.bytes ≠ file.bytes

instance (file database : Path) : Decidable (LiesApart file database) :=
  inferInstanceAs (Decidable (_ ∧ _))

variable {directory file database : Path} {node : Node}

theorem LiesBeside.find (h : LiesBeside file database) (hdatabase : database.bytes ≠ [])
    (htouched : TouchedOnly (besidePaths (directory.join database)) fs fs')
    (hfind : fs.find (directory.join file) = .ok (loc, node)) :
    fs'.find (directory.join file) = .ok (loc, node) := by
  have hpaths := besidePaths_join directory hdatabase
  rw [show directory.join database = directory.join ⟨database.bytes⟩ from rfl, hpaths] at htouched
  exact htouched.find_join h.1 h.2 hfind

theorem LiesApart.find (h : LiesApart file database)
    (htouched : TouchedOnly (directory.join database :: besidePaths (directory.join database))
      fs fs')
    (hfind : fs.find (directory.join file) = .ok (loc, node)) :
    fs'.find (directory.join file) = .ok (loc, node) := by
  obtain ⟨⟨hfile, hbeside⟩, hdatabase, hne⟩ := h
  have hpaths := besidePaths_join directory hdatabase.2.1
  have hnames : directory.join database :: besidePaths (directory.join database) =
      (database.bytes :: besideNames database.bytes).map fun other => directory.join ⟨other⟩ :=
    congrArg (directory.join database :: ·) hpaths
  rw [hnames] at htouched
  refine htouched.find_join hfile (fun other hother => ?_) hfind
  rcases List.mem_cons.1 hother with rfl | hother
  · exact ⟨hdatabase, hne⟩
  · exact hbeside other hother

theorem LiesApart.find_save (h : LiesApart file database) (form : DatabaseForm α) (db : α)
    (hfind : fs.find (directory.join file) = .ok (loc, node)) :
    (form.save fs (directory.join database) db).find (directory.join file) = .ok (loc, node) :=
  h.find ((touchedOnly_save form fs _ db).mono (by simp)) hfind

theorem LiesApart.find_load (h : LiesApart file database)
    (hload : form.load fs (directory.join database) = (fs', .ok db))
    (hfind : fs.find (directory.join file) = .ok (loc, node)) :
    fs'.find (directory.join file) = .ok (loc, node) :=
  h.find (touchedOnly_load hload) hfind

/-- Writing the file leaves the one of the database as it was. -/
theorem LiesApart.find_write (h : LiesApart file database) {content : List UInt8}
    (hwrite : fs.write (directory.join file) content = .ok fs')
    (hfind : fs.find (directory.join database) = .ok (loc, node)) :
    fs'.find (directory.join database) = .ok (loc, node) := by
  have htouched : TouchedOnly ([file.bytes].map fun other => directory.join ⟨other⟩) fs fs' :=
    touchedOnly_write hwrite
  refine htouched.find_join h.2.1 (fun other hother => ?_) hfind
  obtain rfl := List.mem_singleton.1 hother
  exact ⟨h.1.1, h.2.2.symm⟩

/-- A database that was opened is there. -/
theorem hasFile_of_load (hname : LiesBeside database database)
    (h : form.load fs (directory.join database) = (fs', .ok db)) :
    fs'.HasFile (directory.join database) := by
  obtain ⟨opened, isNew, -, ⟨loc, bytes, kind, hfind⟩, rfl⟩ := load_cases h
  have hcleared := hname.find hname.1.2.1 (touchedOnly_clear opened _ isNew) hfind
  exact ⟨loc, _, _, find_save form db hcleared⟩

end DatabaseForm

end IdentityDocs
