import IdentityDocs.Files.FileSystem

/-!
# Changes at one location

Writing and removing a file touch one location and no directory. `FileSystem.Touched` says so of two
file systems. What follows is a frame: elsewhere everything is as it was, and every path means the
location that it meant, as only directories are walked through.
-/

namespace IdentityDocs.FileSystem

variable {fs fs' fs'' : FileSystem} {loc other : Location} {node : Node} {p : Path}

/-! ## Single locations -/

/-- A filter on the locations leaves what stands at those that it keeps. -/
theorem lookup_filter {α : Type} (entries : List (Location × α)) (keep : Location → Bool)
    (loc : Location) :
    (entries.filter fun entry => keep entry.1).lookup loc =
      if keep loc then entries.lookup loc else none := by
  induction entries with
  | nil => simp
  | cons entry entries ih =>
    obtain ⟨key, a⟩ := entry
    by_cases hkeep : keep key = true
    · rw [List.filter_cons_of_pos (by exact hkeep), List.lookup_cons, List.lookup_cons, ih]
      by_cases hloc : loc = key
      · simp [hloc, hkeep]
      · simp [beq_eq_false_iff_ne.2 hloc]
    · rw [List.filter_cons_of_neg (by exact hkeep), ih, List.lookup_cons]
      by_cases hloc : loc = key
      · simp [hloc, hkeep]
      · simp [beq_eq_false_iff_ne.2 hloc]

theorem get?_erase_self (h : loc ≠ []) : (fs.erase loc).get? loc = none := by
  simp only [get?, if_neg h, erase, lookup_filter _ (fun key => decide (key ≠ loc))]
  simp

theorem get?_erase_of_ne (fs : FileSystem) (h : other ≠ loc) :
    (fs.erase loc).get? other = fs.get? other := by
  simp only [get?, erase, lookup_filter _ (fun key => decide (key ≠ loc))]
  simp [h]

theorem get?_put_self (h : loc ≠ []) : (fs.put loc node).get? loc = some node := by
  simp [get?, put, h]

theorem erase_erase (fs : FileSystem) (loc : Location) :
    (fs.erase loc).erase loc = fs.erase loc := by
  simp [erase, List.filter_filter]

theorem erase_put (fs : FileSystem) (loc : Location) (node : Node) :
    (fs.put loc node).erase loc = fs.erase loc := by
  simp [erase, put, List.filter_filter]

/-- What is no directory does not stand at the root. -/
theorem ne_nil_of_get? (h : fs.get? loc ≠ some .directory) : loc ≠ [] := by
  rintro rfl
  exact h rfl

/-! ## The same directories -/

/-- The file systems have the same directories, and the same current one. -/
structure SameTree (fs fs' : FileSystem) : Prop where
  current : fs'.current = fs.current
  directory : ∀ loc, fs'.get? loc = some .directory ↔ fs.get? loc = some .directory

theorem SameTree.refl (fs : FileSystem) : SameTree fs fs := ⟨rfl, fun _ => Iff.rfl⟩

theorem SameTree.symm (h : SameTree fs fs') : SameTree fs' fs :=
  ⟨h.current.symm, fun loc => (h.directory loc).symm⟩

theorem SameTree.trans (h : SameTree fs fs') (h' : SameTree fs' fs'') : SameTree fs fs'' :=
  ⟨h'.current.trans h.current, fun loc => (h'.directory loc).trans (h.directory loc)⟩

theorem SameTree.walk (h : SameTree fs fs') {names : List FileName} {start : Location}
    (hwalk : fs.walk start names = .ok loc) : fs'.walk start names = .ok loc := by
  induction names generalizing start with
  | nil => exact hwalk
  | cons name names ih =>
    unfold FileSystem.walk at hwalk ⊢
    cases hget : fs.get? start with
    | none => simp [hget] at hwalk
    | some node =>
      cases node with
      | file bytes kind => simp [hget] at hwalk
      | directory =>
        simp only [hget, (h.directory start).2 hget] at hwalk ⊢
        by_cases hlong : maxNameLength < name.length
        · simp [hlong] at hwalk
        · rw [if_neg hlong] at hwalk ⊢
          exact ih hwalk

theorem SameTree.locate (h : SameTree fs fs') (hloc : fs.locate p = .ok loc) :
    fs'.locate p = .ok loc := by
  unfold FileSystem.locate at hloc ⊢
  by_cases hnul : 0 ∈ p.bytes
  · simp [hnul] at hloc
  · by_cases hempty : p.isEmpty = true
    · simp [hnul, hempty] at hloc
    · by_cases hlong : maxPathLength < p.bytes.length
      · simp [hnul, hempty, hlong] at hloc
      · simp only [hnul, hempty, hlong, if_false, Bool.false_eq_true, h.current] at hloc ⊢
        exact h.walk hloc

theorem SameTree.locate_iff (h : SameTree fs fs') :
    fs'.locate p = .ok loc ↔ fs.locate p = .ok loc :=
  ⟨h.symm.locate, h.locate⟩

/-! ## Touching one location -/

/-- The file systems differ at most in the file at a location. -/
structure Touched (loc : Location) (fs fs' : FileSystem) : Prop where
  rest : fs'.erase loc = fs.erase loc
  directory : fs'.get? loc = some .directory ↔ fs.get? loc = some .directory

theorem Touched.refl (loc : Location) (fs : FileSystem) : Touched loc fs fs := ⟨rfl, Iff.rfl⟩

theorem Touched.trans (h : Touched loc fs fs') (h' : Touched loc fs' fs'') : Touched loc fs fs'' :=
  ⟨h'.rest.trans h.rest, h'.directory.trans h.directory⟩

theorem Touched.get?_of_ne (h : Touched loc fs fs') (hne : other ≠ loc) :
    fs'.get? other = fs.get? other := by
  rw [← get?_erase_of_ne fs' hne, h.rest, get?_erase_of_ne fs hne]

theorem Touched.sameTree (h : Touched loc fs fs') : SameTree fs fs' := by
  have hcurrent : (fs'.erase loc).current = (fs.erase loc).current := by rw [h.rest]
  refine ⟨hcurrent, fun other => ?_⟩
  by_cases hne : other = loc
  · subst hne
    exact h.directory
  · rw [h.get?_of_ne hne]

theorem touched_put {bytes : List UInt8} {kind : FileKind} (h : fs.get? loc ≠ some .directory) :
    Touched loc fs (fs.put loc (.file bytes kind)) := by
  refine ⟨erase_put .., ?_⟩
  rw [get?_put_self (ne_nil_of_get? h)]
  simp [h]

theorem touched_erase (h : fs.get? loc ≠ some .directory) : Touched loc fs (fs.erase loc) := by
  refine ⟨erase_erase .., ?_⟩
  rw [get?_erase_self (ne_nil_of_get? h)]
  simp [h]

/-! ## Several locations -/

/-- The file system without what stands at any of the locations. -/
def eraseAll (fs : FileSystem) (places : List Location) : FileSystem :=
  { fs with nodes := fs.nodes.filter fun entry => entry.1 ∉ places }

variable {places : List Location}

theorem get?_eraseAll (h : loc ∉ places) : (fs.eraseAll places).get? loc = fs.get? loc := by
  simp only [get?, eraseAll, lookup_filter _ (fun key => decide (key ∉ places))]
  simp [h]

theorem eraseAll_erase (h : loc ∈ places) :
    (fs.erase loc).eraseAll places = fs.eraseAll places := by
  simp only [eraseAll, erase, List.filter_filter]
  congr 1
  apply List.filter_congr
  intro entry _
  by_cases hentry : entry.1 = loc
  · simp [hentry, h]
  · simp [hentry]

theorem Touched.eraseAll (h : Touched loc fs fs') (hloc : loc ∈ places) :
    fs'.eraseAll places = fs.eraseAll places := by
  rw [← eraseAll_erase hloc, h.rest, eraseAll_erase hloc]

/-- Where nothing stands there is nothing to erase. -/
theorem eraseAll_eq_self (h : ∀ loc ∈ places, fs.get? loc = none) : fs.eraseAll places = fs := by
  have hnodes : (fs.nodes.filter fun entry => entry.1 ∉ places) = fs.nodes := by
    refine List.filter_eq_self.2 fun entry hentry => decide_eq_true fun hplace => ?_
    have hnone := h entry.1 hplace
    have hroot : entry.1 ≠ [] := fun hroot => by simp [get?, hroot] at hnone
    simp only [get?, if_neg hroot, List.lookup_eq_none_iff] at hnone
    exact absurd (hnone entry hentry) (by simp)
  rw [eraseAll, hnodes]

/-! ## The operations on files

What they do follows from what stands at the location of the path. -/

theorem read_of_locate (h : fs.locate p = .ok loc) :
    fs.read p = match fs.get? loc with
      | none => .error .notFound
      | some .directory => .error .isADirectory
      | some (.file bytes _) =>
        if p.endsAsDirectory then .error .notADirectory else .ok bytes := by
  simp only [read, find, h]
  cases fs.get? loc with
  | none => rfl
  | some node =>
    cases node with
    | directory => rfl
    | file bytes kind => by_cases hend : p.endsAsDirectory = true <;> simp [hend]

theorem read_congr (h : fs.locate p = .ok loc) (h' : fs'.locate p = .ok loc)
    (hget : fs'.get? loc = fs.get? loc) : fs'.read p = fs.read p := by
  rw [read_of_locate h, read_of_locate h', hget]

/-- A path that can be read has a location, and a file stands there. -/
theorem exists_of_read {bytes : List UInt8} (h : fs.read p = .ok bytes) :
    p.endsAsDirectory = false ∧
      ∃ loc kind, fs.locate p = .ok loc ∧ fs.get? loc = some (.file bytes kind) := by
  cases hloc : fs.locate p with
  | error e => simp [read, find, hloc] at h
  | ok loc =>
    rw [read_of_locate hloc] at h
    cases hget : fs.get? loc with
    | none => simp [hget] at h
    | some node =>
      cases node with
      | directory => simp [hget] at h
      | file content kind =>
        by_cases hend : p.endsAsDirectory = true
        · simp [hget, hend] at h
        · simp only [hget, hend, Bool.false_eq_true, if_false, Except.ok.injEq] at h
          subst h
          exact ⟨by simpa using hend, loc, kind, rfl, hget⟩

theorem write_of_locate {bytes : List UInt8} (h : fs.locate p = .ok loc)
    (hend : p.endsAsDirectory = false) :
    fs.write p bytes = match fs.get? loc with
      | some .directory => .error .isADirectory
      | some (.file _ .void) => .ok fs
      | some (.file _ kind) => .ok (fs.put loc (.file bytes kind.afterWriting))
      | none => .ok (fs.put loc (.file bytes .plain)) := by
  cases hget : fs.get? loc with
  | none => simp only [write, h, hend, hget, Bool.false_eq_true, if_false]
  | some node =>
    cases node with
    | directory => simp only [write, h, hget]
    | file content kind =>
      cases kind <;> simp only [write, h, hend, hget, Bool.false_eq_true, if_false]

theorem remove_of_locate (h : fs.locate p = .ok loc) (hend : p.endsAsDirectory = false) :
    fs.remove p = match fs.get? loc with
      | none => .error .notFound
      | some .directory => .error .isADirectory
      | some (.file ..) => .ok (fs.erase loc) := by
  simp only [remove, find, h, hend, Bool.false_eq_true, if_false]
  cases fs.get? loc with
  | none => rfl
  | some node => cases node <;> rfl

/-- A file can be written if no directory stands in its place; nothing else is touched. -/
theorem write_cases (bytes : List UInt8) (h : fs.locate p = .ok loc)
    (hend : p.endsAsDirectory = false) :
    (fs.get? loc = some .directory ∧ ∃ e, fs.write p bytes = .error e) ∨
      (fs.get? loc ≠ some .directory ∧ ∃ fs', fs.write p bytes = .ok fs' ∧ Touched loc fs fs' ∧
        ∃ content kind, fs'.get? loc = some (.file content kind)) := by
  rw [write_of_locate h hend]
  cases hget : fs.get? loc with
  | none =>
    have hdir : fs.get? loc ≠ some .directory := by simp [hget]
    exact .inr ⟨by simp, _, rfl, touched_put hdir, _, _, get?_put_self (ne_nil_of_get? hdir)⟩
  | some node =>
    cases node with
    | directory => exact .inl ⟨rfl, _, rfl⟩
    | file content kind =>
      have hdir : fs.get? loc ≠ some .directory := by simp [hget]
      by_cases hvoid : kind = .void
      · subst hvoid
        exact .inr ⟨by simp, fs, rfl, Touched.refl loc fs, _, _, hget⟩
      · refine .inr ⟨by simp, fs.put loc (.file bytes kind.afterWriting), ?_, touched_put hdir,
          _, _, get?_put_self (ne_nil_of_get? hdir)⟩
        cases kind <;> first | rfl | exact absurd rfl hvoid

/-- Writing touches nothing but the location of the path. -/
theorem touched_write {bytes : List UInt8} (h : fs.locate p = .ok loc)
    (hend : p.endsAsDirectory = false) (hwrite : fs.write p bytes = .ok fs') :
    Touched loc fs fs' := by
  rcases write_cases bytes h hend with ⟨-, e, herror⟩ | ⟨-, gs, hok, htouched, -⟩
  · rw [herror] at hwrite
    cases hwrite
  · rw [hok, Except.ok.injEq] at hwrite
    exact hwrite ▸ htouched

/-- Writing does the same to file systems in which the same stands at the location. -/
theorem write_agree (bytes : List UInt8) (h : fs.locate p = .ok loc) (h' : fs'.locate p = .ok loc)
    (hend : p.endsAsDirectory = false) (hget : fs.get? loc = fs'.get? loc) :
    (∃ e, fs.write p bytes = .error e ∧ fs'.write p bytes = .error e) ∨
      ∃ gs gs', fs.write p bytes = .ok gs ∧ fs'.write p bytes = .ok gs' ∧
        gs.get? loc = gs'.get? loc := by
  rw [write_of_locate h hend, write_of_locate h' hend, hget]
  cases hnode : fs'.get? loc with
  | none =>
    have hloc : loc ≠ [] := ne_nil_of_get? (by rw [hnode]; simp)
    exact .inr ⟨_, _, rfl, rfl, by rw [get?_put_self hloc, get?_put_self hloc]⟩
  | some node =>
    cases node with
    | directory => exact .inl ⟨_, rfl, rfl⟩
    | file content kind =>
      have hloc : loc ≠ [] := ne_nil_of_get? (by rw [hnode]; simp)
      by_cases hvoid : kind = .void
      · subst hvoid
        exact .inr ⟨fs, fs', rfl, rfl, hget⟩
      · refine .inr ⟨fs.put loc (.file bytes kind.afterWriting),
          fs'.put loc (.file bytes kind.afterWriting), ?_, ?_, ?_⟩
        · cases kind <;> first | rfl | exact absurd rfl hvoid
        · cases kind <;> first | rfl | exact absurd rfl hvoid
        · rw [get?_put_self hloc, get?_put_self hloc]

end IdentityDocs.FileSystem
