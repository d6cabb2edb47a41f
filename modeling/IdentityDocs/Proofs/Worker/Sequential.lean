import IdentityDocs.Image.PnmCodec
import IdentityDocs.Proofs.Worker.Renumbered
import IdentityDocs.Proofs.Worker.Shadow
import Mathlib.Data.List.Nodup

/-!
# Side by side as one after the other

Separate jobs end in the same world in whatever order their runs take turns: the same table up to
the times of the last changes, the same files, and a log that was extended by the same entries up to
their order and their times. One such order is that in which the worker finishes one run after the
other, so `Worker.same_end_as_drain` says that concurrent runs are equivalent to sequential ones.

The tasks of the runs draw numbers, and a note on a breakdown tells the number of its task. Which
numbers are drawn is left open. With the same numbers both ends are the same; with others they
differ in the notes on breakdowns, by nothing but the number.

The proof goes through the floor on which one run takes turns alone. Every finished order agrees
with it on the job of that run (`Floor.shadow`), so any two agree on all jobs, and what concerns no
job is not changed at all.
-/

namespace IdentityDocs

open FileSystem (SameTree)

/-! ## Runs that are over -/

namespace Run

variable {p : Pipeline} {audited : Bool} {base : FileSystem}

theorem advance_of_finished (p : Pipeline) (audited : Bool) {run : Run} (w : World)
    (h : run.phase = .finished) (n : Nat) : advance p audited n (run, w) = (run, w) := by
  induction n with
  | zero => rfl
  | succ n ih => simpa [advance, step, h] using ih

theorem advance_add (p : Pipeline) (audited : Bool) (m n : Nat) (state : Run × World) :
    advance p audited (m + n) state = advance p audited n (advance p audited m state) := by
  induction m generalizing state with
  | zero => rw [Nat.zero_add]; rfl
  | succ m ih => rw [Nat.succ_add]; exact ih _

/-- Once a run is over, it does not matter how many steps it was taken. -/
theorem advance_eq_of_finished {m n : Nat} {state : Run × World}
    (hm : (advance p audited m state).1.phase = .finished)
    (hn : (advance p audited n state).1.phase = .finished) :
    advance p audited m state = advance p audited n state := by
  rcases Nat.le_total m n with hle | hle
  · obtain ⟨k, rfl⟩ := Nat.exists_eq_add_of_le hle
    rw [advance_add]
    exact (advance_of_finished p audited _ hm k).symm
  · obtain ⟨k, rfl⟩ := Nat.exists_eq_add_of_le hle
    rw [advance_add]
    exact advance_of_finished p audited _ hn k

/-- Whether the run has done all that it does to the files. -/
def isPast (run : Run) : Bool :=
  match run.phase with
  | .queued | .marked => false
  | .analysing _ stage => stage.isClear
  | .concluded .. | .stored .. | .finished => true

/-- No copy of the run is left once it has done all that it does to the files. -/
def Tidy (p : Pipeline) (base : FileSystem) (run : Run) (files : FileSystem) : Prop :=
  run.isPast = true →
    ∀ place, p.copyPlace? base run.job.image = some place → files.get? place = none

theorem Tidy.step {run : Run} {w : World} (hreads : p.recognizer.Reads)
    (htree : SameTree base w.files)
    (hread : w.files.read run.job.image = base.read run.job.image) (h : run.Tidy p base w.files) :
    (run.step p audited w).1.Tidy p base (run.step p audited w).2.files := by
  intro hpast place hplace
  rw [job_step] at hplace
  cases hphase : run.phase with
  | queued | marked => simp [Run.step, hphase, isPast, Stage.isClear] at hpast
  | analysing digest stage =>
    rw [files_step_of_analysing p audited w hphase]
    refine Pipeline.get?_step_of_isClear hreads htree hread hplace
      (fun hclear => h (by simpa [isPast, hphase] using hclear) place hplace) ?_
    cases hconclusion : stage.conclusion? run.job.claimed with
    | some conclusion =>
      cases stage with
      | finished => rfl
      | begun | decoded | unwritten | ready | answered => cases hconclusion
    | none => simpa [Run.step, hphase, hconclusion, isPast] using hpast
  | concluded | stored | finished =>
    rw [files_step_of_ne p audited w (by simp [hphase])]
    exact h (by simp [isPast, hphase]) place hplace

end Run

namespace Floor

section Ends

variable {p : Nat → Pipeline} {audited : Bool} {base : FileSystem} {jobs : List Job} {f : Floor}
  {i : Nat} {job : Job}

/-- A run that takes turns alone tidies up. -/
theorem tidy_replicate (audited : Bool) (hreads : ∀ i, (p i).recognizer.Reads)
    (hsep : Separate base jobs) (h : f.Kept p base jobs)
    (hfresh : ∀ run ∈ f.runs, run.phase = .queued) (n : Nat) :
    ∀ run, (f.afterAll p audited (List.replicate n (.turn i))).runs[i]? = some run →
      run.Tidy (p i) base (f.afterAll p audited (List.replicate n (.turn i))).world.files := by
  induction n with
  | zero =>
    intro run hrun hpast
    have hqueued := hfresh run (List.mem_of_getElem? hrun)
    simp [Run.isPast, hqueued] at hpast
  | succ n ih =>
    intro run hrun
    have hsafe := hsep.sourcesSafe p
    have hkept := h.afterAll audited hreads hsafe hsep.images_located (List.replicate n (.turn i))
    rw [List.replicate_succ', afterAll_append] at hrun ⊢
    simp only [afterAll_cons, afterAll_nil, after] at hrun ⊢
    cases hold : (f.afterAll p audited (List.replicate n (.turn i))).runs[i]? with
    | none =>
      rw [turn_of_none hold, hold] at hrun
      cases hrun
    | some old =>
      rw [getElem?_turn_self p audited hold, Option.some.injEq] at hrun
      rw [← hrun, turn_of_some hold]
      have hread := hkept.read hsafe hsep.images_located
        (List.mem_of_getElem? (hkept.getElem?_jobs hold))
      exact (ih old hold).step (hreads i) hkept.tree hread

/-- Any two orders that finish the runs agree on every job, and no copy is left of it. -/
theorem agree_of_finished (audited : Bool) (hreads : ∀ i, (p i).recognizer.Reads)
    (hlocal : ∀ i, (p i).recognizer.Local) (hsep : Separate base jobs) (h : f.Kept p base jobs)
    (hfresh : ∀ run ∈ f.runs, run.phase = .queued) (hjob : jobs[i]? = some job)
    (places : job.Places base) {order order' : List Nat}
    (hdone : (f.afterAll p audited (order.map .turn)).Finished)
    (hdone' : (f.afterAll p audited (order'.map .turn)).Finished) :
    ∃ w, World.Agree places (f.afterAll p audited (order.map .turn)).world w ∧
      World.Agree places (f.afterAll p audited (order'.map .turn)).world w ∧
      ∀ place, (p i).copyPlace? base job.image = some place → w.files.get? place = none := by
  have halone : ∀ {order : List Nat}, (f.afterAll p audited (order.map .turn)).Finished →
      ∃ n run, World.Agree places (f.afterAll p audited (order.map .turn)).world
          (f.afterAll p audited (List.replicate n (.turn i))).world ∧
        (f.afterAll p audited (List.replicate n (.turn i))).runs[i]? = some run ∧
        run.job = job ∧ run.phase = .finished := by
    intro order hdone
    obtain ⟨hagree, run, run', hrun, hrun', hrunJob, hlike⟩ :=
      shadow audited hreads hlocal hsep h hjob places order
    rw [List.filter_eq, List.map_replicate] at hagree hrun'
    have hphase := hlike.phase
    rw [hdone run (List.mem_of_getElem? hrun)] at hphase
    exact ⟨_, run', hagree, hrun', hlike.job ▸ hrunJob, hphase.eq_finished⟩
  obtain ⟨n, run, hagree, hrun, hrunJob, hphase⟩ := halone hdone
  obtain ⟨n', run', hagree', hrun', -, hphase'⟩ := halone hdone'
  have hsame : (f.afterAll p audited (List.replicate n (.turn i))).world =
      (f.afterAll p audited (List.replicate n' (.turn i))).world := by
    obtain ⟨first, hfirst, -⟩ := h.exists_run hjob
    obtain ⟨hi, -⟩ := List.getElem?_eq_some_iff.1 hfirst
    rw [afterAll_replicate n hfirst, List.getElem?_set_self hi, Option.some.injEq] at hrun
    rw [afterAll_replicate n' hfirst, List.getElem?_set_self hi, Option.some.injEq] at hrun'
    rw [← hrun] at hphase
    rw [← hrun'] at hphase'
    rw [afterAll_replicate n hfirst, afterAll_replicate n' hfirst,
      Run.advance_eq_of_finished hphase hphase']
  refine ⟨_, hagree, hsame ▸ hagree', fun place hplace => ?_⟩
  have htidy := tidy_replicate audited hreads hsep h hfresh n run hrun
  exact htidy (by simp [Run.isPast, hphase]) place (hrunJob ▸ hplace)

/-- What the finished runs leave of the files: all but the copies. -/
theorem files_of_finished (hreads : ∀ i, (p i).recognizer.Reads)
    (hlocal : ∀ i, (p i).recognizer.Local) (hsep : Separate base jobs) (h : f.Kept p base jobs)
    (hfresh : ∀ run ∈ f.runs, run.phase = .queued) {order : List Nat}
    (hdone : (f.afterAll p audited (order.map .turn)).Finished) :
    (f.afterAll p audited (order.map .turn)).world.files = base.eraseAll (places p base jobs) := by
  have hkept := h.afterAll audited hreads (hsep.sourcesSafe p) hsep.images_located
    (order.map .turn)
  rw [← hkept.rest]
  refine (FileSystem.eraseAll_eq_self fun place hplace => ?_).symm
  obtain ⟨i, job, hjob, hcopy⟩ := mem_places.1 hplace
  obtain ⟨others⟩ := hsep.located job (List.mem_of_getElem? hjob)
  obtain ⟨w, hagree, -, hgone⟩ :=
    agree_of_finished audited hreads hlocal hsep h hfresh hjob others hdone hdone
  rw [copyPlace?_eq_copy others hcopy, hagree.files.copy, ← copyPlace?_eq_copy others hcopy]
  exact hgone place hcopy

end Ends

end Floor

/-! ## The same end -/

/-- From a first world two others have come to the same, up to times and the order of entries. -/
structure World.SameEnd (first w w' : World) : Prop where
  table : w.store.table.map (·.map Row.untimed) = w'.store.table.map (·.map Row.untimed)
  files : w.files = w'.files
  log : ∃ new new', w.log.items = first.log.items.map (· ++ new) ∧
    w'.log.items = first.log.items.map (· ++ new') ∧
    (new.map Audit.Item.untimed).Perm (new'.map Audit.Item.untimed)

/-- From a first world two others have come to the same, up to times, the order of entries and the
numbers of tasks, which are taken from one numbering and from the other. -/
structure World.SameEndButNumbers (tickets tickets' : Nat → Nat) (first w w' : World) : Prop where
  table : Option.Rel (List.Forall₂ (Row.SameButNumbers tickets tickets')) w.store.table
    w'.store.table
  files : w.files = w'.files
  log : ∃ new new' order, w.log.items = first.log.items.map (· ++ new) ∧
    w'.log.items = first.log.items.map (· ++ new') ∧
    (new.map Audit.Item.untimed).Perm order ∧
    List.Forall₂ (Audit.Item.SameButNumbers tickets tickets') order new'

/-- Where two worlds came to the same, a third one that differs in the numbers of tasks came to the
same but for these. -/
theorem World.SameEnd.butNumbers {tickets tickets' : Nat → Nat} {first w w' w'' : World}
    (h : SameEnd first w w') (hnumbers : w'.SameButNumbers tickets tickets' w'')
    (hlog : ∃ new, w''.log.items = first.log.items.map (· ++ new)) :
    SameEndButNumbers tickets tickets' first w w'' where
  table := by
    have htable := h.table
    have hnumbers := hnumbers.table
    generalize w.store.table = stored at htable
    generalize w'.store.table = stored' at htable hnumbers
    generalize w''.store.table = stored'' at hnumbers
    cases hnumbers with
    | none =>
      rw [Option.map_none, Option.map_eq_none_iff] at htable
      rw [htable]
      exact .none
    | @some t' t'' ht =>
      obtain ⟨t, rfl, hsame⟩ : ∃ t, stored = some t ∧ t.map Row.untimed = t'.map Row.untimed :=
        Option.map_eq_some_iff.1 htable
      have huntimed := List.forall₂_map_left_iff.2 (ht.imp fun _ _ hrow => hrow.untimed)
      rw [← hsame, List.forall₂_map_left_iff] at huntimed
      exact .some (huntimed.imp fun _ _ hrow => hrow.of_untimed)
  files := h.files.trans hnumbers.files
  log := by
    obtain ⟨new, new', hnew, hnew', hperm⟩ := h.log
    obtain ⟨new'', hnew''⟩ := hlog
    have hitems := hnumbers.log
    rw [hnew', hnew''] at hitems
    cases hfirst : first.log.items with
    | none =>
      rw [hfirst] at hnew hnew''
      exact ⟨[], [], [], hnew, hnew'', .nil, .nil⟩
    | some items =>
      rw [hfirst] at hnew hnew'' hitems
      cases hitems with
      | some hitems =>
        -- the entries from before are on both sides
        have hrest := List.forall₂_drop_append _ _ _ hitems
        rw [List.drop_left] at hrest
        exact ⟨new, new'', new'.map Audit.Item.untimed, hnew, hnew'', hperm,
          List.forall₂_map_left_iff.2 (hrest.imp fun _ _ hitem => hitem.untimed)⟩

/-- Worlds that spare the same documents and show the same on each have the same table. -/
theorem World.Spares.same_table {keys : List String} {first w w' : World}
    (h : Spares keys first w) (h' : Spares keys first w')
    (hrows : ∀ key ∈ keys, w.rowsOn key = w'.rowsOn key) :
    w.store.table.map (·.map Row.untimed) = w'.store.table.map (·.map Row.untimed) := by
  have hids := h.ids.trans h'.ids.symm
  have hall : ∀ key, w.rowsOn key = w'.rowsOn key := by
    intro key
    by_cases hkey : key ∈ keys
    · exact hrows key hkey
    · rw [h.rowsOn hkey, h'.rowsOn hkey]
  refine World.stored_congr hids fun t ht t' ht' hsame => Table.map_untimed_eq hsame fun key => ?_
  have hkey := hall key
  rw [World.rowsOn, World.rowsOn, Option.mem_def.1 ht, Option.mem_def.1 ht'] at hkey
  exact Option.some_inj.1 hkey

/-- Worlds that spare the same documents and show the same entries on each have logs with the same
new entries, up to their order. -/
theorem World.Spares.same_log {keys : List String} {first w w' : World}
    (h : Spares keys first w) (h' : Spares keys first w')
    (hitems : ∀ key ∈ keys, w.itemsOn key = w'.itemsOn key) :
    ∃ new new', w.log.items = first.log.items.map (· ++ new) ∧
      w'.log.items = first.log.items.map (· ++ new') ∧
      (new.map Audit.Item.untimed).Perm (new'.map Audit.Item.untimed) := by
  obtain ⟨new, hnew, hkeys⟩ := h.items
  obtain ⟨new', hnew', hkeys'⟩ := h'.items
  cases hfirst : first.log.items with
  | none =>
    rw [hfirst] at hnew hnew'
    exact ⟨[], [], hnew, hnew', .nil⟩
  | some items =>
    rw [hfirst] at hnew hnew'
    refine ⟨new, new', hnew, hnew', Audit.perm_of_itemsOf fun key => ?_⟩
    rw [Audit.itemsOf_map_untimed, Audit.itemsOf_map_untimed]
    by_cases hkey : key ∈ keys
    · have hsame := hitems key hkey
      simp only [World.itemsOn, hnew, hnew', Option.map_some, Option.some.injEq,
        Audit.itemsOf_append, List.map_append, List.append_cancel_left_eq] at hsame
      exact hsame
    · rw [Audit.itemsOf_eq_nil hkeys hkey, Audit.itemsOf_eq_nil hkeys' hkey]

namespace Floor

variable {worker : Worker} {world : World}

/-- The runs of a worker change only what concerns the documents that it accepted. -/
theorem spares_floor (p : Nat → Pipeline) (worker : Worker) (world : World) (order : List Nat) :
    World.Spares (worker.queue.map fun job => job.documentId.text) world
      ((worker.floor world).afterAll p worker.audited (order.map .turn)).world := by
  have hkeys : ∀ run ∈ (worker.floor world).runs,
      run.job.documentId.text ∈ worker.queue.map fun job => job.documentId.text := by
    intro run hrun
    have hjob : run.job ∈ (worker.floor world).runs.map Run.job := List.mem_map_of_mem hrun
    rw [jobs_floor] at hjob
    exact List.mem_map_of_mem hjob
  exact spares_turns hkeys

/-- All orders that finish separate runs come to the same end. -/
theorem same_end_of_finished {p : Nat → Pipeline} (hreads : ∀ i, (p i).recognizer.Reads)
    (hlocal : ∀ i, (p i).recognizer.Local) (hsep : Separate world.files worker.queue)
    {order order' : List Nat}
    (hdone : ((worker.floor world).afterAll p worker.audited (order.map .turn)).Finished)
    (hdone' : ((worker.floor world).afterAll p worker.audited (order'.map .turn)).Finished) :
    World.SameEnd world
      ((worker.floor world).afterAll p worker.audited (order.map .turn)).world
      ((worker.floor world).afterAll p worker.audited (order'.map .turn)).world := by
  have hkept := kept_floor p worker world
  have hfresh := phase_floor worker world
  let keys := worker.queue.map fun job => job.documentId.text
  have hspares : World.Spares keys world
      ((worker.floor world).afterAll p worker.audited (order.map .turn)).world :=
    spares_floor p worker world order
  have hspares' : World.Spares keys world
      ((worker.floor world).afterAll p worker.audited (order'.map .turn)).world :=
    spares_floor p worker world order'
  have hagree : ∀ key ∈ keys,
      ((worker.floor world).afterAll p worker.audited (order.map .turn)).world.rowsOn key =
        ((worker.floor world).afterAll p worker.audited (order'.map .turn)).world.rowsOn key ∧
      ((worker.floor world).afterAll p worker.audited (order.map .turn)).world.itemsOn key =
        ((worker.floor world).afterAll p worker.audited (order'.map .turn)).world.itemsOn key := by
    intro key hkey
    obtain ⟨job, hjob, rfl⟩ := List.mem_map.1 hkey
    obtain ⟨i, hi⟩ := List.mem_iff_getElem?.1 hjob
    obtain ⟨others⟩ := hsep.located job hjob
    obtain ⟨w, hw, hw', -⟩ :=
      agree_of_finished worker.audited hreads hlocal hsep hkept hfresh hi others hdone hdone'
    exact ⟨hw.rows.trans hw'.rows.symm, hw.items.trans hw'.items.symm⟩
  refine ⟨hspares.same_table hspares' fun key hkey => (hagree key hkey).1, ?_,
    hspares.same_log hspares' fun key hkey => (hagree key hkey).2⟩
  rw [files_of_finished hreads hlocal hsep hkept hfresh hdone,
    files_of_finished hreads hlocal hsep hkept hfresh hdone']

end Floor

/-! ## One after the other -/

/-- The order in which each run from a place on takes all its turns before the next one. -/
def Floor.oneByOne (start count : Nat) : List Nat :=
  (List.range' start count).flatMap fun i => List.replicate Run.stepCount i

/-- Finishing runs one after the other is taking turns one by one. -/
theorem Worker.afterAll_oneByOne (worker : Worker) (rest : List Run) :
    ∀ (done : List Run) (world : World),
      (⟨done ++ rest, world⟩ : Floor).afterAll (fun _ => worker.pipeline) worker.audited
          ((Floor.oneByOne done.length rest.length).map .turn) =
        ⟨done ++ (worker.finishAll rest world).1, (worker.finishAll rest world).2⟩ := by
  induction rest with
  | nil => exact fun done world => rfl
  | cons run rest ih =>
    intro done world
    have hrun : (done ++ run :: rest)[done.length]? = some run := by simp
    have hset : ∀ next : Run, (done ++ run :: rest).set done.length next =
        (done ++ [next]) ++ rest := by
      intro next
      simp
    have hnext := ih (done ++ [(run.finish worker.pipeline worker.audited world).1])
      (run.finish worker.pipeline worker.audited world).2
    rw [List.length_append, List.length_singleton] at hnext
    simp only [Floor.oneByOne] at hnext ⊢
    rw [List.length_cons, List.range'_succ, List.flatMap_cons, List.map_append, List.map_replicate,
      Floor.afterAll_append, Floor.afterAll_replicate _ hrun, hset]
    simp only [finishAll]
    rw [List.append_cons done _ (finishAll _ _ _).1]
    exact hnext

theorem Worker.drain_eq (worker : Worker) (world : World) :
    (worker.floor world).afterAll (fun _ => worker.pipeline) worker.audited
        ((Floor.oneByOne 0 worker.queue.length).map .turn) =
      ⟨(worker.drain world).1, (worker.drain world).2⟩ := by
  have hlength : worker.runs.length = worker.queue.length := by simp [Worker.runs]
  have hall := worker.afterAll_oneByOne worker.runs [] world
  rw [hlength] at hall
  exact hall

/-- Taking turns one by one finishes all runs. -/
theorem Floor.finished_oneByOne (p : Nat → Pipeline) (worker : Worker) (world : World) :
    ((worker.floor world).afterAll p worker.audited
      ((oneByOne 0 worker.queue.length).map .turn)).Finished := by
  refine finished_of_turns p worker world fun i hi => ?_
  have hmem : List.replicate Run.stepCount i ∈
      (List.range' 0 worker.queue.length).map fun i => List.replicate Run.stepCount i :=
    List.mem_map_of_mem (List.mem_range'_1.2 ⟨Nat.zero_le i, by omega⟩)
  have hsublist : ((List.replicate Run.stepCount i).map Event.turn).Sublist
      ((oneByOne 0 worker.queue.length).map .turn) := by
    rw [oneByOne, List.flatMap_def]
    exact (List.sublist_flatten_of_mem hmem).map _
  have hcount : turns i ((List.replicate Run.stepCount i).map Event.turn) = Run.stepCount := by
    rw [List.map_replicate, turns, List.countP_replicate]
    simp [Event.isTurn]
  rw [← hcount]
  exact hsublist.countP_le

/-- The paths of all images and of their processed copies. -/
def Worker.paths (worker : Worker) : List Path :=
  worker.queue.flatMap fun job => [job.image, job.image.processed]

/-- Jobs on different documents are separate if all their paths have locations, and different
ones. -/
theorem Floor.separate_of_nodup {worker : Worker} {files : FileSystem}
    (hids : (worker.queue.map Job.documentId).Nodup)
    (hlocated : ∀ path ∈ worker.paths, ∃ loc, files.locate path = .ok loc)
    (hplaces : (worker.paths.map files.locate).Nodup) : Separate files worker.queue where
  located := by
    intro job hjob
    obtain ⟨source, hsource⟩ :=
      hlocated job.image (List.mem_flatMap.2 ⟨job, hjob, List.mem_cons_self⟩)
    obtain ⟨copy, hcopy⟩ := hlocated job.image.processed
      (List.mem_flatMap.2 ⟨job, hjob, List.mem_cons_of_mem _ List.mem_cons_self⟩)
    exact ⟨⟨source, copy, hsource, hcopy⟩⟩
  keys := by
    intro i j job other hij hi hj htext
    obtain ⟨hlt, -⟩ := List.getElem?_eq_some_iff.1 hi
    have hid : job.documentId = other.documentId := DocumentId.text_injective htext
    refine hij ((List.getElem?_inj (by simpa using hlt) hids).1 ?_)
    rw [List.getElem?_map, List.getElem?_map, hi, hj, Option.map_some, Option.map_some, hid]
  places := by
    intro i j job other hij hi hj places others
    rw [Worker.paths, List.map_flatMap, List.nodup_flatMap, List.pairwise_iff_getElem] at hplaces
    obtain ⟨hi', rfl⟩ := List.getElem?_eq_some_iff.1 hi
    obtain ⟨hj', rfl⟩ := List.getElem?_eq_some_iff.1 hj
    have hne : ∀ path ∈ [worker.queue[i].image, worker.queue[i].image.processed],
        ∀ path' ∈ [worker.queue[j].image, worker.queue[j].image.processed],
          files.locate path ≠ files.locate path' := by
      intro path hpath path' hpath' heq
      rcases Nat.lt_or_gt_of_ne hij with hlt | hlt
      · exact hplaces.2 i j hi' hj' hlt (List.mem_map_of_mem hpath)
          (heq ▸ List.mem_map_of_mem hpath')
      · exact hplaces.2 j i hj' hi' hlt (List.mem_map_of_mem hpath')
          (heq ▸ List.mem_map_of_mem hpath)
    constructor
    · intro heq
      refine hne _ (List.mem_cons_of_mem _ List.mem_cons_self) _ List.mem_cons_self ?_
      rw [places.locate_copy, others.locate_source, heq]
    · intro heq
      refine hne _ (List.mem_cons_of_mem _ List.mem_cons_self) _
        (List.mem_cons_of_mem _ List.mem_cons_self) ?_
      rw [places.locate_copy, others.locate_copy, heq]

namespace Floor

/-- Two images of one pixel. -/
def samplePair : FileSystem where
  nodes := [([Text.encode "a.pgm"], .file (Text.encode "P5 1 1 255\n~") .plain),
    ([Text.encode "b.pgm"], .file (Text.encode "P5 1 1 255\n!") .plain)]
  current := []

/-- A worker that accepted both images, for different documents. Its recognizer breaks down. -/
def samplePairWorker : Worker where
  pipeline := ⟨.always "broken" (.breakdown "boom"), true, Pnm.copier⟩
  audited := true
  tickets := fun i => i + 1
  queue := [{ documentId := Store.sampleId, image := .ofText "a.pgm" },
    { documentId := Store.otherId, image := .ofText "b.pgm" }]

/-- The world of the two images. -/
def samplePairWorld : World := ⟨samplePair, .empty, .empty, ⟨0, 0⟩⟩

/-- The two runs in turn. -/
def sampleOrder : List Nat := (List.replicate Run.stepCount [0, 1]).flatten

-- The numbers are told: if the tasks draw others, other entries are made.
example : (samplePairWorker.drain samplePairWorld).2.log.items ≠
    ({ samplePairWorker with tickets := fun i => i + 7 }.drain samplePairWorld).2.log.items := by
  decide +kernel

end Floor

end IdentityDocs
