import IdentityDocs.Proofs.Pipeline.Lockstep
import IdentityDocs.Proofs.Worker.Effects
import IdentityDocs.Proofs.Worker.Kept
import Mathlib.Data.List.Induction

/-!
# A run among others is as it is alone

What a run does depends on little: the rows of its document, the image and its processed copy. Two
worlds that agree on these, up to the times, are the same to the run (`Run.like_step`), and as long
as jobs are separate no other run changes any of it. So in every order of turns a run gets as far as
it would get if the others never took theirs: `Floor.shadow` compares the floor with the one on
which the turns of all other runs are left out.
-/

namespace IdentityDocs

open FileSystem (Touched SameTree)

/-- The phases are the same up to the inquiry. -/
inductive Phase.Like : Phase → Phase → Prop
  | same (phase : Phase) : Like phase phase
  | analysing (digest : Option String) {stage stage' : Stage} (h : stage.Like stage') :
    Like (.analysing digest stage) (.analysing digest stage')

theorem Phase.Like.eq_finished {phase : Phase} (h : Phase.finished.Like phase) :
    phase = .finished := by
  cases h
  rfl

/-- The runs are the same up to what their recognizers saw. -/
structure Run.Like (run run' : Run) : Prop where
  ticket : run.ticket = run'.ticket
  job : run.job = run'.job
  phase : run.phase.Like run'.phase

theorem Run.Like.refl (run : Run) : run.Like run := ⟨rfl, rfl, .same _⟩

namespace World

/-- What follows from one part of what is stored is the same where that part is. -/
theorem stored_congr {α β γ : Type} {part part' : α → β} {result result' : α → γ}
    {stored stored' : Option α} (h : stored.map part = stored'.map part')
    (hresult : ∀ a ∈ stored, ∀ a' ∈ stored', part a = part' a' → result a = result' a') :
    stored.map result = stored'.map result' := by
  cases stored with
  | none =>
    cases stored' with
    | none => simp only [Option.map_none]
    | some a' => cases h
  | some a =>
    cases stored' with
    | none => cases h
    | some a' =>
      rw [Option.map_some, Option.map_some,
        hresult a rfl a' rfl (by simpa only [Option.map_some, Option.some.injEq] using h)]

/-- The rows of a document without their times. -/
def rowsOn (w : World) (key : String) : Option (List Row) :=
  w.store.table.map fun t => (t.rowsOf key).map Row.untimed

/-- The entries on a document without their times. -/
def itemsOn (w : World) (key : String) : Option (List Audit.Item) :=
  w.log.items.map fun items => (Audit.itemsOf items key).map Audit.Item.untimed

/-- The worlds agree on all that concerns a job. -/
structure Agree {base : FileSystem} {job : Job} (places : job.Places base) (w w' : World) :
    Prop where
  files : places.Agree w.files w'.files
  rows : w.rowsOn job.documentId.text = w'.rowsOn job.documentId.text
  items : w.itemsOn job.documentId.text = w'.itemsOn job.documentId.text

/-- Changes that concern other documents are not seen. -/
theorem Spares.rowsOn {keys : List String} {w w' : World} (h : Spares keys w w') {key : String}
    (hkey : key ∉ keys) : w'.rowsOn key = w.rowsOn key := by
  have hrows := congrArg (Option.map (List.map Row.untimed)) (h.rows key hkey)
  rwa [Option.map_map, Option.map_map] at hrows

theorem Spares.itemsOn {keys : List String} {w w' : World} (h : Spares keys w w') {key : String}
    (hkey : key ∉ keys) : w'.itemsOn key = w.itemsOn key := by
  obtain ⟨new, hitems, hnew⟩ := h.items
  have hnone := Audit.itemsOf_eq_nil hnew hkey
  simp only [World.itemsOn, hitems, Option.map_map]
  congr 1
  funext items
  simp [Audit.itemsOf_append, hnone]

end World

/-! ## One run in two worlds -/

namespace Run

variable {p : Pipeline} {audited : Bool} {base : FileSystem} {run run' : Run} {w w' : World}

/-- Runs that are alike do the same to rows that differ in their times only. -/
theorem Like.untimed_rowChange (h : run.Like run') (now now' : Instant) {row row' : Row}
    (hrow : row.untimed = row'.untimed) :
    (run.rowChange now row).untimed = (run'.rowChange now' row').untimed := by
  obtain ⟨ticket, job, phase, inquiry⟩ := run
  obtain ⟨ticket', job', phase', inquiry'⟩ := run'
  obtain ⟨rfl, rfl, hphase⟩ := h
  cases hphase with
  | analysing digest h => exact hrow
  | same =>
    cases phase with
    | queued => exact Row.untimed_marked hrow now now'
    | concluded digest result =>
      simp only [rowChange]
      split
      · exact hrow
      · exact Row.untimed_analysed hrow result now now'
    | marked | analysing | stored | finished => exact hrow

/-- Runs that are alike enter the same in the log, but for the time. -/
theorem Like.untimed_entries (h : run.Like run') (audited : Bool) (now now' : Instant) :
    (run.entries audited now).map Audit.Item.untimed =
      (run'.entries audited now').map Audit.Item.untimed := by
  obtain ⟨ticket, job, phase, inquiry⟩ := run
  obtain ⟨ticket', job', phase', inquiry'⟩ := run'
  obtain ⟨rfl, rfl, hphase⟩ := h
  cases hphase with
  | analysing digest h => rfl
  | same =>
    cases phase with
    | stored digest result =>
      simp only [entries]
      split
      · simp only [List.map_cons, List.map_nil, Audit.Item.untimed]
      · rfl
    | queued | marked | analysing | concluded | finished => rfl

theorem Like.rowsOn_step (p : Pipeline) (audited : Bool) (h : run.Like run')
    (hrows : w.rowsOn run.job.documentId.text = w'.rowsOn run.job.documentId.text) :
    (run.step p audited w).2.rowsOn run.job.documentId.text =
      (run'.step p audited w').2.rowsOn run.job.documentId.text := by
  simp only [World.rowsOn, table_step, ← h.job, Option.map_map] at hrows ⊢
  have hchange : ∀ (run : Run) (now : Instant) (t : Table) (key : String),
      (t.onDocument key (run.rowChange now)).rowsOf key =
        (t.rowsOf key).map (run.rowChange now) :=
    fun run now t key => Table.rowsOf_onDocument (run.id_rowChange now)
  refine World.stored_congr hrows fun t _ t' _ hsame => ?_
  simp only [Function.comp_apply, hchange]
  exact Row.map_untimed_congr (fun _ _ => h.untimed_rowChange w.later.now w'.later.now) hsame

theorem Like.itemsOn_step (p : Pipeline) (audited : Bool) (h : run.Like run')
    (hitems : w.itemsOn run.job.documentId.text = w'.itemsOn run.job.documentId.text) :
    (run.step p audited w).2.itemsOn run.job.documentId.text =
      (run'.step p audited w').2.itemsOn run.job.documentId.text := by
  simp only [World.itemsOn, items_step, Option.map_map] at hitems ⊢
  have hentries := h.untimed_entries audited w.later.now w'.later.now
  refine World.stored_congr hitems fun items _ items' _ hsame => ?_
  simp only [Function.comp_apply, Audit.itemsOf_append, List.map_append]
  rw [hsame, ← Audit.itemsOf_map_untimed (run.entries _ _), hentries, Audit.itemsOf_map_untimed]

/-- The analysis of a run does the same where it sees the same. -/
theorem like_step_analysing (hreads : p.recognizer.Reads) (hlocal : p.recognizer.Local)
    (hticket : run.ticket = run'.ticket) (hjob : run.job = run'.job) {digest : Option String}
    {stage stage' : Stage} (hphase : run.phase = .analysing digest stage)
    (hphase' : run'.phase = .analysing digest stage') (hstage : stage.Like stage')
    {places : run.job.Places base} (h : places.Agree w.files w'.files) :
    (run.step p audited w).1.Like (run'.step p audited w').1 ∧
      places.Agree (run.step p audited w).2.files (run'.step p audited w').2.files := by
  obtain ⟨hnext, hfiles⟩ := Pipeline.like_step hreads hlocal h hstage
  rw [files_step_of_analysing p audited w hphase, files_step_of_analysing p audited w' hphase',
    ← hjob]
  refine ⟨?_, hfiles⟩
  simp only [step, hphase, hphase', ← hjob, hstage.conclusion?_eq]
  split
  · rename_i conclusion _
    refine ⟨hticket, rfl, ?_⟩
    simp only [concludedPhase, hticket]
    exact .same _
  · exact ⟨hticket, rfl, .analysing digest hnext⟩

/-- Runs that are alike take the same step in worlds that agree on their job, and the worlds agree
on it afterwards. -/
theorem like_step (audited : Bool) (hreads : p.recognizer.Reads) (hlocal : p.recognizer.Local)
    (hlike : run.Like run') {places : run.job.Places base} (h : World.Agree places w w') :
    (run.step p audited w).1.Like (run'.step p audited w').1 ∧
      World.Agree places (run.step p audited w).2 (run'.step p audited w').2 := by
  have hrows := hlike.rowsOn_step p audited h.rows
  have hitems := hlike.itemsOn_step p audited h.items
  suffices hsuffices : (run.step p audited w).1.Like (run'.step p audited w').1 ∧
      places.Agree (run.step p audited w).2.files (run'.step p audited w').2.files from
    ⟨hsuffices.1, hsuffices.2, hrows, hitems⟩
  obtain ⟨hticket, hjob, hphase⟩ := hlike
  have hother : (∀ digest stage, run.phase ≠ .analysing digest stage) → run.phase = run'.phase →
      places.Agree (run.step p audited w).2.files (run'.step p audited w').2.files := by
    intro hne heq
    rw [files_step_of_ne p audited w hne, files_step_of_ne p audited w' (heq ▸ hne)]
    exact h.files
  generalize hphase₁ : run.phase = phase₁ at hphase
  generalize hphase₂ : run'.phase = phase₂ at hphase
  cases hphase with
  | analysing digest hstage =>
    exact like_step_analysing hreads hlocal hticket hjob hphase₁ hphase₂ hstage h.files
  | same =>
    cases phase₁ with
    | analysing digest stage =>
      exact like_step_analysing hreads hlocal hticket hjob hphase₁ hphase₂ (.same stage) h.files
    | marked =>
      refine ⟨?_, hother (by simp [hphase₁]) (hphase₁.trans hphase₂.symm)⟩
      simp only [step, hphase₁, hphase₂, fingerprintOf, fingerprint, ← hjob, h.files.read_source]
      exact ⟨hticket, rfl, .same _⟩
    | queued | concluded | stored | finished =>
      refine ⟨?_, hother (by simp [hphase₁]) (hphase₁.trans hphase₂.symm)⟩
      simp only [step, hphase₁, hphase₂]
      exact ⟨hticket, hjob, by first | exact .same _ | (rw [hphase₁, hphase₂]; exact .same _)⟩

end Run

/-! ## One run on two floors -/

namespace Floor

/-- The jobs concern different documents, and their images and processed copies have different
locations. -/
structure Separate (base : FileSystem) (jobs : List Job) : Prop where
  located : ∀ job ∈ jobs, Nonempty (job.Places base)
  keys : ∀ {i j : Nat} {job other : Job}, i ≠ j → jobs[i]? = some job → jobs[j]? = some other →
    job.documentId.text ≠ other.documentId.text
  places : ∀ {i j : Nat} {job other : Job}, i ≠ j → jobs[i]? = some job → jobs[j]? = some other →
    ∀ (places : job.Places base) (others : other.Places base),
      places.copy ≠ others.source ∧ places.copy ≠ others.copy

section Shadow

variable {p : Nat → Pipeline} {audited : Bool} {base : FileSystem} {jobs : List Job} {f : Floor}
  {i j : Nat} {job : Job}

/-- A copy is put at its place. -/
theorem copyPlace?_eq_copy {q : Pipeline} {place : Location} (places : job.Places base)
    (h : q.copyPlace? base job.image = some place) : place = places.copy :=
  Except.ok.inj ((Pipeline.locate_of_copyPlace? h).symm.trans places.locate_copy)

theorem Separate.sourcesSafe (h : Separate base jobs) (p : Nat → Pipeline) :
    SourcesSafe p base jobs := by
  refine sourcesSafe_of_ne fun i j job other hij hi hj place hplace hsource => ?_
  obtain ⟨places⟩ := h.located job (List.mem_of_getElem? hi)
  obtain ⟨others⟩ := h.located other (List.mem_of_getElem? hj)
  have hsame : place = others.source := Except.ok.inj (hsource.symm.trans others.locate_source)
  rw [copyPlace?_eq_copy places hplace] at hsame
  exact (h.places hij hi hj places others).1 hsame

theorem Separate.images_located (h : Separate base jobs) : Located base jobs := by
  intro job hjob
  obtain ⟨places⟩ := h.located job hjob
  exact ⟨places.source, places.locate_source⟩

/-- A turn of another run changes nothing that concerns a job. -/
theorem Kept.agree_turn_of_ne (hreads : (p j).recognizer.Reads) (hsep : Separate base jobs)
    (h : f.Kept p base jobs) (hij : j ≠ i) (hjob : jobs[i]? = some job) {places : job.Places base}
    {w : World} (hagree : World.Agree places f.world w) :
    World.Agree places (f.turn p audited j).world w := by
  cases hrun : f.runs[j]? with
  | none => rwa [turn_of_none hrun]
  | some run =>
    have hother := h.getElem?_jobs hrun
    have hspares : World.Spares [run.job.documentId.text] f.world (f.turn p audited j).world := by
      rw [turn_of_some hrun]
      exact run.spares_step (p j) audited f.world (List.mem_singleton_self _)
    have hkey : job.documentId.text ∉ [run.job.documentId.text] := by
      rw [List.mem_singleton]
      exact (hsep.keys hij hother hjob).symm
    have hsafe := hsep.sourcesSafe p
    have hkept := h.turn audited hreads hsafe hsep.images_located
    have hget : ∀ loc, (∀ others : run.job.Places base, loc ≠ others.copy) →
        (f.turn p audited j).world.files.get? loc = f.world.files.get? loc := by
      intro loc hloc
      rcases h.files_turn audited hreads hsafe hsep.images_located with
        hsame | ⟨run', place, hrun', hplace, htouched⟩
      · rw [hsame]
      · obtain rfl : run = run' := Option.some_inj.1 (hrun.symm.trans hrun')
        obtain ⟨others⟩ := hsep.located run.job (List.mem_of_getElem? hother)
        rw [copyPlace?_eq_copy others hplace] at htouched
        exact htouched.get?_of_ne (hloc others)
    refine ⟨⟨hkept.tree, hagree.files.tree', ?_, ?_⟩, ?_, ?_⟩
    · rw [hget _ fun others => (hsep.places hij hother hjob others places).1.symm,
        hagree.files.source]
    · rw [hget _ fun others => (hsep.places hij hother hjob others places).2.symm,
        hagree.files.copy]
    · rw [hspares.rowsOn hkey, hagree.rows]
    · rw [hspares.itemsOn hkey, hagree.items]

/-- **A run among others is as it is alone.** In every order of turns the run in a place is like the
one that it becomes if only its own turns are taken, and the worlds agree on its job. -/
theorem shadow (audited : Bool) (hreads : ∀ i, (p i).recognizer.Reads)
    (hlocal : ∀ i, (p i).recognizer.Local) (hsep : Separate base jobs) (h : f.Kept p base jobs)
    (hjob : jobs[i]? = some job) (places : job.Places base) (order : List Nat) :
    World.Agree places (f.afterAll p audited (order.map .turn)).world
        (f.afterAll p audited ((order.filter (· = i)).map .turn)).world ∧
      ∃ run run', (f.afterAll p audited (order.map .turn)).runs[i]? = some run ∧
        (f.afterAll p audited ((order.filter (· = i)).map .turn)).runs[i]? = some run' ∧
        run.job = job ∧ run.Like run' := by
  induction order using List.reverseRecOn with
  | nil =>
    obtain ⟨run, hrun, hrunJob⟩ := h.exists_run hjob
    exact ⟨⟨⟨h.tree, h.tree, rfl, rfl⟩, rfl, rfl⟩, run, run, hrun, hrun, hrunJob, .refl run⟩
  | append_singleton order j ih =>
    obtain ⟨hagree, run, run', hrun, hrun', hrunJob, hlike⟩ := ih
    have hkept := h.afterAll audited hreads (hsep.sourcesSafe p) hsep.images_located
      (order.map .turn)
    rw [List.map_append, afterAll_append, List.filter_append]
    by_cases hji : j = i
    · -- the turn is taken on both floors
      subst hji
      rw [List.filter_cons_of_pos (by simp), List.filter_nil, List.map_append, afterAll_append]
      simp only [List.map_cons, List.map_nil, afterAll_cons, afterAll_nil, after]
      subst hrunJob
      obtain ⟨hnext, hworld⟩ :=
        Run.like_step audited (hreads j) (hlocal j) hlike hagree
      rw [turn_of_some hrun, turn_of_some hrun'] at *
      obtain ⟨hj, -⟩ := List.getElem?_eq_some_iff.1 hrun
      obtain ⟨hj', -⟩ := List.getElem?_eq_some_iff.1 hrun'
      exact ⟨hworld, _, _, List.getElem?_set_self hj, List.getElem?_set_self hj',
        Run.job_step .., hnext⟩
    · -- the turn is left out on the second floor
      rw [List.filter_cons_of_neg (by simpa using hji), List.filter_nil, List.append_nil]
      simp only [List.map_cons, List.map_nil, afterAll_cons, afterAll_nil, after]
      exact ⟨hkept.agree_turn_of_ne (hreads j) hsep hji hjob hagree, run, run',
        by rw [getElem?_turn_of_ne (Ne.symm hji), hrun], hrun', hrunJob, hlike⟩

end Shadow

end Floor

end IdentityDocs
