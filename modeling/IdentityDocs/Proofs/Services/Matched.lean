import IdentityDocs.Proofs.Pipeline.Cleanup
import IdentityDocs.Proofs.Services.Office
import IdentityDocs.Proofs.Text.Utf8
import IdentityDocs.Proofs.Worker.Audited

/-!
# All entries on a document match its image

The fingerprint in an entry on an analysis is that of the file at the path of the job; the one in an
entry on a review is that of the file at the path in the record. `Office.Tracks` is the invariant
that makes them the same: the image can be read and holds the given bytes, the rows of the document
name its path, and its runs are on this path and carry the digest of the bytes. It is kept as long
as nobody else changes the image (`Office.Spares`); that the analysis itself does not is shown here.
-/

namespace IdentityDocs

open FileSystem (TouchedAt)

/-- A path that is UTF-8 is stored as it is. -/
theorem Path.text_ofText (s : String) : (ofText s).text = s := Text.decodeLossy_encode s

/-- The digest is that in a fingerprint that was taken, if any was. -/
def Phase.Carries (digest : String) : Phase → Prop
  | .analysing taken _ | .concluded taken _ | .stored taken _ => taken = some digest
  | .queued | .marked | .finished => True

namespace Run

/-- The next step of the run is to ask the recognizer. -/
def asks (run : Run) : Bool :=
  match run.phase with
  | .analysing _ (.ready _) => true
  | _ => false

/-- The recognizer broke down in the run. -/
def brokeDown (run : Run) : Bool :=
  match run.phase with
  | .analysing _ (.finished _ _ (.breakdown _)) => true
  | _ => false

variable {p : Pipeline} {audited : Bool} {run : Run} {w : World} {bytes : List UInt8}

theorem fingerprintOf_of_read {files : FileSystem} {image : Path} (id : DocumentId)
    (h : files.read image = .ok bytes) :
    fingerprintOf files id image = hexBytes (Sha256.digest bytes) := by
  rw [fingerprintOf, fingerprint_eq, h]
  rfl

/-- A run does not change its image, unless its recognizer does. -/
theorem read_step (hread : w.files.read run.job.image = .ok bytes) (hasks : run.asks = false) :
    (run.step p audited w).2.files.read run.job.image = .ok bytes := by
  cases hphase : run.phase with
  | analysing digest stage =>
    rw [files_step_of_analysing p audited w hphase]
    have hstage : ∀ preparation, stage ≠ .ready preparation := by
      rintro preparation rfl
      simp [asks, hphase] at hasks
    exact (Pipeline.touchedAt_step hstage).read_image hread
  | queued | marked | concluded | stored | finished =>
    rw [files_step_of_ne p audited w (by simp [hphase])]
    exact hread

/-- A run takes the digest of its image, and loses it only if its recognizer breaks down. -/
theorem carries_step (hread : w.files.read run.job.image = .ok bytes)
    (hcarries : run.phase.Carries (hexBytes (Sha256.digest bytes)))
    (hsound : run.brokeDown = false) :
    (run.step p true w).1.phase.Carries (hexBytes (Sha256.digest bytes)) := by
  cases hphase : run.phase with
  | queued | stored | finished => simp [step, hphase, Phase.Carries]
  | marked => simp [step, hphase, Phase.Carries, fingerprintOf_of_read _ hread]
  | concluded digest result =>
    rw [hphase] at hcarries
    simp only [step, hphase]
    exact hcarries
  | analysing digest stage =>
    rw [hphase] at hcarries
    cases hc : stage.conclusion? run.job.claimed with
    | none =>
      simp only [step, hphase, hc]
      exact hcarries
    | some conclusion =>
      simp only [step, hphase, hc]
      cases conclusion with
      | ok result => exact hcarries
      | error message =>
        -- only a breakdown has no result
        cases stage with
        | finished preparation inquiry answer =>
          cases answer with
          | breakdown => simp [brokeDown, hphase] at hsound
          | text | failure => simp [Stage.conclusion?, conclude] at hc
        | begun | decoded | unwritten | ready | answered => simp [Stage.conclusion?] at hc

theorem fingerprint_of_mem_entries {digest : String} {now : Instant} {item : Audit.Item}
    (hcarries : run.phase.Carries digest) (h : item ∈ run.entries audited now) :
    item.fingerprint = digest := by
  obtain ⟨rfl, taken, r, hphase⟩ := stored_of_mem_entries h
  rw [entries_of_stored hphase, List.mem_singleton] at h
  rw [hphase] at hcarries
  obtain rfl : taken = some digest := hcarries
  rw [h]
  rfl

/-- The step that finishes an audited run makes an entry on what its analysis came to. -/
theorem exists_entry_of_step_finished (hphase : run.phase ≠ .finished)
    (hnext : (run.step p true w).1.phase = .finished) :
    ∃ item ∈ run.entries true w.later.now, item.documentId = run.job.documentId.text ∧
      ∃ r, item.Reports r := by
  cases hrun : run.phase with
  | stored digest r =>
    rw [entries_of_stored hrun]
    exact ⟨_, List.mem_singleton_self _, rfl, r, Audit.Item.reports_of_describe rfl rfl rfl⟩
  | finished => exact absurd hrun hphase
  | queued | marked | concluded => simp [step, hrun] at hnext
  | analysing digest stage =>
    simp only [step, hrun] at hnext
    cases hc : stage.conclusion? run.job.claimed with
    | none => simp [hc] at hnext
    | some conclusion => cases conclusion <;> simp [hc, concludedPhase] at hnext

end Run

/-- The rows of a document name a path. -/
def Store.Paths (id : DocumentId) (image : Path) (s : Store) : Prop :=
  ∀ t, s.table = some t → ∀ row ∈ t, row.id = id.text → .ofText row.path = image

theorem Store.Paths.after {id : DocumentId} {image : Path} {s : Store} (h : s.Paths id image)
    {op : Operation} (hop : ∀ r, op = .insert r → r.id ≠ id) : (s.after op).Paths id image := by
  intro t' ht' row hrow hid
  rw [table_after] at ht'
  obtain ⟨t, ht, rfl⟩ := Option.map_eq_some_iff.1 ht'
  rcases Operation.exists_path_of_mem_effect hrow with ⟨r, hinsert, rfl⟩ | ⟨old, hold, hsame, hpath⟩
  · exact absurd (DocumentId.text_injective hid) (hop r hinsert)
  · rw [← hpath]
    exact h t ht old hold (hsame.trans hid)

namespace Office

/-! ## What must not happen -/

/-- Whether an event enters a record under an identifier. -/
def Event.enters (id : DocumentId) : Event → Bool
  | .desk (.handIn g) => g.id = id
  | .call (.insert r) => r.id = id
  | _ => false

/-- Whether an event is a step of a run of a document, other than that of asking the recognizer. -/
def worksOn (o : Office) (id : DocumentId) : Event → Bool
  | .turn i => (o.tasks[i]?).elim false fun task =>
    task.run.job.documentId = id && !task.run.asks
  | _ => false

/-- Whether an event is a step of a run of a document whose recognizer broke down. -/
def losesTo (o : Office) (id : DocumentId) : Event → Bool
  | .turn i => (o.tasks[i]?).elim false fun task =>
    task.run.job.documentId = id && task.run.brokeDown
  | _ => false

/-- The document is audited, its identifier is not taken again, its recognizer does not break down,
and nobody but the rest of its analysis is at its image, which can be read and holds the bytes. -/
structure Spares (o : Office) (id : DocumentId) (image : Path) (bytes : List UInt8) (e : Event) :
    Prop where
  audited : o.desk.settings.auditEnabled = true
  single : e.enters id = false
  sound : o.losesTo id e = false
  image : o.worksOn id e = false → (o.after e).desk.world.files.read image = .ok bytes

/-- All events of a history spare the document. -/
def Spared (id : DocumentId) (image : Path) (bytes : List UInt8) : Office → List Event → Prop
  | _, [] => True
  | o, e :: events => o.Spares id image bytes e ∧ Spared id image bytes (o.after e) events

instance decidableSpares (o : Office) (id : DocumentId) (image : Path) (bytes : List UInt8)
    (e : Event) : Decidable (o.Spares id image bytes e) :=
  decidable_of_iff
    (o.desk.settings.auditEnabled = true ∧ e.enters id = false ∧ o.losesTo id e = false ∧
      (o.worksOn id e = false → (o.after e).desk.world.files.read image = .ok bytes))
    ⟨fun ⟨audited, single, sound, image⟩ => ⟨audited, single, sound, image⟩,
      fun ⟨audited, single, sound, image⟩ => ⟨audited, single, sound, image⟩⟩

instance decidableSpared (id : DocumentId) (image : Path) (bytes : List UInt8) : ∀ (o : Office)
    (events : List Event), Decidable (o.Spared id image bytes events)
  | _, [] => inferInstanceAs (Decidable True)
  | o, e :: events =>
    have := decidableSpared id image bytes (o.after e) events
    inferInstanceAs (Decidable (_ ∧ _))

/-! ## What is kept -/

/-- The image holds the bytes, the rows of the document name its path, and the runs of the document
are audited, on this path, and carry the digest of the bytes. -/
structure Tracks (id : DocumentId) (image : Path) (bytes : List UInt8) (o : Office) : Prop where
  read : o.desk.world.files.read image = .ok bytes
  rows : o.desk.world.store.Paths id image
  tasks : ∀ task ∈ o.tasks, task.run.job.documentId = id → task.audited = true ∧
    task.run.job.image = image ∧ task.run.phase.Carries (hexBytes (Sha256.digest bytes))

section Steps

variable {id : DocumentId} {image : Path} {bytes : List UInt8} {o : Office} {e : Event}
  {i : Nat} {task : Task}

/-- The runs that an event adds are of the document that was handed in. -/
theorem exists_handIn_of_mem_queuedBy {e : Desk.Event} (h : task ∈ o.queuedBy e) :
    ∃ g, e = .handIn g ∧ task.run.job.documentId = g.id := by
  cases hworker : o.desk.worker with
  | none => simp [queuedBy, hworker] at h
  | some worker =>
    simp only [queuedBy, hworker, Option.elim_some, Worker.tasksFrom, Worker.runsFrom,
      List.map_map, List.mem_map] at h
    obtain ⟨⟨job, n⟩, hmem, rfl⟩ := h
    have hjob : job ∈ o.desk.queuedBy e := (List.mem_zipIdx hmem).2.2 ▸ List.getElem_mem _
    cases e with
    | start | stop => cases hjob
    | handIn g =>
      refine ⟨g, rfl, ?_⟩
      cases o.desk.handsIn g with
      | nothing hd =>
        rw [Desk.queuedBy, hd, List.drop_length] at hjob
        cases hjob
      | row hworker' _ _ _ _ hd hqueue =>
        rw [hworker] at hworker'
        obtain rfl := Option.some.inj hworker'
        rw [Desk.queuedBy, hd] at hjob
        simp only [Desk.queue, hworker, Option.elim_some] at hjob
        rcases hqueue with hqueue | hqueue
        · rw [hqueue, List.drop_length] at hjob
          cases hjob
        · rw [hqueue, List.drop_left, List.mem_singleton] at hjob
          rw [hjob]
          rfl

/-- A run after an event is one from before it, one that took its step, or a new one. -/
theorem mem_tasks_after (h : task ∈ (o.after e).tasks) :
    task ∈ o.tasks ∨
      (∃ i old, e = .turn i ∧ o.tasks[i]? = some old ∧
        task = { old with run := (old.run.step old.pipeline old.audited o.desk.world).1 }) ∨
      ∃ g, e = .desk (.handIn g) ∧ task.run.job.documentId = g.id := by
  cases e with
  | desk e =>
    rcases List.mem_append.1 h with h | h
    · exact .inl h
    · obtain ⟨g, rfl, hid⟩ := exists_handIn_of_mem_queuedBy h
      exact .inr (.inr ⟨g, rfl, hid⟩)
  | turn i =>
    cases hold : o.tasks[i]? with
    | none =>
      rw [after, turn_of_none hold] at h
      exact .inl h
    | some old =>
      rw [after, turn_of_some hold] at h
      rcases List.mem_or_eq_of_mem_set h with h | h
      · exact .inl h
      · exact .inr (.inl ⟨i, old, rfl, hold, h⟩)
  | review | settings | call | change => exact .inl h

/-- What an event does to the store leaves the paths of the document alone. -/
theorem paths_after (h : o.desk.world.store.Paths id image) (hsingle : e.enters id = false) :
    (o.after e).desk.world.store.Paths id image := by
  cases e with
  | desk e =>
    cases e with
    | start | stop => exact h
    | handIn g =>
      have hid : g.id ≠ id := by simpa [Event.enters] using hsingle
      cases o.desk.handsIn g with
      | nothing hd =>
        simp only [after, Desk.after, hd]
        exact h
      | row _ _ ht _ hnames hd _ =>
        simp only [after, Desk.after, hd]
        rintro t' ⟨rfl⟩ row' hrow hid'
        rcases List.mem_append.1 hrow with hrow | hrow
        · exact h _ ht row' hrow hid'
        · obtain rfl := List.mem_singleton.1 hrow
          exact absurd (DocumentId.text_injective (hnames.id.symm.trans hid')) hid
  | review id' status comments =>
    simp only [after, Desk.store_review]
    exact h.after (by rintro r ⟨⟩)
  | settings s =>
    simp only [after, (o.desk.saveSettings_frame s).1]
    exact h
  | turn i =>
    cases htask : o.tasks[i]? with
    | none => rwa [after, turn_of_none htask]
    | some task =>
      simp only [after, turn_of_some htask, Run.store_step]
      cases hop : task.run.operation? o.desk.world with
      | none => exact h
      | some op =>
        refine h.after fun r hr => ?_
        subst hr
        cases hphase : task.run.phase <;> simp [Run.operation?, hphase] at hop
  | call op =>
    refine h.after fun r hr => ?_
    subst hr
    simpa [Event.enters] using hsingle
  | change files => exact h

/-- What is known of the document is known after every event that spares it. -/
theorem Tracks.after (h : o.Tracks id image bytes) (hspares : o.Spares id image bytes e) :
    (o.after e).Tracks id image bytes where
  read := by
    cases hworks : o.worksOn id e with
    | false => exact hspares.image hworks
    | true =>
      cases e with
      | turn i =>
        cases htask : o.tasks[i]? with
        | none => simp [worksOn, htask] at hworks
        | some task =>
          obtain ⟨hid, hasks⟩ : task.run.job.documentId = id ∧ task.run.asks = false := by
            simpa [worksOn, htask] using hworks
          obtain ⟨-, himage, -⟩ := h.tasks task (List.mem_of_getElem? htask) hid
          have hread : o.desk.world.files.read task.run.job.image = .ok bytes := himage ▸ h.read
          simp only [Office.after, turn_of_some htask]
          rw [← himage]
          exact Run.read_step hread hasks
      | desk | review | settings | call | change => simp [worksOn] at hworks
  rows := paths_after h.rows hspares.single
  tasks := by
    intro task htask hid
    rcases mem_tasks_after htask with hold | ⟨i, old, rfl, hold, rfl⟩ | ⟨g, rfl, hg⟩
    · exact h.tasks task hold hid
    · rw [Run.job_step] at hid
      obtain ⟨haudited, himage, hcarries⟩ := h.tasks old (List.mem_of_getElem? hold) hid
      have hsound : old.run.brokeDown = false := by
        simpa [losesTo, hold, hid] using hspares.sound
      refine ⟨haudited, by rw [Run.job_step]; exact himage, ?_⟩
      simp only [haudited]
      exact Run.carries_step (himage ▸ h.read) hcarries hsound
    · have hne : g.id ≠ id := by simpa [Event.enters] using hspares.single
      exact absurd (hg.symm.trans hid) hne

/-- An entry on the document that is made now carries the digest of the bytes. -/
theorem Tracks.fingerprint_eq (h : o.Tracks id image bytes) {item : Audit.Item}
    (hitem : item ∈ o.enteredBy e) (hid : item.documentId = id.text) :
    item.fingerprint = hexBytes (Sha256.digest bytes) := by
  cases e with
  | turn i =>
    cases htask : o.tasks[i]? with
    | none => simp [enteredBy, htask] at hitem
    | some task =>
      simp only [enteredBy, htask] at hitem
      have hown : task.run.job.documentId = id := by
        rw [Run.documentId_of_mem_entries hitem] at hid
        exact DocumentId.text_injective hid
      obtain ⟨-, -, hcarries⟩ := h.tasks task (List.mem_of_getElem? htask) hown
      exact Run.fingerprint_of_mem_entries hcarries hitem
  | review id' status comments =>
    simp only [enteredBy, Desk.reviewEntries] at hitem
    cases hanswer : (o.desk.review id' status comments).2 with
    | error e => simp [hanswer] at hitem
    | ok r =>
      obtain ⟨-, rfl⟩ : o.desk.settings.auditEnabled = true ∧
          item = Desk.reviewItem o.desk.world.later r id' status comments := by
        simpa [hanswer] using hitem
      obtain rfl : id' = id := DocumentId.text_injective hid
      -- the record that is read back names the path of the image
      have hget := o.desk.get?_of_review_ok id' status comments hanswer
      obtain ⟨t, ht, row, hrow, hrowId, hrecord⟩ := Store.exists_row_of_get? hget
      have hrows : (o.desk.review id' status comments).1.world.store.Paths id' image :=
        paths_after (e := .review id' status comments) h.rows rfl
      have hpath : r.path = image := by
        rw [Row.path_of_record hrecord]
        exact hrows t ht row hrow hrowId
      have hread : o.desk.world.files.read r.path = .ok bytes := hpath ▸ h.read
      exact Run.fingerprintOf_of_read id' hread
  | desk | settings | call | change => cases hitem

/-- All entries on the document that a history makes carry the digest of the bytes. -/
theorem Tracks.fingerprint_of_mem_entered {events : List Event} : ∀ {o : Office},
    o.Tracks id image bytes → o.Spared id image bytes events → ∀ item ∈ o.entered events,
      item.documentId = id.text → item.fingerprint = hexBytes (Sha256.digest bytes) := by
  induction events with
  | nil => exact fun _ _ item hitem => nomatch hitem
  | cons e events ih =>
    intro o h hspared item hitem hid
    rcases List.mem_append.1 hitem with hnow | hlater
    · exact h.fingerprint_eq hnow hid
    · exact ih (h.after hspared.1) hspared.2 item hlater hid

/-! ## What is entered -/

/-- The run in a place stays where it is, or takes its step. -/
theorem getElem?_after (h : o.tasks[i]? = some task) (e : Event) :
    (o.after e).tasks[i]? = some task ∨ e = .turn i ∧ (o.after e).tasks[i]? =
      some { task with run := (task.run.step task.pipeline task.audited o.desk.world).1 } := by
  obtain ⟨hi, -⟩ := List.getElem?_eq_some_iff.1 h
  cases e with
  | desk e => exact .inl (by rw [after, List.getElem?_append_left hi, h])
  | turn j =>
    cases hother : o.tasks[j]? with
    | none => exact .inl (by rw [after, turn_of_none hother, h])
    | some other =>
      by_cases hij : j = i
      · subst hij
        obtain rfl : task = other := Option.some.inj (h.symm.trans hother)
        exact .inr ⟨rfl, by simp [after, turn_of_some hother, hi]⟩
      · exact .inl (by simp [after, turn_of_some hother, List.getElem?_set_ne hij, h])
  | review | settings | call | change => exact .inl h

/-- A run stays in its place and keeps its job. -/
theorem exists_afterAll (events : List Event) : ∀ {o : Office} {task : Task},
    o.tasks[i]? = some task →
      ∃ last, (o.afterAll events).tasks[i]? = some last ∧ last.run.job = task.run.job := by
  induction events with
  | nil => exact fun h => ⟨_, h, rfl⟩
  | cons e events ih =>
    intro o task h
    rcases getElem?_after h e with hsame | ⟨-, hstep⟩
    · exact ih hsame
    · obtain ⟨last, hlast, hjob⟩ := ih hstep
      exact ⟨last, hlast, hjob.trans (Run.job_step ..)⟩

/-- An audited run that finishes in a history makes an entry on its analysis. -/
theorem exists_entry_of_finished {events : List Event} {last : Task} : ∀ {o : Office} {task : Task},
    o.tasks[i]? = some task → task.audited = true → task.run.phase ≠ .finished →
    (o.afterAll events).tasks[i]? = some last → last.run.phase = .finished →
      ∃ item ∈ o.entered events, item.documentId = task.run.job.documentId.text ∧
        ∃ r, item.Reports r := by
  induction events with
  | nil =>
    intro o task h _ hphase hlast hdone
    obtain rfl : task = last := Option.some.inj (h.symm.trans hlast)
    exact absurd hdone hphase
  | cons e events ih =>
    intro o task h haudited hphase hlast hdone
    rcases getElem?_after h e with hsame | ⟨rfl, hstep⟩
    · obtain ⟨item, hitem, hrest⟩ := ih hsame haudited hphase hlast hdone
      exact ⟨item, List.mem_append_right _ hitem, hrest⟩
    · by_cases hnext : (task.run.step task.pipeline task.audited o.desk.world).1.phase = .finished
      · rw [haudited] at hnext
        obtain ⟨item, hitem, hrest⟩ := Run.exists_entry_of_step_finished hphase hnext
        refine ⟨item, List.mem_append_left _ ?_, hrest⟩
        simpa only [enteredBy, h, haudited] using hitem
      · obtain ⟨item, hitem, hid, hrest⟩ := ih hstep haudited hnext hlast hdone
        rw [Run.job_step] at hid
        exact ⟨item, List.mem_append_right _ hitem, hid, hrest⟩

/-- A review that is answered with a record is entered, if the desk is audited. -/
theorem reviewItem_mem_entered (after : List Event) {before : List Event}
    {status : VerificationStatus} {comments : Option String} {r : DocumentRecord}
    (haudited : (o.afterAll before).desk.settings.auditEnabled = true)
    (hr : ((o.afterAll before).desk.review id status comments).2 = .ok r) :
    Desk.reviewItem (o.afterAll before).desk.world.later r id status comments ∈
      o.entered (before ++ .review id status comments :: after) := by
  rw [entered_append]
  refine List.mem_append_right _ (List.mem_append_left _ ?_)
  simp only [enteredBy, Desk.reviewEntries, hr, haudited, if_true]
  exact List.mem_singleton_self _

theorem Spared.of_append {before after : List Event} : ∀ {o : Office},
    o.Spared id image bytes (before ++ e :: after) →
      (o.afterAll before).Spares id image bytes e := by
  induction before with
  | nil => exact fun h => h.1
  | cons first before ih => exact fun h => ih h.2

end Steps

/-! ## A document that is handed in -/

section HandedIn

variable {o : Office} {g : Registration}

/-- An image whose identifier is the answer was queued. -/
theorem endsAs_of_handIn_ok (h : (o.desk.handIn g).2 = .ok g.id) :
    o.desk.EndsAs g (o.desk.handIn g).1 (o.desk.handIn g).2 .queued := by
  have hends := Desk.endsAs_ending o.desk g
  cases hending : o.desk.ending g with
  | queued => rwa [hending] at hends
  | noWorker =>
    rw [hending] at hends
    obtain ⟨-, hanswer, -⟩ := hends
    rw [hanswer] at h
    cases h
  | noImage =>
    rw [hending] at hends
    obtain ⟨_, _, -, -, hanswer, -⟩ := hends
    rw [hanswer] at h
    cases h
  | refused =>
    rw [hending] at hends
    obtain ⟨_, _, _, -, -, -, hanswer, -⟩ := hends
    rw [hanswer] at h
    cases h
  | stranded =>
    rw [hending] at hends
    obtain ⟨_, _, _, _, -, -, -, -, hanswer, -⟩ := hends
    rw [hanswer] at h
    cases h

variable {text : String} {bytes : List UInt8}
  (hnew : ∀ task ∈ o.tasks, task.run.job.documentId ≠ g.id)
  (haudited : ∀ worker, o.desk.worker = some worker → worker.audited = true)
  (himage : o.desk.world.files.canonicalize g.image = .ok (.ofText text))
  (hread : o.desk.world.files.read (.ofText text) = .ok bytes)
  (hqueued : (o.desk.handIn g).2 = .ok g.id)

include himage haudited hqueued

/-- The run of an image that was just handed in is new, audited, and on the canonical path. -/
theorem tasks_handIn : ∃ task, (o.after (.desk (.handIn g))).tasks = o.tasks ++ [task] ∧
    task.audited = true ∧ task.run.job.documentId = g.id ∧
    task.run.job.image = .ofText text ∧ task.run.phase = .queued := by
  obtain ⟨worker, image, _, _, hworker, -, himage', -, -, ⟨t, now, -, hd⟩, -⟩ :=
    endsAs_of_handIn_ok hqueued
  obtain rfl : image = .ofText text := Except.ok.inj (himage'.symm.trans himage)
  have hjobs : o.desk.queuedBy (.handIn g) = [g.job worker (.ofText text)] := by
    rw [Desk.queuedBy, hd]
    simp only [Desk.queue, hworker, Option.elim_some, List.drop_left]
  refine ⟨⟨worker.pipeline, worker.audited,
    { ticket := worker.tickets o.tasks.length, job := g.job worker (.ofText text) }⟩, ?_,
    haudited worker hworker, rfl, rfl, rfl⟩
  simp only [after, queuedBy, hworker, Option.elim_some, hjobs, Worker.tasksFrom, Worker.runsFrom,
    List.zipIdx_singleton, List.map_singleton]

include hnew hread

theorem tracks_handIn : (o.after (.desk (.handIn g))).Tracks g.id (.ofText text) bytes := by
  obtain ⟨task, htasks, htask, -, hpath, hphase⟩ := tasks_handIn haudited himage hqueued
  obtain ⟨worker, image, store, row, -, -, himage', hinsert, -, ⟨t, now, ht, hd⟩, hnames, -⟩ :=
    endsAs_of_handIn_ok hqueued
  obtain rfl : image = .ofText text := Except.ok.inj (himage'.symm.trans himage)
  obtain ⟨t', ht', hfree, -⟩ := Store.exists_table_of_insert hinsert
  obtain rfl : t = t' := Option.some.inj (ht.symm.trans ht')
  refine ⟨?_, ?_, ?_⟩
  · obtain ⟨hfiles, -⟩ := o.desk.after_frame (.handIn g)
    simp only [after, hfiles, hread]
  · simp only [after, Desk.after, hd]
    rintro t' ⟨rfl⟩ row' hrow hid
    rcases List.mem_append.1 hrow with hrow | hrow
    · have hhas : t.has g.id = true := Table.has_iff.2 ⟨row', hrow, hid⟩
      have hfree : t.has g.id = false := hfree
      rw [hfree] at hhas
      cases hhas
    · obtain rfl := List.mem_singleton.1 hrow
      rw [hnames.path, Path.text_ofText]
  · intro other hother hid
    rw [htasks] at hother
    rcases List.mem_append.1 hother with hother | hother
    · exact absurd hid (hnew other hother)
    · obtain rfl := List.mem_singleton.1 hother
      exact ⟨htask, hpath, by rw [hphase]; trivial⟩

/-- **All entries on a document match its image.** An image is handed in at an audited desk under a
new identifier, and its canonical path is UTF-8. Whatever happens then that spares the document: all
entries on it carry the digest of the bytes of the image, among them the one on its analysis, once
that is over, and one on every review of it that was answered with a record. -/
theorem entries_match_image {events : List Event}
    (hspared : (o.after (.desk (.handIn g))).Spared g.id (.ofText text) bytes events) :
    let start := o.after (.desk (.handIn g))
    let last := start.afterAll events
    let digest := hexBytes (Sha256.digest bytes)
    last.desk.world.log.items = o.desk.world.log.items.map (· ++ start.entered events) ∧
      (∀ item ∈ start.entered events, item.documentId = g.id.text → item.fingerprint = digest) ∧
      (∃ task, last.tasks[o.tasks.length]? = some task ∧ task.run.job.documentId = g.id ∧
        (task.run.phase = .finished → ∃ item ∈ start.entered events,
          item.documentId = g.id.text ∧ item.fingerprint = digest ∧ ∃ r, item.Reports r)) ∧
      ∀ before after status comments r, events = before ++ .review g.id status comments :: after →
        ((start.afterAll before).desk.review g.id status comments).2 = .ok r →
        ∃ item ∈ start.entered events, item.documentId = g.id.text ∧ item.fingerprint = digest ∧
          item.action = "review" ∧ item.success = true ∧
          item.details = some (Desk.reviewDetails status comments) := by
  intro start last digest
  have htracks : start.Tracks g.id (.ofText text) bytes :=
    tracks_handIn hnew haudited himage hread hqueued
  have hmatch : ∀ item ∈ start.entered events, item.documentId = g.id.text →
      item.fingerprint = digest := htracks.fingerprint_of_mem_entered hspared
  obtain ⟨task, htasks, htask, hid, -, hphase⟩ := tasks_handIn haudited himage hqueued
  refine ⟨?_, hmatch, ?_, ?_⟩
  · have hlog : start.desk.world.log = o.desk.world.log := (o.desk.after_frame (.handIn g)).2.1
    rw [items_afterAll, hlog]
  · have hplace : start.tasks[o.tasks.length]? = some task := by
      simp only [start, htasks, List.getElem?_concat_length]
    obtain ⟨final, hfinal, hjob⟩ := exists_afterAll events hplace
    refine ⟨final, hfinal, by rw [hjob, hid], fun hdone => ?_⟩
    obtain ⟨item, hitem, hitemId, hreports⟩ :=
      exists_entry_of_finished hplace htask (by simp [hphase]) hfinal hdone
    rw [hid] at hitemId
    exact ⟨item, hitem, hitemId, hmatch item hitem hitemId, hreports⟩
  · rintro before after status comments r rfl hr
    have hitem := reviewItem_mem_entered after hspared.of_append.audited hr
    exact ⟨_, hitem, rfl, hmatch _ hitem rfl, rfl, rfl, rfl⟩

end HandedIn

/-! ### An image that is analysed and reviewed -/

/-- A grey image of a single pixel. -/
def sampleImage : List UInt8 := Text.encode "P5 1 1 255\n0"

/-- An audited desk, with the image in the current directory. -/
def sampleOffice : Office where
  desk :=
    { world :=
        { files := ⟨[([Text.encode "a.pgm"], .file sampleImage .plain)], []⟩
          store := .empty, log := .empty, now := ⟨1, 0⟩ }
      directory := none
      settings := {}
      worker := some
        { pipeline := ⟨.always "silent" (.text ""), true, Pnm.copier⟩, audited := true,
          tickets := fun i => i + 1 } }

/-- The image, named by a relative path. -/
def sampleRegistration : Registration where
  id := Store.sampleId
  image := .ofText "a.pgm"
  owner := "user-1"
  kind := .idProof
  claimed := none

/-- All steps of the analysis. -/
def sampleTurns : List Event := List.replicate Run.stepCount (.turn 0)

/-- The document is analysed, and then it is reviewed. -/
def sampleEvents : List Event :=
  sampleTurns ++ [.review Store.sampleId .verified (some "seen")]

/-- The office once the image was handed in. -/
def sampleStart : Office := sampleOffice.after (.desk (.handIn sampleRegistration))

theorem sample_spared : sampleStart.Spared Store.sampleId (.ofText "/a.pgm") sampleImage
    sampleEvents := by
  decide +kernel

theorem sample_analysed :
    ∀ task ∈ (sampleStart.afterAll sampleEvents).tasks, task.run.phase.ahead = 0 := by
  decide +kernel

theorem sample_reviewed : ((sampleStart.afterAll sampleTurns).desk.review Store.sampleId .verified
    (some "seen")).2.isOk = true := by
  decide +kernel

/-- Both the analysis and the review of the sample are entered with the digest of its image. -/
theorem sample_entries_match_image :
    ∃ analysis ∈ sampleStart.entered sampleEvents, ∃ review ∈ sampleStart.entered sampleEvents,
      (∃ r, analysis.Reports r) ∧ review.action = "review" ∧
        analysis.documentId = Store.sampleId.text ∧ review.documentId = Store.sampleId.text ∧
        analysis.fingerprint = hexBytes (Sha256.digest sampleImage) ∧
        review.fingerprint = hexBytes (Sha256.digest sampleImage) := by
  have hnew : ∀ task ∈ sampleOffice.tasks,
      task.run.job.documentId ≠ sampleRegistration.id := List.forall_mem_nil _
  have haudited : ∀ worker, sampleOffice.desk.worker = some worker → worker.audited = true := by
    rintro worker ⟨rfl⟩
    rfl
  have himage : sampleOffice.desk.world.files.canonicalize sampleRegistration.image =
      .ok (.ofText "/a.pgm") := by decide +kernel
  have hread : sampleOffice.desk.world.files.read (.ofText "/a.pgm") = .ok sampleImage := by
    decide +kernel
  have hqueued : (sampleOffice.desk.handIn sampleRegistration).2 = .ok sampleRegistration.id := by
    decide +kernel
  obtain ⟨-, -, ⟨task, htask, -, hanalysis⟩, hreviews⟩ :=
    entries_match_image hnew haudited himage hread hqueued sample_spared
  have hdone : task.run.phase.ahead = 0 := sample_analysed task (List.mem_of_getElem? htask)
  obtain ⟨analysis, hanalysed, hdocument, hdigest, hreports⟩ :=
    hanalysis (Phase.ahead_eq_zero.1 hdone)
  cases hanswer : ((sampleStart.afterAll sampleTurns).desk.review Store.sampleId .verified
      (some "seen")).2 with
  | error e =>
    have hok := sample_reviewed
    rw [hanswer] at hok
    cases hok
  | ok r =>
    obtain ⟨review, hreviewed, hdocument', hdigest', haction, -, -⟩ :=
      hreviews sampleTurns [] .verified (some "seen") r rfl hanswer
    exact ⟨analysis, hanalysed, review, hreviewed, hreports, haction, hdocument, hdocument',
      hdigest, hdigest'⟩

end Office

end IdentityDocs
