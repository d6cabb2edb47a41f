import IdentityDocs.Proofs.Analysis.Confidence
import IdentityDocs.Proofs.Records.Failure
import IdentityDocs.Services.Desk

/-!
# How a registration ends

An image that is handed in shows in two places: as a row of the record store, and as a job in the
queue of the worker. The row comes first, so a worker that refuses the job would leave a row that
says forever that it is being analysed. The desk then stores a failed analysis, and the guard of the
store admits it, because the row was entered just before (`Table.update_append_fresh`).

`Desk.EndsAs` lists the five ways in which a registration may end. Each ends in exactly one of them,
and whatever is handed in, while workers come and go, the new rows in processing are, one by one,
those of the jobs that were queued: `Desk.registration_leaves_no_orphan`.
-/

namespace IdentityDocs

/-! ## Rows that were just entered -/

namespace Table

variable {t : Table} {id : DocumentId}

/-- A change of a document that had no row is a change of the row that was just entered. -/
theorem onDocument_append_fresh (hfree : t.has id = false) {row : Row} (hid : row.id = id.text)
    (change : Row → Row) : (t ++ [row]).onDocument id.text change = t ++ [change row] := by
  have hrest : t.onDocument id.text change = t :=
    onDocument_of_not_has (by rw [hfree]; exact Bool.false_ne_true)
  calc (t ++ [row]).onDocument id.text change
      = t.onDocument id.text change ++ [change row] := by simp [onDocument, hid]
    _ = t ++ [change row] := by rw [hrest]

theorem update_append_fresh (hfree : t.has id = false) {row : Row} (hid : row.id = id.text)
    {r : AnalysisResult} (hr : r.confidence.isNaN = false) (now : Instant) :
    (t ++ [row]).update id r now = .ok (t ++ [row.analysed r now]) := by
  have hhas : (t ++ [row] : Table).has id = true := has_iff.2 ⟨row, by simp, hid⟩
  rw [update_eq, if_pos hhas, hr, Bool.false_and, onDocument_append_fresh hfree hid]
  rfl

end Table

/-- A record that the store takes becomes the last row, and its document had none before. -/
theorem Store.exists_table_of_insert {s s' : Store} {r : DocumentRecord} (h : s.insert r = .ok s') :
    ∃ t, s.table = some t ∧ t.has r.id = false ∧ s' = ⟨some (t ++ [.ofRecord r])⟩ := by
  obtain ⟨table⟩ := s
  cases table with
  | none => cases h
  | some t =>
    obtain ⟨t', rfl, hinsert⟩ := change_eq_ok_iff.1 h
    obtain ⟨-, hfree, rfl⟩ := Table.insert_eq_ok_iff.1 hinsert
    exact ⟨t, rfl, hfree, rfl⟩

/-- What is given when an image is handed in. -/
structure Registration where
  id : DocumentId
  image : Path
  owner : String
  kind : DocumentKind
  claimed : Option Category

namespace Registration

/-- The ways in which a registration may end. -/
inductive Ending
  /-- There is no worker. -/
  | noWorker
  /-- The image has no canonical path. -/
  | noImage
  /-- The store refuses the record. -/
  | refused
  /-- The document waits for its analysis. -/
  | queued
  /-- The worker has stopped, and the document waits for a reviewer. -/
  | stranded

variable (g : Registration)

/-- The record that is entered of an image with the given canonical path. -/
def record (image : Path) (now : Instant) : DocumentRecord :=
  Desk.recordOf g.id image g.owner g.kind now

/-- The job that a worker is given. -/
def job (worker : Worker) (image : Path) : Job where
  documentId := g.id
  image
  claimed := g.claimed
  language := worker.language

/-- The columns of a row that are the same for as long as it is there. -/
structure Names (image : Path) (row : Row) : Prop where
  id : row.id = g.id.text
  owner : row.owner = g.owner
  kind : row.kind = Row.choiceText g.kind
  path : row.path = image.text

theorem names_ofRecord (image : Path) (now : Instant) :
    g.Names image (.ofRecord (g.record image now)) :=
  ⟨rfl, rfl, rfl, rfl⟩

end Registration

namespace Desk

/-- The desk after an image was handed in, and the answer. -/
def handIn (d : Desk) (g : Registration) : Desk × Except Error DocumentId :=
  d.register g.id g.image g.owner g.kind g.claimed

/-- The desk with another row at the end of the table, and with the given worker. Besides, only the
clock went on. -/
def Gains (d : Desk) (row : Row) (worker : Worker) (d' : Desk) : Prop :=
  ∃ t now, d.world.store.table = some t ∧
    d' = { d with
      world := { d.world with store := ⟨some (t ++ [row])⟩, now }
      worker := some worker }

/-- What it means that a registration ends in one of these ways. -/
def EndsAs (d : Desk) (g : Registration) (d' : Desk) (answer : Except Error DocumentId) :
    Registration.Ending → Prop
  | .noWorker => d.worker = none ∧ answer = .error .workerStopped ∧ d' = d
  | .noImage => ∃ worker e, d.worker = some worker ∧
      d.world.files.canonicalize g.image = .error e ∧ answer = .error (.file e) ∧ d' = d
  | .refused => ∃ worker image e, d.worker = some worker ∧
      d.world.files.canonicalize g.image = .ok image ∧
      d.world.store.insert (g.record image d.world.later.now) = .error e ∧
      answer = .error e ∧ d' = d
  | .queued => ∃ worker image store row, d.worker = some worker ∧ worker.stopped = false ∧
      d.world.files.canonicalize g.image = .ok image ∧
      d.world.store.insert (g.record image d.world.later.now) = .ok store ∧
      answer = .ok g.id ∧
      d.Gains row { worker with queue := worker.queue ++ [g.job worker image] } d' ∧
      g.Names image row ∧ row.status = Row.statusText .processing ∧ row.confidence = 0.0 ∧
      row.extractedData = none
  | .stranded => ∃ worker image store row, d.worker = some worker ∧ worker.stopped = true ∧
      d.world.files.canonicalize g.image = .ok image ∧
      d.world.store.insert (g.record image d.world.later.now) = .ok store ∧
      answer = .error .workerStopped ∧ d.Gains row worker d' ∧
      g.Names image row ∧ row.status = Row.statusText .pending ∧ row.confidence = 0.0 ∧
      row.comments = some "AI processing failed: analysis worker has shut down"

/-! ## One registration -/

/-- The way in which a registration ends. -/
def ending (d : Desk) (g : Registration) : Registration.Ending :=
  match d.worker with
  | none => .noWorker
  | some worker => match d.world.files.canonicalize g.image with
    | .error _ => .noImage
    | .ok image => match d.world.store.insert (g.record image d.world.later.now) with
      | .error _ => .refused
      | .ok _ => if worker.stopped then .stranded else .queued

variable {d d' : Desk} {g : Registration}

theorem EndsAs.ending_eq {answer : Except Error DocumentId} {ending : Registration.Ending}
    (h : d.EndsAs g d' answer ending) : ending = d.ending g := by
  cases ending with
  | noWorker =>
    obtain ⟨hworker, -, -⟩ := h
    simp only [Desk.ending, hworker]
  | noImage =>
    obtain ⟨worker, e, hworker, himage, -, -⟩ := h
    simp only [Desk.ending, hworker, himage]
  | refused =>
    obtain ⟨worker, image, e, hworker, himage, hinsert, -, -⟩ := h
    simp only [Desk.ending, hworker, himage, hinsert]
  | queued =>
    obtain ⟨worker, image, store, row, hworker, hstopped, himage, hinsert, -⟩ := h
    simp only [Desk.ending, hworker, himage, hinsert, hstopped, Bool.false_eq_true, if_false]
  | stranded =>
    obtain ⟨worker, image, store, row, hworker, hstopped, himage, hinsert, -⟩ := h
    simp only [Desk.ending, hworker, himage, hinsert, hstopped, if_true]

theorem confidence_ofRecord (g : Registration) (image : Path) (now : Instant) :
    (Row.ofRecord (g.record image now)).confidence = 0.0 :=
  ite_self 0.0

/-- What a failed analysis makes of a row that was just entered. -/
theorem analysed_failed (g : Registration) (image : Path) (now later : Instant) :
    let row := (Row.ofRecord (g.record image now)).analysed (.failed Error.workerStopped.message)
      later
    g.Names image row ∧ row.status = Row.statusText .pending ∧ row.confidence = 0.0 ∧
      row.comments = some "AI processing failed: analysis worker has shut down" := by
  have hproc : (Row.ofRecord (g.record image now)).Processing := rfl
  simp only [Row.analysed, if_pos ((Row.admits_processing _).2 hproc)]
  refine ⟨⟨rfl, rfl, rfl, rfl⟩, rfl, ?_, ?_⟩
  · exact ite_self 0.0
  · decide

section Taken

variable {worker : Worker} {image : Path} {store : Store}
  (hworker : d.worker = some worker) (himage : d.world.files.canonicalize g.image = .ok image)
  (hinsert : d.world.store.insert (g.record image d.world.later.now) = .ok store)

include hworker himage hinsert

/-- Once the record is entered, a worker that accepts jobs is given one. -/
theorem endsAs_queued (hstopped : worker.stopped = false) :
    d.EndsAs g (d.handIn g).1 (d.handIn g).2 .queued := by
  have htaken : d.world.later.store.insert
      (recordOf g.id image g.owner g.kind d.world.later.now) = .ok store := hinsert
  obtain ⟨t, ht, -, rfl⟩ := Store.exists_table_of_insert hinsert
  have hsubmit : worker.submit g.id image g.claimed =
      .ok { worker with queue := worker.queue ++ [g.job worker image] } :=
    Worker.accept_of_not_stopped (by rw [hstopped]; exact Bool.false_ne_true) _
  simp only [handIn, register, hworker, himage, htaken, hsubmit]
  exact ⟨worker, image, _, _, hworker, hstopped, himage, hinsert, rfl, ⟨t, _, ht, rfl⟩,
    g.names_ofRecord image _, rfl, confidence_ofRecord g image _, rfl⟩

/-- Once the record is entered, a worker that has stopped leaves it to a reviewer. -/
theorem endsAs_stranded (hstopped : worker.stopped = true) :
    d.EndsAs g (d.handIn g).1 (d.handIn g).2 .stranded := by
  have htaken : d.world.later.store.insert
      (recordOf g.id image g.owner g.kind d.world.later.now) = .ok store := hinsert
  obtain ⟨t, ht, hfree, rfl⟩ := Store.exists_table_of_insert hinsert
  have hsubmit : worker.submit g.id image g.claimed = .error .workerStopped :=
    Worker.accept_of_stopped hstopped _
  -- the failed analysis is stored in the row that was just entered
  have hupdate (w : World) (row : Row) (hid : row.id = g.id.text)
      (hstore : w.store = ⟨some (t ++ [row])⟩) :
      w.store.update g.id (.failed Error.workerStopped.message) w.now =
        .ok ⟨some (t ++ [row.analysed (.failed Error.workerStopped.message) w.now])⟩ := by
    have hnumber := AnalysisResult.isNaN_failed Error.workerStopped.message
    have hfresh : t.has g.id = false := hfree
    simp only [hstore, Store.update, Store.change,
      Table.update_append_fresh hfresh hid hnumber]
  obtain ⟨hnames, hstatus, hconfidence, hcomments⟩ :=
    analysed_failed g image d.world.later.now d.world.later.later.now
  simp only [handIn, register, hworker, himage, htaken, hsubmit]
  rw [hupdate _ _ rfl rfl]
  exact ⟨worker, image, _, _, hworker, hstopped, himage, hinsert, rfl, ⟨t, _, ht, rfl⟩,
    hnames, hstatus, hconfidence, hcomments⟩

end Taken

theorem endsAs_ending (d : Desk) (g : Registration) :
    d.EndsAs g (d.handIn g).1 (d.handIn g).2 (d.ending g) := by
  cases hworker : d.worker with
  | none =>
    simp only [ending, handIn, register, hworker]
    exact ⟨hworker, rfl, rfl⟩
  | some worker =>
    cases himage : d.world.files.canonicalize g.image with
    | error e =>
      simp only [ending, handIn, register, hworker, himage]
      exact ⟨worker, e, hworker, himage, rfl, rfl⟩
    | ok image =>
      cases hinsert : d.world.store.insert (g.record image d.world.later.now) with
      | error e =>
        have hrefused : d.world.later.store.insert
            (recordOf g.id image g.owner g.kind d.world.later.now) = .error e := hinsert
        simp only [ending, handIn, register, hworker, himage, hinsert, hrefused]
        exact ⟨worker, image, e, hworker, himage, hinsert, rfl, rfl⟩
      | ok store =>
        cases hstopped : worker.stopped with
        | false =>
          have hends := endsAs_queued hworker himage hinsert hstopped
          rwa [hends.ending_eq] at hends
        | true =>
          have hends := endsAs_stranded hworker himage hinsert hstopped
          rwa [hends.ending_eq] at hends

/-! ## Many registrations -/

/-- What can happen to a desk at which images are handed in. -/
inductive Event
  /-- An image is handed in. -/
  | handIn (g : Registration)
  /-- A worker is started in place of the one that may be there. -/
  | start (pipeline : Pipeline) (tickets : Nat → Nat)
  /-- The worker is stopped at once. -/
  | stop

/-- The desk after an event. -/
def after (d : Desk) : Event → Desk
  | .handIn g => (d.handIn g).1
  | .start pipeline tickets => d.startWith pipeline tickets
  | .stop => { d with worker := d.worker.map Worker.stop }

/-- The desk after events, one after the other. -/
def afterAll (d : Desk) (events : List Event) : Desk := events.foldl after d

/-- The jobs that wait for the worker. -/
def queue (d : Desk) : List Job := d.worker.elim [] Worker.queue

/-- The jobs that an event adds to the queue. -/
def queuedBy (d : Desk) : Event → List Job
  | .handIn g => (d.handIn g).1.queue.drop d.queue.length
  | .start .. | .stop => []

/-- The jobs that are queued in a history. -/
def queued : Desk → List Event → List Job
  | _, [] => []
  | d, e :: events => d.queuedBy e ++ queued (d.after e) events

/-- The rows of documents that are being analysed. -/
def processing (rows : List Row) : List Row :=
  rows.filter fun row => row.status = Row.statusText .processing

/-- The new rows in processing are, one by one, those of the new jobs. -/
def Matches (rows : List Row) (jobs : List Job) : Prop :=
  (processing rows).map (fun row => (row.id, row.path)) =
    jobs.map fun job => (job.documentId.text, job.image.text)

theorem Matches.append {rows more : List Row} {jobs others : List Job} (h : Matches rows jobs)
    (h' : Matches more others) : Matches (rows ++ more) (jobs ++ others) := by
  unfold Matches processing at *
  rw [List.filter_append, List.map_append, h, h', List.map_append]

/-- What a registration does to the table and to the queue: nothing, or it enters a row, which is in
processing just if the job is queued. -/
theorem EndsAs.effect {answer : Except Error DocumentId} {ending : Registration.Ending}
    (h : d.EndsAs g d' answer ending) :
    d' = d ∨ ∃ t row, d.world.store.table = some t ∧ d'.world.store.table = some (t ++ [row]) ∧
      ((∃ worker image, d'.queue = d.queue ++ [g.job worker image] ∧ g.Names image row ∧
          row.status = Row.statusText .processing) ∨
        (d'.queue = d.queue ∧ row.status = Row.statusText .pending)) := by
  cases ending with
  | noWorker =>
    obtain ⟨-, -, hd⟩ := h
    exact .inl hd
  | noImage =>
    obtain ⟨worker, e, -, -, -, hd⟩ := h
    exact .inl hd
  | refused =>
    obtain ⟨worker, image, e, -, -, -, -, hd⟩ := h
    exact .inl hd
  | queued =>
    obtain ⟨worker, image, store, row, hworker, -, -, -, -, ⟨t, now, ht, rfl⟩, hnames, hstatus, -⟩ :=
      h
    refine .inr ⟨t, row, ht, rfl, .inl ⟨worker, image, ?_, hnames, hstatus⟩⟩
    simp only [queue, hworker, Option.elim_some]
  | stranded =>
    obtain ⟨worker, image, store, row, hworker, -, -, -, -, ⟨t, now, ht, rfl⟩, -, hstatus, -⟩ := h
    refine .inr ⟨t, row, ht, rfl, .inr ⟨?_, hstatus⟩⟩
    simp only [queue, hworker, Option.elim_some]

/-- The rows in processing that an event enters are those of the jobs that it queues. -/
theorem matches_after (d : Desk) (e : Event) :
    ∃ rows, (d.after e).world.store.table = d.world.store.table.map (· ++ rows) ∧
      Matches rows (d.queuedBy e) := by
  have hsame : d.world.store.table = d.world.store.table.map (· ++ []) := by simp
  cases e with
  | start pipeline tickets => exact ⟨[], hsame, rfl⟩
  | stop => exact ⟨[], hsame, rfl⟩
  | handIn g =>
    rcases (endsAs_ending d g).effect with hd | ⟨t, row, ht, ht', heffect⟩
    · refine ⟨[], by rwa [after, hd], ?_⟩
      rw [queuedBy, hd, List.drop_length]
      rfl
    · refine ⟨[row], by rw [after, ht', ht, Option.map_some], ?_⟩
      rcases heffect with ⟨worker, image, hqueue, hnames, hstatus⟩ | ⟨hqueue, hstatus⟩
      · rw [queuedBy, hqueue, List.drop_left]
        simp [Matches, processing, hstatus, hnames.id, hnames.path, Registration.job]
      · rw [queuedBy, hqueue, List.drop_length]
        simp [Matches, processing, hstatus]

theorem matches_afterAll (events : List Event) : ∀ d : Desk,
    ∃ rows, (d.afterAll events).world.store.table = d.world.store.table.map (· ++ rows) ∧
      Matches rows (d.queued events) := by
  induction events with
  | nil => exact fun d => ⟨[], by simp [afterAll], rfl⟩
  | cons e events ih =>
    intro d
    obtain ⟨rows, hrows, hmatch⟩ := d.matches_after e
    obtain ⟨more, hmore, hmatch'⟩ := ih (d.after e)
    refine ⟨rows ++ more, ?_, hmatch.append hmatch'⟩
    have hafter : d.afterAll (e :: events) = (d.after e).afterAll events := rfl
    rw [hafter, hmore, hrows, Option.map_map]
    congr 1
    funext t
    exact List.append_assoc ..

/-- **A registration leaves no orphan in processing.** Whatever the state of a desk, a registration
ends in exactly one of five ways. And whatever is handed in, while workers are started and stopped,
the rows that are entered are appended to the table, and those of them that are in processing are,
in their order, those of the jobs that were queued. -/
theorem registration_leaves_no_orphan (d : Desk) :
    (∀ g, ∃! ending, d.EndsAs g (d.handIn g).1 (d.handIn g).2 ending) ∧
      ∀ events, ∃ rows,
        (d.afterAll events).world.store.table = d.world.store.table.map (· ++ rows) ∧
        Matches rows (d.queued events) := by
  constructor
  · intro g
    refine ⟨d.ending g, endsAs_ending d g, ?_⟩
    intro ending hends
    exact hends.ending_eq
  · intro events
    exact matches_afterAll events d

end Desk

end IdentityDocs
