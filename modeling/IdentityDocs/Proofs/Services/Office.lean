import IdentityDocs.Proofs.Services.Registration
import IdentityDocs.Proofs.Services.Review
import IdentityDocs.Proofs.Worker.Dispatch

/-!
# A desk and the runs of its workers

Images are handed in and documents are reviewed while runs are under way, and both share the world.
An `Office` is a desk together with the runs of the jobs that were queued at it; a job that has not
been received yet is a run that has taken no turn. Its histories are told event by event:
`Office.entered` lists the entries that they make in the log, and the log grows by these and by
nothing else.

A document keeps its path: every operation of the store leaves that column alone
(`Store.Operation.exists_path_of_mem_effect`), so the record that a review reads back names the path
that was entered when the image was handed in.
-/

namespace IdentityDocs

/-! ## Rows keep their paths -/

namespace Row

theorem path_marked (now : Instant) (row : Row) : (row.marked now).path = row.path := by
  unfold marked
  split <;> rfl

theorem path_analysed (r : AnalysisResult) (now : Instant) (row : Row) :
    (row.analysed r now).path = row.path := by
  unfold analysed
  split <;> rfl

theorem path_reviewed (status : VerificationStatus) (comments : Option String) (now : Instant)
    (row : Row) : (row.reviewed status comments now).path = row.path := by
  unfold reviewed
  split <;> rfl

/-- The path of a record that was read is that of its row. -/
theorem path_of_record {row : Row} {r : DocumentRecord} (h : row.record = .ok r) :
    r.path = .ofText row.path := by
  unfold record at h
  cases hread : row.record? with
  | error column => simp [hread] at h
  | ok r' =>
    obtain rfl : r' = r := by simpa [hread] using h
    simp only [record?, bind, Except.bind, pure, Except.pure] at hread
    repeat' split at hread
    all_goals cases hread
    rfl

end Row

/-- A change of a document that keeps identifiers and paths keeps those of every row. -/
theorem Table.exists_path_of_mem_onDocument {t : Table} {row : Row} {key : String}
    {change : Row → Row} (hid : ∀ row, (change row).id = row.id)
    (hpath : ∀ row, (change row).path = row.path) (h : row ∈ t.onDocument key change) :
    ∃ old ∈ t, old.id = row.id ∧ old.path = row.path := by
  obtain ⟨old, hold, ⟨-, rfl⟩ | ⟨-, rfl⟩⟩ := mem_onDocument h
  · exact ⟨old, hold, (hid old).symm, (hpath old).symm⟩
  · exact ⟨row, hold, rfl, rfl⟩

/-- A row of an effect is that of a record that is entered, or a document had a row with the same
path before. -/
theorem Store.Operation.exists_path_of_mem_effect {op : Operation} {t : Table} {row : Row}
    (h : row ∈ op.effect t) : (∃ r : DocumentRecord, op = .insert r ∧ row = .ofRecord r) ∨
      ∃ old ∈ t, old.id = row.id ∧ old.path = row.path := by
  have hsame : row ∈ t → ∃ old ∈ t, old.id = row.id ∧ old.path = row.path :=
    fun hrow => ⟨row, hrow, rfl, rfl⟩
  cases op with
  | insert r =>
    simp only [effect] at h
    split at h
    · exact .inr (hsame h)
    · rcases List.mem_append.1 h with h | h
      · exact .inr (hsame h)
      · exact .inl ⟨r, rfl, List.mem_singleton.1 h⟩
  | mark id now =>
    exact .inr (Table.exists_path_of_mem_onDocument (Row.id_marked now) (Row.path_marked now) h)
  | update id r now =>
    simp only [effect] at h
    split at h
    · exact .inr (hsame h)
    · exact .inr (Table.exists_path_of_mem_onDocument (Row.id_analysed r now)
        (Row.path_analysed r now) h)
  | review id status comments now =>
    simp only [effect] at h
    split at h
    · exact .inr (Table.exists_path_of_mem_onDocument (Row.id_reviewed status comments now)
        (Row.path_reviewed status comments now) h)
    · exact .inr (hsame h)
  | delete id => exact .inr (hsame (List.mem_filter.1 h).1)
  | get | all | ofOwner | reviewQueue => exact .inr (hsame h)

/-- Every record that is read off rows is that of one of them. -/
theorem Table.exists_of_mem_records {r : DocumentRecord} : ∀ {rows : List Row}
    {rs : List DocumentRecord}, records rows = .ok rs → r ∈ rs →
      ∃ row ∈ rows, row.record = .ok r := by
  intro rows
  induction rows with
  | nil =>
    intro rs hrs hr
    cases hrs
    cases hr
  | cons row rows ih =>
    intro rs hrs hr
    rw [records, List.mapM_cons] at hrs
    cases hrow : row.record with
    | error e => simp [hrow, bind, Except.bind] at hrs
    | ok first =>
      cases hrest : rows.mapM Row.record with
      | error e => simp [hrow, hrest, bind, Except.bind] at hrs
      | ok others =>
        obtain rfl : first :: others = rs := by
          simpa [hrow, hrest, bind, Except.bind, pure, Except.pure] using hrs
        rcases List.mem_cons.1 hr with rfl | hr
        · exact ⟨row, List.mem_cons_self, hrow⟩
        · obtain ⟨row', hmem, hrecord⟩ := ih hrest hr
          exact ⟨row', List.mem_cons_of_mem _ hmem, hrecord⟩

/-- A record that is read comes from a row of its document. -/
theorem Store.exists_row_of_get? {s : Store} {id : DocumentId} {r : DocumentRecord}
    (h : s.get? id = .ok (some r)) :
    ∃ t, s.table = some t ∧ ∃ row ∈ t, row.id = id.text ∧ row.record = .ok r := by
  cases ht : s.table with
  | none => simp [get?, ask, missing, ht] at h
  | some t =>
    simp only [get?, ask, ht, Table.get?] at h
    cases hread : Table.records (t.filter fun row => row.id = id.text) with
    | error e => simp [hread] at h
    | ok rs =>
      have hlast : rs.getLast? = some r := by simpa [hread] using h
      obtain ⟨row, hmem, hrecord⟩ := Table.exists_of_mem_records hread (List.mem_of_getLast? hlast)
      obtain ⟨hrow, hid⟩ := List.mem_filter.1 hmem
      exact ⟨t, rfl, row, hrow, by simpa using hid, hrecord⟩

/-! ## Reviews and registrations -/

namespace Desk

section Reviews

variable (d : Desk) (id : DocumentId) (status : VerificationStatus) (comments : Option String)

/-- What a review comes to: the desk afterwards, and the answer. -/
inductive Reviews : Desk → Except Error DocumentRecord → Prop
  | refused {e : Error} :
    d.world.store.review id status comments d.world.later.now = .error e → Reviews d (.error e)
  /-- The record cannot be read back. -/
  | unread {store : Store} {e : Error} :
    d.world.store.review id status comments d.world.later.now = .ok store →
    Reviews { d with world := { d.world.later with store } } (.error e)
  | unaudited {store : Store} {r : DocumentRecord} :
    d.world.store.review id status comments d.world.later.now = .ok store →
    store.get? id = .ok (some r) → d.settings.auditEnabled = false →
    Reviews { d with world := { d.world.later with store } } (.ok r)
  | audited {store : Store} {r : DocumentRecord} :
    d.world.store.review id status comments d.world.later.now = .ok store →
    store.get? id = .ok (some r) → d.settings.auditEnabled = true →
    Reviews
      { d with world := recordReview { d.world.later with store } r id status comments } (.ok r)

theorem reviews :
    d.Reviews id status comments (d.review id status comments).1
      (d.review id status comments).2 := by
  cases hstore : d.world.store.review id status comments d.world.later.now with
  | error e =>
    have hrefused : d.world.later.store.review id status comments d.world.later.now = .error e :=
      hstore
    simp only [review, hrefused]
    exact .refused hstore
  | ok store =>
    have hadmitted : d.world.later.store.review id status comments d.world.later.now = .ok store :=
      hstore
    simp only [review, hadmitted]
    cases hget : store.get? id with
    | error e =>
      simp only [document, hget]
      exact .unread hstore
    | ok found =>
      cases found with
      | none =>
        simp only [document, hget]
        exact .unread hstore
      | some r =>
        by_cases haudited : d.settings.auditEnabled = true
        · simp only [document, hget, if_pos haudited]
          exact .audited hstore hget haudited
        · simp only [document, hget, if_neg haudited]
          exact .unaudited hstore hget (by simpa using haudited)

/-- What a review enters in the log. -/
def reviewEntries : List Audit.Item :=
  match (d.review id status comments).2 with
  | .ok r =>
    if d.settings.auditEnabled then [reviewItem d.world.later r id status comments] else []
  | .error _ => []

/-- To the store a review is an operation like others. -/
theorem store_review :
    (d.review id status comments).1.world.store =
      d.world.store.after (.review id status comments d.world.later.now) := by
  have h := d.reviews id status comments
  generalize d.review id status comments = done at h
  obtain ⟨d', answer⟩ := done
  cases h with
  | refused hstore | unread hstore | unaudited hstore =>
    simp only [Store.after, Store.Operation.run, hstore]
  | audited hstore =>
    rw [recordReview_eq]
    simp only [Store.after, Store.Operation.run, hstore, World.store_later]

theorem items_review :
    (d.review id status comments).1.world.log.items =
      d.world.log.items.map (· ++ d.reviewEntries id status comments) := by
  have hsame : d.world.log.items = d.world.log.items.map (· ++ []) := by simp
  have h := d.reviews id status comments
  unfold reviewEntries
  generalize d.review id status comments = done at h
  obtain ⟨d', answer⟩ := done
  cases h with
  | refused | unread => exact hsame
  | unaudited _ _ haudited =>
    simp only [haudited, Bool.false_eq_true, if_false]
    exact hsame
  | audited _ _ haudited =>
    rw [recordReview_eq]
    simp only [haudited, if_true]
    rfl

/-- A review is answered with the record as it is read back. -/
theorem get?_of_review_ok {r : DocumentRecord} (hr : (d.review id status comments).2 = .ok r) :
    (d.review id status comments).1.world.store.get? id = .ok (some r) := by
  have h := d.reviews id status comments
  generalize d.review id status comments = done at h hr
  obtain ⟨d', answer⟩ := done
  obtain rfl : answer = .ok r := hr
  cases h with
  | unaudited _ hread => exact hread
  | audited _ hread =>
    rw [recordReview_eq]
    exact hread

end Reviews

/-- What an image being handed in comes to: nothing, or a new row, and a job if the worker has not
stopped. -/
inductive HandsIn (d : Desk) (g : Registration) : Prop
  | nothing : (d.handIn g).1 = d → HandsIn d g
  | row {worker worker' : Worker} {image : Path} {t : Table} {row : Row} {now : Instant} :
    d.worker = some worker → d.world.files.canonicalize g.image = .ok image →
    d.world.store.table = some t → t.has g.id = false → g.Names image row →
    (d.handIn g).1 = { d with
      world := { d.world with store := ⟨some (t ++ [row])⟩, now }
      worker := some worker' } →
    (worker'.queue = worker.queue ∨ worker'.queue = worker.queue ++ [g.job worker image]) →
    HandsIn d g

theorem handsIn (d : Desk) (g : Registration) : d.HandsIn g := by
  have hends := endsAs_ending d g
  generalize d.ending g = ending at hends
  cases ending with
  | noWorker =>
    obtain ⟨-, -, hd⟩ := hends
    exact .nothing hd
  | noImage =>
    obtain ⟨worker, e, -, -, -, hd⟩ := hends
    exact .nothing hd
  | refused =>
    obtain ⟨worker, image, e, -, -, -, -, hd⟩ := hends
    exact .nothing hd
  | queued =>
    obtain ⟨worker, image, store, row, hworker, -, himage, hinsert, -, ⟨t, now, ht, hd⟩, hnames,
      -⟩ := hends
    obtain ⟨t', ht', hfree, -⟩ := Store.exists_table_of_insert hinsert
    obtain rfl : t = t' := Option.some.inj (ht.symm.trans ht')
    exact .row hworker himage ht hfree hnames hd (.inr rfl)
  | stranded =>
    obtain ⟨worker, image, store, row, hworker, -, himage, hinsert, -, ⟨t, now, ht, hd⟩, hnames,
      -⟩ := hends
    obtain ⟨t', ht', hfree, -⟩ := Store.exists_table_of_insert hinsert
    obtain rfl : t = t' := Option.some.inj (ht.symm.trans ht')
    exact .row hworker himage ht hfree hnames hd (.inl rfl)

/-- What happens where images are handed in leaves the files, the log and the settings alone. -/
theorem after_frame (d : Desk) (e : Event) :
    (d.after e).world.files = d.world.files ∧ (d.after e).world.log = d.world.log ∧
      (d.after e).settings = d.settings := by
  cases e with
  | start | stop => exact ⟨rfl, rfl, rfl⟩
  | handIn g =>
    cases d.handsIn g with
    | nothing hd =>
      rw [after, hd]
      exact ⟨rfl, rfl, rfl⟩
    | row _ _ _ _ _ hd _ =>
      rw [after, hd]
      exact ⟨rfl, rfl, rfl⟩

theorem saveSettings_frame (d : Desk) (s : Settings) :
    (d.saveSettings s).1.world.store = d.world.store ∧
      (d.saveSettings s).1.world.log = d.world.log := by
  unfold saveSettings
  split
  · exact ⟨rfl, rfl⟩
  · split <;> exact ⟨rfl, rfl⟩

end Desk

/-! ## Histories -/

/-- A run with what it has from the worker that its job was handed to. -/
structure Task where
  pipeline : Pipeline
  audited : Bool
  run : Run

/-- The runs that jobs become at a worker after a number of others. -/
def Worker.tasksFrom (worker : Worker) (n : Nat) (jobs : List Job) : List Task :=
  (Worker.runsFrom worker.tickets n jobs).map fun run => ⟨worker.pipeline, worker.audited, run⟩

/-- A desk, and the runs of the jobs that were queued at it. -/
structure Office where
  desk : Desk
  tasks : List Task := []

namespace Office

/-- What can happen next. -/
inductive Event
  /-- Something happens where images are handed in. -/
  | desk (e : Desk.Event)
  /-- Somebody decides on a document. -/
  | review (id : DocumentId) (status : VerificationStatus) (comments : Option String)
  /-- Other settings are kept. -/
  | settings (s : Settings)
  /-- The run in a place takes its next step. -/
  | turn (i : Nat)
  /-- Somebody calls the store. -/
  | call (op : Store.Operation)
  /-- Somebody changes the files. -/
  | change (files : FileSystem)

/-- The office after the run in a place took its next step. -/
def turn (o : Office) (i : Nat) : Office :=
  match o.tasks[i]? with
  | some task =>
    let (run, world) := task.run.step task.pipeline task.audited o.desk.world
    { desk := { o.desk with world }, tasks := o.tasks.set i { task with run } }
  | none => o

/-- The runs of the jobs that an event adds to the queue. -/
def queuedBy (o : Office) (e : Desk.Event) : List Task :=
  o.desk.worker.elim [] fun worker => worker.tasksFrom o.tasks.length (o.desk.queuedBy e)

/-- The office after an event. -/
def after (o : Office) : Event → Office
  | .desk e => { desk := o.desk.after e, tasks := o.tasks ++ o.queuedBy e }
  | .review id status comments => { o with desk := (o.desk.review id status comments).1 }
  | .settings s => { o with desk := (o.desk.saveSettings s).1 }
  | .turn i => o.turn i
  | .call op =>
    { o with desk := { o.desk with
      world := { o.desk.world with store := o.desk.world.store.after op } } }
  | .change files => { o with desk := { o.desk with world := { o.desk.world with files } } }

/-- The office after events, one after the other. -/
def afterAll (o : Office) (events : List Event) : Office := events.foldl after o

/-- What an event enters in the log. -/
def enteredBy (o : Office) : Event → List Audit.Item
  | .turn i => match o.tasks[i]? with
    | some task => task.run.entries task.audited o.desk.world.later.now
    | none => []
  | .review id status comments => o.desk.reviewEntries id status comments
  | .desk _ | .settings _ | .call _ | .change _ => []

/-- What a history enters in the log. -/
def entered : Office → List Event → List Audit.Item
  | _, [] => []
  | o, e :: events => o.enteredBy e ++ entered (o.after e) events

@[simp] theorem afterAll_nil (o : Office) : o.afterAll [] = o := rfl

@[simp] theorem afterAll_cons (o : Office) (e : Event) (events : List Event) :
    o.afterAll (e :: events) = (o.after e).afterAll events := rfl

theorem entered_append (events more : List Event) : ∀ o : Office,
    o.entered (events ++ more) = o.entered events ++ (o.afterAll events).entered more := by
  induction events with
  | nil => exact fun _ => rfl
  | cons e events ih =>
    intro o
    rw [List.cons_append, entered, ih, entered, List.append_assoc]
    rfl

variable {o : Office} {i j : Nat} {task : Task}

theorem turn_of_some (h : o.tasks[i]? = some task) :
    o.turn i =
      { desk := { o.desk with
          world := (task.run.step task.pipeline task.audited o.desk.world).2 }
        tasks := o.tasks.set i
          { task with run := (task.run.step task.pipeline task.audited o.desk.world).1 } } := by
  simp only [turn, h]

theorem turn_of_none (h : o.tasks[i]? = none) : o.turn i = o := by simp only [turn, h]

theorem items_after (o : Office) (e : Event) :
    (o.after e).desk.world.log.items = o.desk.world.log.items.map (· ++ o.enteredBy e) := by
  have hsame : o.desk.world.log.items = o.desk.world.log.items.map (· ++ []) := by simp
  cases e with
  | desk e =>
    obtain ⟨-, hlog, -⟩ := o.desk.after_frame e
    simp only [after, enteredBy, hlog]
    exact hsame
  | review id status comments => exact o.desk.items_review id status comments
  | settings s =>
    simp only [after, enteredBy, (o.desk.saveSettings_frame s).2]
    exact hsame
  | turn i =>
    cases htask : o.tasks[i]? with
    | none =>
      simp only [after, enteredBy, turn_of_none htask, htask]
      exact hsame
    | some task => simp only [after, enteredBy, turn_of_some htask, htask, Run.items_step]
  | call | change => exact hsame

/-- The log grows by the entries of the history and by nothing else. -/
theorem items_afterAll (events : List Event) : ∀ o : Office,
    (o.afterAll events).desk.world.log.items =
      o.desk.world.log.items.map (· ++ o.entered events) := by
  induction events with
  | nil => simp [entered]
  | cons e events ih =>
    intro o
    rw [afterAll_cons, ih, items_after, Option.map_map, entered]
    congr 1
    funext items
    exact List.append_assoc ..

end Office

end IdentityDocs
