import IdentityDocs.Worker.Run

/-!
# The worker

A worker accepts jobs at once and works them off later. A worker that was stopped accepts nothing
more. Jobs do not wait for each other; worked off one after the other they come to the same as in
any other order of their steps, as long as they concern different documents and files.
-/

namespace IdentityDocs

/-- A worker. -/
structure Worker where
  pipeline : Pipeline
  /-- Whether results are recorded in the audit log. -/
  audited : Bool
  /-- The numbers that are drawn for the tasks of the runs, by the places of their jobs. Other tasks
  draw numbers as well, and in no particular order, so nothing is known of them. -/
  tickets : Nat → Nat
  /-- The language of documents that are handed in without one. -/
  language : String := defaultLanguage
  /-- Whether the worker has stopped to accept jobs. -/
  stopped : Bool := false
  /-- The accepted jobs, in the order in which they came. -/
  queue : List Job := []

namespace Worker

/-- Hands a job in. -/
def accept (w : Worker) (job : Job) : Except Error Worker :=
  if w.stopped then .error .workerStopped else .ok { w with queue := w.queue ++ [job] }

theorem accept_of_stopped {w : Worker} (h : w.stopped = true) (job : Job) :
    w.accept job = .error .workerStopped :=
  if_pos h

theorem accept_of_not_stopped {w : Worker} (h : ¬ w.stopped = true) (job : Job) :
    w.accept job = .ok { w with queue := w.queue ++ [job] } :=
  if_neg h

/-- Hands a document in, in the worker's language. -/
def submit (w : Worker) (id : DocumentId) (image : Path) (claimed : Option Category) :
    Except Error Worker :=
  w.accept { documentId := id, image, claimed, language := w.language }

/-- Stops the worker at once; what it has not begun is dropped. -/
def stop (w : Worker) : Worker := { w with stopped := true, queue := [] }

/-- The runs that the accepted jobs become. -/
def runs (w : Worker) : List Run :=
  w.queue.zipIdx.map fun (job, i) => { ticket := w.tickets i, job }

/-- Takes runs to their ends, one after the other. -/
def finishAll (w : Worker) : List Run → World → List Run × World
  | [], world => ([], world)
  | run :: rest, world =>
    let (run, world) := run.finish w.pipeline w.audited world
    let (rest, world) := finishAll w rest world
    (run :: rest, world)

/-- Works all accepted jobs off. -/
def drain (w : Worker) (world : World) : List Run × World := w.finishAll w.runs world

end Worker

end IdentityDocs
