import IdentityDocs.Audit.Log
import IdentityDocs.Fingerprint.File
import IdentityDocs.Pipeline.Conclusion
import IdentityDocs.Records.Store

/-!
# Runs of a worker

A worker makes one run for each job that it accepted. A run marks the document, takes the
fingerprint of the image, analyses the image stage by stage, stores the result, and records it in
the audit log. Runs share the files, the record store and the log, and between two steps of a run
any others may take theirs. A run never stops short: what the store or the log refuses is passed
over, and a breakdown of the recognizer becomes a failed result.
-/

namespace IdentityDocs

/-- What all parts of the system share. -/
structure World where
  files : FileSystem
  store : Store
  log : Audit.Log
  /-- The time. -/
  now : Instant

/-- The nanoseconds that pass between two looks at the clock. -/
def World.tick : Nat := 1000

/-- The world after a look at the clock. -/
def World.later (w : World) : World := { w with now := w.now.later World.tick }

/-- How far a run has come. -/
inductive Phase
  | queued
  | marked
  | analysing (fingerprint : Option String) (stage : Stage)
  | concluded (fingerprint : Option String) (result : AnalysisResult)
  | stored (fingerprint : Option String) (result : AnalysisResult)
  | finished

/-- A run. -/
structure Run where
  /-- The number that was drawn for the task of the run. -/
  ticket : Nat
  job : Job
  phase : Phase := .queued
  /-- The question that was put to the recognizer. -/
  inquiry : Option Inquiry := none

/-- The note on a run whose recognizer broke down. It tells the number of the task. -/
def breakdownNote (ticket : Nat) (message : String) : String :=
  s!"analysis task aborted (task {ticket} panicked with message {Text.quoted message})"

namespace Audit

/-- What the log says of a result: the action, whether it succeeded, and the details. -/
def describe (r : AnalysisResult) : Action × Bool × String :=
  match r.outcome with
  | .completed =>
    (.analysisCompleted, true, s!"{r.category.label} {r.percent} {r.status.name}")
  | .failed => (.analysisFailed, false, r.notes)

end Audit

namespace Run

/-- The fingerprint of a document: that of its image or, if the image cannot be read, the
identifier. -/
def fingerprintOf (files : FileSystem) (id : DocumentId) (image : Path) : String :=
  match fingerprint files image with
  | .ok digest => digest
  | .error _ => id.text

/-- The world in which the document is marked, if the store admits it. -/
def mark (run : Run) (w : World) : World :=
  let w := w.later
  match w.store.mark run.job.documentId w.now with
  | .ok store => { w with store }
  | .error _ => w

/-- The world in which the result is stored, if the store admits it. -/
def save (run : Run) (result : AnalysisResult) (w : World) : World :=
  let w := w.later
  match w.store.update run.job.documentId result w.now with
  | .ok store => { w with store }
  | .error _ => w

/-- The world in which the result is recorded in the log. -/
def recordResult (run : Run) (fingerprint : Option String) (result : AnalysisResult) (w : World) :
    World :=
  let w := w.later
  let (action, success, details) := Audit.describe result
  match w.log.record action.name run.job.documentId
      (fingerprint.getD run.job.documentId.text) success (some details) w.now with
  | .ok log => { w with log }
  | .error _ => w

/-- The phase after the analysis came to its end. After a breakdown the fingerprint is lost. -/
def concludedPhase (run : Run) (fingerprint : Option String) :
    Except String AnalysisResult → Phase
  | .ok result => .concluded fingerprint result
  | .error message => .concluded none (.failed (breakdownNote run.ticket message))

/-- Takes a run one step further. -/
def step (p : Pipeline) (audited : Bool) (run : Run) (w : World) : Run × World :=
  match run.phase with
  | .queued => ({ run with phase := .marked }, run.mark w)
  | .marked =>
    let digest :=
      if audited then some (fingerprintOf w.files run.job.documentId run.job.image) else none
    ({ run with phase := .analysing digest .begun }, w)
  | .analysing digest stage => match stage.conclusion? run.job.claimed with
    | some conclusion =>
      ({ run with phase := run.concludedPhase digest conclusion, inquiry := stage.inquiry? }, w)
    | none =>
      let (files, stage) := p.step run.job w.files stage
      ({ run with phase := .analysing digest stage }, { w with files })
  | .concluded digest result => ({ run with phase := .stored digest result }, run.save result w)
  | .stored digest result =>
    ({ run with phase := .finished }, if audited then run.recordResult digest result w else w)
  | .finished => (run, w)

/-- Takes a run a number of steps further. -/
def advance (p : Pipeline) (audited : Bool) : (steps : Nat) → Run × World → Run × World
  | 0, state => state
  | n + 1, (run, w) => advance p audited n (run.step p audited w)

/-- The number of steps after which every run is over. -/
def stepCount : Nat := Pipeline.stageCount + 5

/-- Takes a run to its end. -/
def finish (p : Pipeline) (audited : Bool) (run : Run) (w : World) : Run × World :=
  advance p audited stepCount (run, w)

end Run

end IdentityDocs
