import IdentityDocs.Audit.File
import IdentityDocs.Image.Format
import IdentityDocs.Records.File
import IdentityDocs.Worker.Basic

/-!
# The desk

The desk is where documents are handed in, looked up and reviewed. It holds the databases and the
settings, and it owns the worker. A desk either has a data directory, in which all of that is kept,
or forgets everything when it closes.
-/

namespace IdentityDocs

/-- A desk. -/
structure Desk where
  world : World
  /-- Where the databases and the settings are kept, if they are. -/
  directory : Option Path
  settings : Settings
  worker : Option Worker := none

namespace Desk

/-- The name of the file of the record store. -/
def documentsFile : Path := .ofText "documents.db"

/-- The name of the file of the audit log. -/
def auditFile : Path := .ofText "audit.db"

/-- The name of the file of the settings. -/
def settingsFile : Path := .ofText "config.json"

/-- The settings that are kept in a data directory; the defaults if there are none, or none that can
be read. -/
def loadSettings (files : FileSystem) (directory : Path) : Settings :=
  match files.read (directory.join settingsFile) with
  | .ok bytes => ((Text.decode? bytes).bind Settings.ofText?).getD {}
  | .error _ => {}

/-- Opens the desk of a data directory. -/
def load (files : FileSystem) (directory : Path) (now : Instant) : FileSystem × Except Error Desk :=
  match Store.load files (directory.join documentsFile) with
  | (files, .error e) => (files, .error e)
  | (files, .ok store) => match Audit.Log.load files (directory.join auditFile) with
    | (files, .error e) => (files, .error e)
    | (files, .ok log) =>
      (files, .ok
        { world := { files, store, log, now }
          directory := some directory
          settings := loadSettings files directory })

/-- A desk that forgets everything when it closes. -/
def forgetful (files : FileSystem) (settings : Settings) (now : Instant) : Desk where
  world := { files, store := .empty, log := .empty, now }
  directory := none
  settings := settings

/-- The files after the desk has closed. -/
def close (d : Desk) : FileSystem :=
  match d.directory with
  | none => d.world.files
  | some directory =>
    let files := Store.form.save d.world.files (directory.join documentsFile) d.world.store
    Audit.Log.form.save files (directory.join auditFile) d.world.log

/-! ## Analyses -/

/-- Starts a worker that analyses as a pipeline says, in place of the one that may be there. For its
tasks the given numbers are drawn. -/
def startWith (d : Desk) (pipeline : Pipeline) (tickets : Nat → Nat) : Desk :=
  let worker : Worker :=
    { pipeline, audited := d.settings.auditEnabled, tickets, language := d.settings.language }
  { d with worker := some worker }

/-- Starts a worker that analyses as the settings say, unless there is one. -/
def start (d : Desk) (platform : Platform) : Except Error Desk :=
  match d.worker with
  | some _ => .ok d
  | none => match Pipeline.ofSettings platform d.settings with
    | .ok pipeline => .ok (d.startWith pipeline platform.tickets)
    | .error e => .error e

/-- The record of an image that is handed in. -/
def recordOf (id : DocumentId) (image : Path) (owner : String) (kind : DocumentKind)
    (now : Instant) : DocumentRecord :=
  .fresh id owner kind image (Text.decodeLossy (image.fileName?.getD []))
    ((ImageFormat.ofPath? image).map ImageFormat.mimeType) now

/-- Hands an image in under a new identifier. The record is there before the job is queued; if the
job is refused, the record is left to a reviewer. -/
def register (d : Desk) (id : DocumentId) (image : Path) (owner : String) (kind : DocumentKind)
    (claimed : Option Category) : Desk × Except Error DocumentId :=
  match d.worker with
  | none => (d, .error .workerStopped)
  | some worker => match d.world.files.canonicalize image with
    | .error e => (d, .error (.file e))
    | .ok image =>
      let world := d.world.later
      match world.store.insert (recordOf id image owner kind world.now) with
      | .error e => (d, .error e)
      | .ok store =>
        let world := { world with store }
        match worker.submit id image claimed with
        | .ok worker => ({ d with world, worker := some worker }, .ok id)
        | .error e =>
          let world := world.later
          let world := match world.store.update id (.failed e.message) world.now with
            | .ok store => { world with store }
            | .error _ => world
          ({ d with world }, .error e)

/-- Works all jobs off and lets the worker go; also answers with the runs. -/
def finish (d : Desk) : Desk × List Run :=
  match d.worker with
  | none => (d, [])
  | some worker =>
    let (runs, world) := worker.drain d.world
    ({ d with world, worker := none }, runs)

/-! ## Records -/

/-- The record of a document. -/
def document (d : Desk) (id : DocumentId) : Except Error DocumentRecord :=
  match d.world.store.get? id with
  | .ok (some r) => .ok r
  | .ok none => .error (.documentNotFound id)
  | .error e => .error e

/-- All records, or those of an owner, the newest first. -/
def documents (d : Desk) : Option String → Except Error (List DocumentRecord)
  | some owner => d.world.store.ofOwner owner
  | none => d.world.store.all

/-- The records that wait for a reviewer, the newest first. -/
def reviewQueue (d : Desk) : Except Error (List DocumentRecord) := d.world.store.reviewQueue

/-- What the log says of a review. -/
def reviewDetails (status : VerificationStatus) : Option String → String
  | some comment => s!"{status.name}: {comment}"
  | none => status.name

/-- The world in which a review is recorded in the log. -/
def recordReview (w : World) (r : DocumentRecord) (id : DocumentId) (status : VerificationStatus)
    (comment : Option String) : World :=
  let w := w.later
  match w.log.record Audit.Action.review.name id (Run.fingerprintOf w.files id r.path) true
      (some (reviewDetails status comment)) w.now with
  | .ok log => { w with log }
  | .error _ => w

/-- Stores and records the decision of a reviewer, and answers with the record. -/
def review (d : Desk) (id : DocumentId) (status : VerificationStatus) (comment : Option String) :
    Desk × Except Error DocumentRecord :=
  let world := d.world.later
  match world.store.review id status comment world.now with
  | .error e => (d, .error e)
  | .ok store =>
    let d := { d with world := { world with store } }
    match d.document id with
    | .error e => (d, .error e)
    | .ok r =>
      if d.settings.auditEnabled then
        ({ d with world := recordReview d.world r id status comment }, .ok r)
      else (d, .ok r)

/-! ## Settings -/

/-- Keeps new settings, in the data directory if there is one; they count from the next worker
on. -/
def saveSettings (d : Desk) (s : Settings) : Desk × Except Error Unit :=
  match d.directory with
  | none => ({ d with settings := s }, .ok ())
  | some directory =>
    match d.world.files.write (directory.join settingsFile) (Text.encode s.text) with
    | .ok files => ({ d with world := { d.world with files }, settings := s }, .ok ())
    | .error e => (d, .error (.file e))

/-- Changes one setting and keeps the change. -/
def changeSetting (d : Desk) (key value : String) : Desk × Except Error Unit :=
  match d.settings.set key value with
  | .ok s => d.saveSettings s
  | .error e => (d, .error (.configuration e))

end Desk

end IdentityDocs
