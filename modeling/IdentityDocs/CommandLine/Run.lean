import IdentityDocs.CommandLine.Display
import IdentityDocs.CommandLine.Request
import IdentityDocs.Services.DataDirectory
import IdentityDocs.Services.Desk

/-!
# Carrying out requests

A request opens the desk of the data directory, does one thing there, and closes the desk again.
What was said before an error stands.
-/

namespace IdentityDocs.CommandLine

/-- What a command says. -/
structure Reply where
  lines : List String := []
  error : Option Error := none

namespace Reply

/-- The reply to a question. -/
def ofAnswer {α : Type} (view : α → List String) : Except Error α → Reply
  | .ok a => { lines := view a }
  | .error e => { error := some e }

/-- A reply after some lines. -/
def after (reply : Reply) (lines : List String) : Reply :=
  { reply with lines := lines ++ reply.lines }

end Reply

/-- The sign that a document was handed in. -/
def registeredLine (id : DocumentId) : String := s!"Registered {id.text}; analysing..."

/-- The sign that a review was stored. -/
def reviewedLine (r : DocumentRecord) : String := s!"{r.id.text} is now {r.status.name}"

/-- Hands an image in under a new identifier and waits for its analysis. -/
def analyze (platform : Platform) (d : Desk) (fresh : DocumentId) (image : Path)
    (claimed : Option Category) (owner : String) (kind : DocumentKind) : Desk × Reply :=
  match d.start platform with
  | .error e => (d, { error := some e })
  | .ok d => match d.register fresh image owner kind claimed with
    | (d, .error e) => (d, { error := some e })
    | (d, .ok id) =>
      let d := d.finish.1
      (d, (Reply.ofAnswer (recordLines false) (d.document id)).after [registeredLine id])

/-- The entries of the audit log on a document, or else the last ones, and how many there are. -/
def audit (log : Audit.Log) (limit : Nat) (document : Option DocumentId) : Reply :=
  let entries := match document with
    | some id => log.onDocument id
    | none => log.recent limit
  match entries with
  | .error e => { error := some e }
  | .ok [] => { lines := ["No audit entries"] }
  | .ok entries =>
    (Reply.ofAnswer (fun total => [totalLine total]) log.count).after (entries.map entryLine)

/-- Changes the settings. -/
def changeSettings (d : Desk) : SettingsChange → Desk × Except Error Unit
  | .nothing => (d, .ok ())
  | .set key value => d.changeSetting key value
  | .reset => d.saveSettings {}

/-- Carries a command out. An image that is handed in gets the identifier `fresh`. -/
def carryOut (platform : Platform) (d : Desk) (fresh : DocumentId) : Command → Desk × Reply
  | .analyze image claimed owner kind => analyze platform d fresh image claimed owner kind
  | .record id withText => (d, .ofAnswer (recordLines withText) (d.document id))
  | .list owner => (d, .ofAnswer (tableLines "No documents") (d.documents owner))
  | .queue => (d, .ofAnswer (tableLines "Review queue is empty") d.reviewQueue)
  | .review id status comment =>
    let (d, answer) := d.review id status comment
    (d, .ofAnswer (fun r => [reviewedLine r]) answer)
  | .audit limit document => (d, audit d.world.log limit document)
  | .settings change =>
    let (d, answer) := changeSettings d change
    (d, .ofAnswer (fun _ => settingsLines d.settings d.directory) answer)

/-- The files and the clock after a request, and what was said. -/
structure Finished where
  files : FileSystem
  now : Instant
  reply : Reply

/-- Carries a request out. -/
def Request.run (request : Request) (platform : Platform) (environment : Environment)
    (fresh : DocumentId) (files : FileSystem) (now : Instant) : Finished :=
  match environment.openDirectory request.directory files with
  | (files, .error e) => { files, now, reply := { error := some (.file e) } }
  | (files, .ok directory) => match Desk.load files directory now with
    | (files, .error e) => { files, now, reply := { error := some e } }
    | (_, .ok desk) =>
      let (desk, reply) := carryOut platform desk fresh request.command
      { files := desk.close, now := desk.world.now, reply }

end IdentityDocs.CommandLine
