import IdentityDocs.CommandLine.Help
import IdentityDocs.CommandLine.Reading
import IdentityDocs.CommandLine.Run
import IdentityDocs.Document.FreshId
import IdentityDocs.Script.Installed
import IdentityDocs.Script.Launch
import Std.Time.DateTime.Timestamp

/-!
# The program

Reads the command line, looks at the files that the request concerns, carries the request out on
what was seen, and makes the disk agree with what came of it.
-/

namespace IdentityDocs.Terminal

open CommandLine

/-- What the environment says about directories. -/
def environment : IO Environment := do
  return {
    dataDirectory := ← IO.getEnv "DOCVERIFY_DATA_DIR"
    dataHome := ← IO.getEnv "XDG_DATA_HOME"
    home := ← IO.getEnv "HOME"
    temporary := ← IO.getEnv "TMPDIR" }

/-- The time of the clock. -/
def now : IO Instant := do
  let t ← Std.Time.Timestamp.now
  return ⟨t.val.second.val, t.val.nano.val.toNat⟩

/-- What the disk calls a location. -/
def diskName (loc : Location) : String := (FileSystem.pathOf loc).text

/-- What files of databases begin with on the disk. -/
def databaseMark : List UInt8 := Text.encode "Database of identity documents\n"

/-- The content and the kind of a file on the disk. -/
def readKind (bytes : List UInt8) : Node :=
  if databaseMark.isPrefixOf bytes then .file (bytes.drop databaseMark.length) .database
  else .file bytes .executable

/-- What a file holds on the disk. -/
def diskBytes (bytes : List UInt8) : FileKind → List UInt8
  | .database => databaseMark ++ bytes
  | _ => bytes

/-- What stands on the disk in a directory that is there. -/
def look (loc : Location) : IO (Option Node) := do
  try
    let bytes ← IO.FS.readBinFile (diskName loc)
    return some (readKind bytes.toList)
  catch
    | .inappropriateType .. => return some .directory
    | _ => return none

/-- Adds what stands at a path, and the directories on the way there. -/
def observe (files : FileSystem) (p : Path) : IO FileSystem := do
  let mut files := files
  let mut loc := if p.isAbsolute then [] else files.current
  for name in p.names do
    loc := if name = Path.parentName then loc.dropLast else loc ++ [name]
    if (files.get? loc).isNone then
      match ← look loc with
      | some node => files := files.put loc node
      | none => return files
  return files

/-- The images that records in a data directory mention. -/
def knownImages (files : FileSystem) (directory : Path) : List Path :=
  match Store.load files (directory.join Desk.documentsFile) with
  | (_, .ok store) => (store.all.toOption.getD []).map DocumentRecord.path
  | (_, .error _) => []

/-- The files that a request concerns. -/
def filesFor (request : Request) (env : Environment) : IO FileSystem := do
  let here := Path.ofText (← IO.currentDir).toString
  let mut files ← observe Script.installed here
  files := { files with current := here.names }
  let directory := request.directory.getD env.defaultDirectory
  for name in [Desk.documentsFile, Desk.auditFile, Desk.settingsFile] do
    files ← observe files (directory.join name)
  for image in knownImages files directory do
    files ← observe files image
  match request.command with
  | .analyze image .. =>
    files ← observe (← observe files image) image.processed
    files ← observe files (.ofText (Desk.loadSettings files directory).command)
  | _ => pure ()
  return files

/-- Makes the disk agree with a change of the files. -/
def save (before after : FileSystem) : IO Unit := do
  for (loc, node) in after.nodes.reverse do
    if before.get? loc ≠ some node then
      match node with
      | .directory => IO.FS.createDir (diskName loc)
      | .file bytes kind => IO.FS.writeBinFile (diskName loc) ⟨(diskBytes bytes kind).toArray⟩
  for (loc, _) in before.nodes do
    if (after.get? loc).isNone then IO.FS.removeFile (diskName loc)

/-- Carries a request out; answers with the exit code. -/
def serve (request : Request) (env : Environment) : IO UInt32 := do
  let some fresh := DocumentId.ofRandom? (← IO.getRandomBytes 16).toList
    | throw (IO.userError "no random bytes")
  let files ← filesFor request env
  let done := request.run Script.platform env fresh files (← now)
  save files done.files
  for line in done.reply.lines do IO.println line
  match done.reply.error with
  | some e => IO.eprintln s!"error: {e.message}"; return 1
  | none => return 0

/-- Answers a command line that is not carried out; answers with the exit code. -/
def refuse (fault : Fault) : IO UInt32 := do
  for line in fault.answerLines do IO.println line
  if fault.isAnswer then return 0
  for line in fault.complaintLines do IO.eprintln line
  return 2

end IdentityDocs.Terminal

/-- The program. -/
def main (args : List String) : IO UInt32 := do
  let env ← IdentityDocs.Terminal.environment
  match IdentityDocs.CommandLine.Request.ofWords env.dataDirectory args with
  | .ok request => IdentityDocs.Terminal.serve request env
  | .error fault => IdentityDocs.Terminal.refuse fault
