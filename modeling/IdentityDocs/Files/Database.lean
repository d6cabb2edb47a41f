import IdentityDocs.Error.Database
import IdentityDocs.Files.FileSystem
import IdentityDocs.Files.Pages
import IdentityDocs.Json.Printer
import IdentityDocs.Json.Reader

/-!
# Database files

A database lies in a file that was saved as one, as JSON. Any other file counts as a new database if
it is empty or has a single byte; otherwise it is one if another program made it as a file of pages.
While a database is open, changes lie in files beside it, and so does what an interrupted change
left; opening a database clears them away.
-/

namespace IdentityDocs

/-- How the content of a database is kept in a file. -/
structure DatabaseForm (α : Type) where
  /-- A new database. -/
  fresh : α
  write : α → Json
  read? : Json → Option α
  /-- The content of a file that another program made. -/
  ofPages? : Pages.File → Option α

namespace FileSystem

/-- The files without those in which a database keeps the changes that are under way. -/
def clearChanges (files : FileSystem) (p : Path) : FileSystem :=
  ["-wal", "-shm"].foldl (fun files ending =>
    match files.remove (p.append ending) with
    | .ok files => files
    | .error _ => files) files

/-- The files without the one that an interrupted change of a database left. It counts if the
database is new, or if its first byte is not zero. -/
def clearInterrupted (files : FileSystem) (p : Path) (isNew : Bool) : FileSystem :=
  let journal := p.append "-journal"
  match files.read journal with
  | .ok bytes =>
    if isNew || bytes.head?.any (· ≠ 0) then
      match files.remove journal with
      | .ok files => files
      | .error _ => files
    else files
  | .error _ => files

end FileSystem

namespace DatabaseForm

variable {α : Type}

/-- The content of the file of a database. -/
def bytes (form : DatabaseForm α) (db : α) : List UInt8 := Text.encode (form.write db).compact

/-- Whether a file that was not saved as a database counts as a new one. -/
def isBlank (bytes : List UInt8) : Bool := bytes.length ≤ 1

/-- The database in a file. -/
def ofFile? (form : DatabaseForm α) (bytes : List UInt8) : FileKind → Option α
  | .database => ((Text.decode? bytes).bind Json.parse?).bind form.read?
  | _ => if isBlank bytes then some form.fresh else (Pages.File.ofBytes? bytes).bind form.ofPages?

/-- Saves a database. A file that is no longer there stays away. -/
def save (form : DatabaseForm α) (files : FileSystem) (p : Path) (db : α) : FileSystem :=
  match files.find p with
  | .ok (loc, .file ..) => files.put loc (.file (form.bytes db) .database)
  | _ => files

/-- Opens a database; the file is made if it is not there. -/
def load (form : DatabaseForm α) (files : FileSystem) (p : Path) :
    FileSystem × Except DatabaseFault α :=
  match files.find p with
  | .ok (_, .file bytes kind) =>
    let files := files.clearInterrupted p (kind ≠ .database && isBlank bytes)
    match form.ofFile? bytes kind with
    | some db => (form.save (files.clearChanges p) p db, .ok db)
    | none =>
      (if files.has (p.append "-wal") then files.clearChanges p else files, .error .notADatabase)
  | .error .notFound => match files.write p [] with
    | .ok files =>
      (form.save ((files.clearInterrupted p true).clearChanges p) p form.fresh, .ok form.fresh)
    | .error _ => (files, .error (.cannotOpen p.text))
  | _ => (files, .error (.cannotOpen p.text))

end DatabaseForm

end IdentityDocs
