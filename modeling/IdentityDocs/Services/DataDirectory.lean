import IdentityDocs.Files.FileSystem

/-!
# The data directory

Where the databases and the settings lie: where the user says, or else where the environment says,
or else below the home directory, or else below the directory for temporary files. An empty value in
the environment counts as none, except for the home directory.
-/

namespace IdentityDocs

/-- What the environment says about directories. -/
structure Environment where
  dataDirectory : Option String := none
  dataHome : Option String := none
  home : Option String := none
  temporary : Option String := none

namespace Environment

/-- A value that is not empty. -/
def nonEmpty? (value : Option String) : Option String := value.filter (· ≠ "")

/-- The directory for temporary files. -/
def temporaryDirectory (env : Environment) : Path := .ofText (env.temporary.getD "/tmp")

/-- The directory that holds the data of programs. -/
def programData (env : Environment) : Path :=
  match nonEmpty? env.dataHome, env.home with
  | some directory, _ => .ofText directory
  | none, some home => ((Path.ofText home).join (.ofText ".local")).join (.ofText "share")
  | none, none => env.temporaryDirectory

/-- The name of the data directory in the one for programs. -/
def directoryName : String := "docverify"

/-- The data directory, if the user names none. -/
def defaultDirectory (env : Environment) : Path :=
  match nonEmpty? env.dataDirectory with
  | some directory => .ofText directory
  | none => env.programData.join (.ofText directoryName)

/-- The data directory; it is made if it is not there. -/
def openDirectory (env : Environment) (named : Option Path) (files : FileSystem) :
    FileSystem × Except FileError Path :=
  let directory := named.getD env.defaultDirectory
  match files.makeDirectories directory with
  | (files, none) => (files, .ok directory)
  | (files, some e) => (files, .error e)

end Environment

end IdentityDocs
