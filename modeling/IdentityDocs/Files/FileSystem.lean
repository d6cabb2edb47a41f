import IdentityDocs.Error.File
import IdentityDocs.Files.Path

/-!
# File systems

A file system holds directories and files at locations; there are no links. A location is the list
of names from the root. An operation takes a path, finds the location that it means, and answers
with the changed file system or with the reason why it refuses.
-/

namespace IdentityDocs

/-- What a file is besides its content. -/
inductive FileKind
  | plain
  /-- The file may be executed. -/
  | executable
  /-- The file was saved as a database. -/
  | database
  /-- A program that is installed. -/
  | program
  /-- A device that is always empty; what is written to it is gone. -/
  | void
  deriving DecidableEq

/-- Whether files of the kind may be executed. -/
def FileKind.mayRun : FileKind → Bool
  | executable | program => true
  | plain | database | void => false

/-- What a file of the kind becomes when its content is replaced. -/
def FileKind.afterWriting : FileKind → FileKind
  | database => plain
  | program => executable
  | kind => kind

/-- What stands at a location. -/
inductive Node
  | directory
  | file (bytes : List UInt8) (kind : FileKind)
  deriving DecidableEq

/-- The names from the root to a place. -/
abbrev Location := List FileName

/-- A tree of directories and files. -/
structure FileSystem where
  nodes : List (Location × Node)
  /-- The directory in which relative paths begin. -/
  current : Location

namespace FileSystem

/-- What stands at a location. The root is a directory. -/
def get? (fs : FileSystem) (loc : Location) : Option Node :=
  if loc = [] then some .directory else fs.nodes.lookup loc

/-- The file system without what stands at a location. -/
def erase (fs : FileSystem) (loc : Location) : FileSystem :=
  { fs with nodes := fs.nodes.filter fun entry => entry.1 ≠ loc }

/-- The file system with a node put at a location. -/
def put (fs : FileSystem) (loc : Location) (node : Node) : FileSystem :=
  { fs with nodes := (loc, node) :: (fs.erase loc).nodes }

/-- The greatest number of bytes of a name. -/
def maxNameLength : Nat := 255

/-- The greatest number of bytes of a path. -/
def maxPathLength : Nat := 4095

/-- Follows names from a location. All but the last must name directories; the last may name what
is not there. -/
def walk (fs : FileSystem) : Location → List FileName → Except FileError Location
  | loc, [] => .ok loc
  | loc, name :: names => match fs.get? loc with
    | none => .error .notFound
    | some (.file ..) => .error .notADirectory
    | some .directory =>
      if maxNameLength < name.length then .error .nameTooLong
      else walk fs (if name = Path.parentName then loc.dropLast else loc ++ [name]) names

/-- The location that a path means; nothing need stand there. -/
def locate (fs : FileSystem) (p : Path) : Except FileError Location :=
  if 0 ∈ p.bytes then .error .nulInPath
  else if p.isEmpty then .error .notFound
  else if maxPathLength < p.bytes.length then .error .nameTooLong
  else walk fs (if p.isAbsolute then [] else fs.current) p.names

/-- The location of a path, and what stands there. -/
def find (fs : FileSystem) (p : Path) : Except FileError (Location × Node) :=
  match fs.locate p with
  | .error e => .error e
  | .ok loc => match fs.get? loc with
    | none => .error .notFound
    | some .directory => .ok (loc, .directory)
    | some (.file bytes kind) =>
      if p.endsAsDirectory then .error .notADirectory
      else .ok (loc, .file bytes kind)

/-- Whether something stands at a path. -/
def has (fs : FileSystem) (p : Path) : Bool :=
  match fs.find p with
  | .ok _ => true
  | .error _ => false

/-- Whether a directory stands at a path. -/
def isDirectory (fs : FileSystem) (p : Path) : Bool :=
  match fs.find p with
  | .ok (_, .directory) => true
  | _ => false

/-- The content of a file. -/
def read (fs : FileSystem) (p : Path) : Except FileError (List UInt8) :=
  match fs.find p with
  | .error e => .error e
  | .ok (_, .directory) => .error .isADirectory
  | .ok (_, .file bytes _) => .ok bytes

/-- Makes a file with the given content, or replaces the content of the file that is there. -/
def write (fs : FileSystem) (p : Path) (bytes : List UInt8) : Except FileError FileSystem :=
  match fs.locate p with
  | .error e => .error e
  | .ok loc => match fs.get? loc with
    | some .directory => .error .isADirectory
    | some (.file _ .void) => if p.endsAsDirectory then .error .notADirectory else .ok fs
    | some (.file _ kind) =>
      if p.endsAsDirectory then .error .notADirectory
      else .ok (fs.put loc (.file bytes kind.afterWriting))
    | none =>
      if p.endsAsDirectory then .error .isADirectory
      else .ok (fs.put loc (.file bytes .plain))

/-- Removes a file. -/
def remove (fs : FileSystem) (p : Path) : Except FileError FileSystem :=
  match fs.find p with
  | .error e => .error e
  | .ok (_, .directory) => .error .isADirectory
  | .ok (loc, .file ..) => .ok (fs.erase loc)

/-- Makes a directory in one that is there. -/
def makeDirectory (fs : FileSystem) (p : Path) : Except FileError FileSystem :=
  match fs.locate p with
  | .error e => .error e
  | .ok loc => match fs.get? loc with
    | some .directory => .error .alreadyExists
    | some (.file ..) =>
      if p.lastIsDot then .error .notADirectory else .error .alreadyExists
    | none => if p.lastIsDot then .error .notFound else .ok (fs.put loc .directory)

/-- Makes a directory and, if it comes to that, those it lies in; `depth` bounds how many. What was
made before an operation was refused stays. -/
def makeDirectoriesUpTo : (depth : Nat) → FileSystem → Path → FileSystem × Option FileError
  | 0, fs, _ => (fs, some .notFound)
  | depth + 1, fs, p =>
    if p.isEmpty then (fs, none)
    else match fs.makeDirectory p with
      | .ok fs => (fs, none)
      | .error .notFound => match makeDirectoriesUpTo depth fs p.parent with
        | (fs, some e) => (fs, some e)
        | (fs, none) => match fs.makeDirectory p with
          | .ok fs => (fs, none)
          | .error e => (fs, if fs.isDirectory p then none else some e)
      | .error e => (fs, if fs.isDirectory p then none else some e)

/-- Makes a directory and all those it lies in that are not there yet. -/
def makeDirectories (fs : FileSystem) (p : Path) : FileSystem × Option FileError :=
  makeDirectoriesUpTo (p.names.length + 2) fs p

/-- The path of a location from the root. -/
def pathOf (loc : Location) : Path :=
  if loc = [] then ⟨[Path.slash]⟩ else ⟨loc.flatMap (Path.slash :: ·)⟩

/-- The path from the root of what stands at a path. -/
def canonicalize (fs : FileSystem) (p : Path) : Except FileError Path :=
  match fs.find p with
  | .error e => .error e
  | .ok (loc, _) => .ok (pathOf loc)

/-- How a node is listed: its path from the current directory, with a slash after a directory;
`none` for what does not lie below that. -/
def listed? (fs : FileSystem) (entry : Location × Node) : Option String :=
  if fs.current.isPrefixOf entry.1 ∧ entry.1 ≠ fs.current then
    let path := List.intercalate [Path.slash] (entry.1.drop fs.current.length)
    let text := Text.decodeLossy path
    some (if entry.2 = .directory then text ++ "/" else text)
  else none

/-- All that lies below the current directory, in the order of its text. -/
def listing (fs : FileSystem) : List String :=
  (fs.nodes.filterMap fs.listed?).mergeSort fun a b => !decide (b < a)

end FileSystem

end IdentityDocs
