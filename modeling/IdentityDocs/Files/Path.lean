import IdentityDocs.Text.Utf8

/-!
# Paths

A path is a sequence of bytes in which slashes separate names. It need not be UTF-8; what readers
see of it is its text with replacement characters.
-/

namespace IdentityDocs

/-- A path to a file. -/
structure Path where
  bytes : List UInt8
  deriving DecidableEq

/-- The name of a file in a directory. -/
abbrev FileName := List UInt8

namespace Path

/-- The byte that separates names. -/
def slash : UInt8 := 47

/-- The byte in front of an extension. -/
def dot : UInt8 := 46

/-- The path of a text. -/
def ofText (s : String) : Path := ⟨Text.encode s⟩

/-- The path as readers see it. -/
def text (p : Path) : String := Text.decodeLossy p.bytes

/-- The pieces of a list between the elements equal to `separator`. -/
def splitAtAll {α : Type} [DecidableEq α] (separator : α) : List α → List (List α)
  | [] => [[]]
  | a :: rest =>
    if a = separator then [] :: splitAtAll separator rest
    else match splitAtAll separator rest with
      | piece :: pieces => (a :: piece) :: pieces
      | [] => [[a]]

/-- The names between the slashes; those that stand for nothing are left out. -/
def names (p : Path) : List FileName :=
  (splitAtAll slash p.bytes).filter fun name => name ≠ [] ∧ name ≠ [dot]

/-- Whether the path begins at the root. -/
def isAbsolute (p : Path) : Bool := p.bytes.head? == some slash

/-- Whether the path is empty. -/
def isEmpty (p : Path) : Bool := p.bytes.isEmpty

/-- The name that means the directory a directory lies in. -/
def parentName : FileName := [dot, dot]

/-- Whether a dot stands alone after the last slash. -/
def endsInDot (p : Path) : Bool := (splitAtAll slash p.bytes).getLast? == some [dot]

/-- Whether a dot stands alone in the last place that is not empty. -/
def lastIsDot (p : Path) : Bool :=
  ((splitAtAll slash p.bytes).filter (· ≠ [])).getLast? == some [dot]

/-- Whether the path ends in a slash. -/
def endsInSlash (p : Path) : Bool := p.bytes.getLast? == some slash

/-- Whether the path can only mean a directory. -/
def endsAsDirectory (p : Path) : Bool := p.endsInDot || p.endsInSlash

/-- The path of the directory that the path lies in; the empty path stands for the current one. -/
def parent (p : Path) : Path :=
  let below := List.intercalate [slash] p.names.dropLast
  ⟨if p.isAbsolute then slash :: below else below⟩

/-- The last name of the path, if it names a file. -/
def fileName? (p : Path) : Option FileName :=
  match p.names.getLast? with
  | some name => if name = parentName then none else some name
  | none => none

/-- What follows the last dot of a name. A dot at the very beginning does not count. -/
def extensionOf (name : FileName) : Option FileName :=
  match splitAtAll dot name with
  | [] | [_] => none
  | [[], _] => none
  | pieces => pieces.getLast?

/-- The extension of the file that the path names. -/
def extension? (p : Path) : Option FileName := p.fileName?.bind extensionOf

/-- The path of a file in the directory that the path means. -/
def join (p : Path) (name : Path) : Path :=
  if name.isAbsolute then name
  else if p.isEmpty then name
  else if p.endsInSlash then ⟨p.bytes ++ name.bytes⟩
  else ⟨p.bytes ++ slash :: name.bytes⟩

/-- The path with an ending appended to its last name. -/
def append (p : Path) (ending : String) : Path := ⟨p.bytes ++ Text.encode ending⟩

end Path

end IdentityDocs
