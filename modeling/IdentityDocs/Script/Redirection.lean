import IdentityDocs.Script.FileNames

/-!
# Redirections

A redirection leads a descriptor to a file, to where another descriptor leads, to a text, or
nowhere. All words but those texts are filled in before the first file is opened.
-/

namespace IdentityDocs.Script

/-- Why a file cannot be used, in the words of programs. -/
def briefly : FileError → String
  | .notFound => "No such file or directory"
  | .permissionDenied => "Permission denied"
  | .alreadyExists => "File exists"
  | .notADirectory => "Not a directory"
  | .isADirectory => "Is a directory"
  | .nameTooLong => "File name too long"
  | .notAProgram => "Exec format error"
  | e => e.message

/-- Why a file cannot be used, where `missing` says that it or a directory is not there. -/
def brieflyOr (missing : String) : FileError → String
  | .notFound | .notADirectory => missing
  | e => briefly e

/-- A redirection whose words are filled in. -/
inductive Lead
  | file (opening : Opening) (path : Bytes)
  | copy (source : Option Nat)
  /-- To a text, whose places are filled in when it is needed. -/
  | text (w : Word)

/-- The descriptor that a path stands for. -/
def descriptorAt? (path : Bytes) : Option Nat :=
  if path = ofText "/dev/stdin" then some 0
  else if path = ofText "/dev/stdout" then some 1
  else if path = ofText "/dev/stderr" then some 2
  else
    let start := ofText "/dev/fd/"
    if start.isPrefixOf path then number? (path.drop start.length) else none

/-- The stream of a file that is opened, and the files then. -/
def openFile (files : FileSystem) (guarded : Bool) (opening : Opening) (path : Bytes) :
    Except FileError (FileSystem × Stream) :=
  let p := argPath path
  let found : Except FileError (Option (Location × Node)) := match files.find p with
    | .ok found => .ok (some found)
    | .error .notFound => .ok none
    | .error e => .error e
  let place (files : FileSystem) (loc : Location) (node : Node) (atEnd : Bool) :
      FileSystem × Stream :=
    match node with
    | .directory => (files, .directory)
    | .file _ .void => (files, .void)
    | .file .. => (files, .file loc 0 atEnd)
  let make (atEnd : Bool) : Except FileError (FileSystem × Stream) :=
    match files.write p [], files.locate p with
    | .ok files, .ok loc => .ok (files, .file loc 0 atEnd)
    | .error e, _ => .error e
    | _, .error e => .error e
  match found with
  | .error e => .error e
  | .ok none => match opening with
    | .reading => .error .notFound
    | .appending => make true
    | _ => make false
  | .ok (some (loc, node)) =>
    match opening, node with
    | .reading, node => .ok (place files loc node false)
    | _, .directory => .error .isADirectory
    | .writing, node =>
      match node with
      | .file _ .void => .ok (files, .void)
      | _ => if guarded then .error .alreadyExists else .ok (setContent files loc [], .file loc 0 false)
    | .overwriting, node => .ok (place (setContent files loc []) loc node false)
    | .appending, node => .ok (place files loc node true)
    | .both, node => .ok (place files loc node false)

/-- The modes of reading and writing that a file is opened in. -/
def Opening.modes : Opening → Bool × Bool
  | reading => (true, false)
  | both => (true, true)
  | _ => (false, true)

/-- Leads a descriptor to a handle. -/
def lead (descriptor : Nat) (handle : Handle) : Exec Unit := modify fun s => { s with
  handles := (descriptor, handle) :: s.handles.filter (·.1 != descriptor) }

/-- Leads a descriptor nowhere. -/
def shut (descriptor : Nat) : Exec Unit := modify fun s => { s with
  handles := s.handles.filter (·.1 != descriptor) }

/-- Opens a file at a path. -/
def openAt (opening : Opening) (path : Bytes) : Exec (Except FileError Handle) := do
  let (reads, writes) := opening.modes
  match ← (descriptorAt? path).mapM handle? with
  | some (some handle) => return .ok { handle with reads, writes }
  | some none => return .error .notFound
  | none =>
    if path = ofText "/dev/zero" then return .ok ⟨← addStream .zeros, reads, writes⟩
    else if path = ofText "/dev/full" then return .ok ⟨← addStream .full, reads, writes⟩
    else
      let s ← get
      match openFile s.machine.files (s.switches.contains 'C') opening path with
      | .ok (files, stream) =>
        set { s with machine := { s.machine with files } }
        return .ok ⟨← addStream stream, reads, writes⟩
      | .error e => return .error e

/-- Carries a redirection out. A descriptor leads nowhere before it leads to where another one does,
so that a complaint about that one may be lost. -/
def follow (self : Engine) (descriptor : Nat) : Lead → Exec Unit
  | .text w => do
    let cs ← textOf self {} w
    lead descriptor ⟨← addStream (.text cs), true, false⟩
  | .copy none => shut descriptor
  | .copy (some source) => do
    if source ≠ descriptor then
      match ← handle? source with
      | some handle => lead descriptor handle
      | none =>
        shut descriptor
        fail (decimal source ++ ofText ": Bad file descriptor")
  | .file opening path => do
    match ← openAt opening path with
    | .ok handle => lead descriptor handle
    | .error e =>
      let why := match opening with
        | .reading => ofText "cannot open " ++ path ++ ofText (": " ++ brieflyOr "No such file" e)
        | _ => ofText "cannot create " ++ path ++
            ofText (": " ++ brieflyOr "Directory nonexistent" e)
      fail why

/-- Fills the words of a redirection in. -/
def leadOf (self : Engine) : Redirect → Exec (Nat × Lead)
  | .file descriptor opening w => do
    return (descriptor, .file opening (← textOf self { tilde := true } w))
  | .copy descriptor source => return (descriptor, .copy source)
  | .copyNamed descriptor w => do
    let refuse : Exec (Nat × Lead) := do
      modify fun s => { s with line := s.lineRead }
      fail (ofText "Syntax error: Bad fd number")
    match ← textOf self { tilde := true } w with
    | ['-'] => return (descriptor, .copy none)
    | [c] => if c.isDigit then return (descriptor, .copy (some (digitValue c))) else refuse
    | _ => refuse
  | .text descriptor number => do
    return (descriptor, .text (((← get).texts.lookup number).getD []))

/-- Carries redirections out whose words are filled in; tells whether all could be done. -/
def followAll (self : Engine) (leads : List (Nat × Lead)) : Exec Bool :=
  tryCatch (do
    for (descriptor, target) in leads do follow self descriptor target
    return true) fun halt => do
      match halt with
      | .fault => return false
      | halt => throw halt

/-- Does something with descriptors led elsewhere, and leads them back. Answers with the status of a
redirection that fails. -/
def redirected (self : Engine) (redirects : List Redirect) (body : Exec Nat) : Exec Nat := do
  if redirects.isEmpty then body
  else
    let leads ← redirects.mapM (leadOf self)
    let handles := (← get).handles
    let status ← tryCatch (do
      if ← followAll self leads then body else return 2) fun halt => do
        modify fun s => { s with handles }
        throw halt
    modify fun s => { s with handles }
    return status

end IdentityDocs.Script
