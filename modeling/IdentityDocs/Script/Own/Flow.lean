import IdentityDocs.Script.Lookup

/-!
# Commands that direct a script

These commands leave repetitions, functions and scripts, run texts and files as commands, and turn
the process into a program.
-/

namespace IdentityDocs.Script

/-- Leaves repetitions, or goes on with the next turn of one. -/
def leaveLoops (again : Bool) (args : List Bytes) : Exec Nat := do
  let count ← match args with
    | [] => pure 1
    | arg :: _ => do
      let count ← countOf arg
      if count = 0 then badNumber arg
      pure count
  let count := min count (← get).loops
  if 0 < count then
    modify fun s => { s with skip := some (if again then .again count else .leave count) }
  return 0

/-- Leaves a function or a file of commands. -/
def giveBack (args : List Bytes) : Exec Nat := do
  match args with
  | [] =>
    modify fun s => { s with skip := some (.back false) }
    return (← get).status
  | arg :: _ =>
    let status ← countOf arg
    modify fun s => { s with skip := some (.back true) }
    return status

/-- Leaves the process. -/
def leaveProcess (args : List Bytes) : Exec Nat := do
  match args with
  | [] => pure ()
  | arg :: _ =>
    let status ← countOf arg
    modify fun s => { s with leaving := some status }
  throw .leave

/-- Drops the first arguments. -/
def shift (args : List Bytes) : Exec Nat := do
  let count ← match args with
    | [] => pure 1
    | arg :: _ => countOf arg
  let arguments := (← get).arguments
  if arguments.length < count then fail (ofText "can't shift that many")
  setArguments (arguments.drop count)
  return 0

/-- Runs the arguments as commands. -/
def evaluate (self : Engine) (mode : Mode) (args : List Bytes) : Exec Nat :=
  if args = [] then return 0
  else self.runText false { tested := mode.tested } (spaced args)

/-- The path of a file of commands. A name without a slash is looked for in the search path. -/
def commandsAt (name : Bytes) : Exec Bytes := do
  if name.contains '/' then return name
  let files := (← get).machine.files
  let found := (Path.splitAtAll ':' (← pathInUse)).findSome? fun directory =>
    let candidate := if directory = [] then name else directory ++ '/' :: name
    match files.find (argPath candidate) with
    | .ok (_, .file ..) => some candidate
    | _ => none
  match found with
  | some path => return path
  | none => fail (name ++ ofText ": not found")

/-- The text of a file of commands. -/
def commandsIn (path : Bytes) : Exec Bytes := do
  match ← openAt .reading path with
  | .ok handle =>
    let cs ← modifyGet fun s =>
      let (machine, cs) := s.machine.read handle.stream List.length
      (cs, { s with machine })
    return cs.filter (· ≠ '\x00')
  | .error e => fail (ofText "cannot open " ++ path ++ ofText (": " ++ brieflyOr "No such file" e))

/-- Runs the commands in a file. -/
def runFile (self : Engine) (args : List Bytes) : Exec Nat := do
  match ← withoutOptions args with
  | [] => return 0
  | name :: _ =>
    let path ← commandsAt name
    let text ← commandsIn path
    modify fun s => { s with speaker := some path }
    let status ← self.runText true {} text
    modify fun s => { s with skip := match s.skip with
      | some (.back _) => none
      | skip => skip }
    return status

/-- Turns the process into a program, if the program was found. -/
def become (self : Engine) (found : Except FileError Bytes) (name : Bytes) (args : List Bytes) :
    Exec Nat := do
  let environment := passedOn (← get)
  let result ← match found with
    | .error e => pure (.error e)
    | .ok path => self.become { path, name, args, environment }
  let status ← match result with
    | .ok status => pure status
    | .error e => do
      warn (name ++ ofText (": " ++ brieflyOr "not found" e))
      pure (match e with
        | .notFound | .notADirectory | .nameTooLong => 127
        | _ => 126)
  modify fun s => { s with status }
  throw .done

/-- Turns the process into the program that the arguments name. -/
def exec (self : Engine) (args : List Bytes) : Exec Nat := do
  match args with
  | [] => return 0
  | name :: args =>
    let files := (← get).machine.files
    let path ← pathInUse
    let found := if name.contains '/' then .ok name else searchPath files path name
    become self found name args

end IdentityDocs.Script
