import IdentityDocs.Script.Own.Run

/-!
# Simple commands

A simple command fills its words in, finds out what its first word means, leads its descriptors
elsewhere, carries its assignments out, and runs. A command that runs a program does so in a process
of its own.
-/

namespace IdentityDocs.Script

/-! ## The words of a command -/

/-- Fills words in up to the first that becomes something; answers with the words behind it, too. -/
def firstFields (self : Engine) : List Word → Exec (List Bytes × List Word)
  | [] => return ([], [])
  | w :: words => do
    match ← fieldsIn self w with
    | [] => firstFields self words
    | fields => return (fields, words)

/-- A command whose first words are filled in. -/
structure Resolved where
  /-- What stands in front of the command: `command` and its options. -/
  before : List Bytes := []
  /-- The name of the command and what is filled in behind it. -/
  fields : List Bytes
  /-- The words that are not filled in yet. -/
  words : List Word
  /-- Whether functions and another search path than that of the script count. -/
  functions : Bool := true
  standard : Bool := false
  /-- The command of the shell itself that it is. -/
  own : Option Own := none
  /-- Whether the first command of the shell itself that stands there is special. -/
  special : Option Bool := none

/-- Fills words in until there is a next field. -/
def Resolved.fill (self : Engine) (r : Resolved) : Exec Resolved := do
  match r.fields with
  | [] =>
    let (fields, words) ← firstFields self r.words
    return { r with fields, words }
  | _ => return r

/-- Passes over the first field. -/
def Resolved.next (r : Resolved) : Resolved :=
  { r with before := r.before ++ r.fields.take 1, fields := r.fields.drop 1 }

/-- Passes over `command` and its options; `none` if it runs no other command. In both cases the
words then filled in are answered with. -/
def Resolved.skipCommand (self : Engine) : (fuel : Nat) → Resolved → Exec (Resolved × Bool)
  | 0, r => return (r, false)
  | fuel + 1, r => do
    let r ← r.fill self
    match r.fields with
    | [] => return (r, false)
    | ['-', '-'] :: _ =>
      let r ← r.next.fill self
      return (r, !r.fields.isEmpty)
    | ('-' :: c :: letters) :: _ =>
      if (c :: letters).all (· == 'p') then
        skipCommand self fuel { r.next with standard := true }
      else return (r, false)
    | _ => return (r, true)

/-- Finds out what commands of the shell itself a command stands for. -/
def Resolved.resolve (self : Engine) : (fuel : Nat) → Resolved → Exec Resolved
  | 0, r => return r
  | fuel + 1, r => do
    let name := r.fields.headD []
    let isFunction := r.functions && ((← get).functions.lookup name).isSome
    match if isFunction || name.contains '/' then none else ownCommand? name with
    | none => return { r with own := none }
    | some c =>
      let r := { r with own := some c, special := some (r.special.getD c.isSpecial) }
      if c ≠ .command then return r
      else match ← r.next.skipCommand self maxTurns with
        | (other, true) => resolve self fuel { other with functions := false }
        | (other, false) =>
          let behind := other.before.drop (r.before.length + 1)
          return { r with
            fields := r.fields.take 1 ++ behind ++ other.fields, words := other.words }

/-- A word of a command that may hold an assignment. -/
def settingFields (self : Engine) (w : Word) : Exec (List Bytes) := do
  match assignment? w with
  | some (name, value) =>
    return [name ++ '=' :: (← textOf self { tilde := true, tildes := true } value)]
  | none => fieldsIn self w

/-- Fills all words of a command in. -/
def Resolved.fillAll (self : Engine) (r : Resolved) : Exec Resolved := do
  let fields ← r.words.mapM (if r.own.any Own.assigns then settingFields self else fieldsIn self)
  return { r with fields := r.fields ++ fields.flatten, words := [] }

/-- The words of a command, filled in. -/
def resolved (self : Engine) (words : List Word) : Exec (Option Resolved) := do
  match ← firstFields self words with
  | ([], _) => return none
  | (fields, words) =>
    let r ← Resolved.resolve self maxTurns { fields, words }
    return some (← r.fillAll self)

/-! ## Traces -/

/-- Writes a command to where a handle leads, if commands are to be traced. -/
def trace (self : Engine) (target : Option Handle) (words : List Bytes) : Exec Unit := do
  if (← isOn 'x') && !(← get).tracing then
    modify fun s => { s with tracing := true }
    let start ← match textWord? (← valueOr "PS4" []) with
      | some w => textOf self {} w
      | none => pure []
    modify fun s => { s with tracing := false }
    match target with
    | some handle =>
      if handle.writes then
        modify fun s => { s with
          machine := (s.machine.write handle.stream (s.chunk (start ++ spaced words ++ ['\n']))).1 }
    | none => pure ()

/-! ## Running commands -/

/-- Calls a function. -/
def callFunction (self : Engine) (mode : Mode) (body : Tree) (args : List Bytes) : Exec Unit := do
  let was ← get
  let finish : Exec Unit := modify fun s => { s with
    arguments := was.arguments
    optionIndex := was.optionIndex
    optionPlace := was.optionPlace
    loops := was.loops
    skip := match s.skip with
      | some (.back _) => none
      | skip => skip }
  modify fun s => { s with arguments := args, optionIndex := 1, optionPlace := none, loops := 0 }
  tryCatch (do
    discard (self.run { tested := mode.tested } body)
    finish) fun halt => do
      finish
      throw halt

/-- Runs a program, in a process of its own unless this one leaves with it. -/
def runProgram (self : Engine) (mode : Mode) (path name : Bytes) (args : List Bytes) :
    Exec Unit := do
  let waits := (← get).actions.any fun (_, action) => !action.isEmpty
  if mode.last && !waits then discard (become self (.ok path) name args)
  else
    let (_, ending) ← inChild self (discard (become self (.ok path) name args))
    let status ← await ending
    modify fun s => { s with status }

/-- Runs a command whose descriptors and variables are in place. -/
def Resolved.run (self : Engine) (mode : Mode) (r : Resolved) : Exec Unit := do
  let name := r.fields.headD []
  let args := r.fields.drop 1
  match r.own with
  | some c => c.run self mode (r.special.getD false) name args
  | none =>
    match ← findCommand name r.functions (if r.standard then some defaultPath else none) with
    | .own c => c.run self mode (r.special.getD false) name args
    | .function body => callFunction self mode body args
    | .program path => runProgram self mode path name args
    | .missing e =>
      warn (name ++ ofText (": " ++ brieflyOr "not found" e))
      modify fun s => { s with status := 127 }

/-- Carries the assignments in front of a command out; they last for the command alone if `own`. -/
def assignAll (self : Engine) (own passedOn : Bool) (settings : List (Bytes × Word)) :
    Exec (List Bytes) :=
  settings.mapM fun (name, w) => do
    let value ← textOf self { tilde := true, tildes := true } w
    if own then makeOwn name (some value) true else assign name value passedOn
    return name ++ '=' :: value

/-- Runs a simple command. -/
def runSimple (self : Engine) (mode : Mode) (settings : List (Bytes × Word)) (words : List Word)
    (redirects : List Redirect) : Exec Nat := do
  modify fun s => { s with outputStatus := 0 }
  let r ← resolved self words
  let special := r.any fun r => r.special = some true
  let own := r.isSome && !special
  let replaces := r.any fun r => r.own = some .exec
  let depth := (← get).kept.length
  if own then beginKeeping
  let leads ← redirects.mapM (leadOf self)
  let handles := (← get).handles
  let stays := replaces && !redirects.isEmpty
  let restore : Exec Unit := modify fun s => if stays then s else { s with handles }
  if ← followAll self leads then
    tryCatch (do
      let shown ← assignAll self own (replaces && r.any fun r => 1 < r.fields.length) settings
      trace self (handles.lookup 2) (shown ++ (r.map fun r => r.before ++ r.fields).getD [])
      match r with
      | some r => r.run self mode
      | none => modify fun s => { s with status := s.outputStatus }) fun halt => do
        modify fun s => { s with handles }
        throw halt
    restore
  else
    modify fun s => { s with handles, status := 2 }
    if special then throw .fault
  for _ in List.range ((← get).kept.length - depth) do endKeeping
  return (← get).status

end IdentityDocs.Script
