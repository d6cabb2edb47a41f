import IdentityDocs.Script.Command

/-!
# Running commands

Commands are run one after the other, as long as none is told to leave what it is in. Signals are
received before and after each command. If the script is to end at the first failure, a command
that fails ends it unless somebody checks whether it fails.
-/

namespace IdentityDocs.Script

/-! ## Repetitions -/

/-- What a repetition does after a turn. -/
inductive After
  | on
  | out
  /-- A function or a file of commands is left; `given` tells that it was told a status. -/
  | back (given : Bool)

/-- Takes a command that leaves repetitions into account at the end of a turn. -/
def afterTurn : Exec After := modifyGet fun s =>
  match s.skip with
  | none => (.on, s)
  | some (.back given) => (.back given, s)
  | some (.leave count) => (.out, { s with skip := if count ≤ 1 then none else some (.leave (count - 1)) })
  | some (.again count) =>
    if count ≤ 1 then (.on, { s with skip := none })
    else (.out, { s with skip := some (.again (count - 1)) })

/-- Does something inside a repetition. -/
def inRepetition (body : Exec Nat) : Exec Nat := do
  modify fun s => { s with loops := s.loops + 1 }
  let status ← body
  modify fun s => { s with loops := s.loops - 1 }
  return status

/-- Whether the next command is passed over. -/
def isSkipping : Exec Bool := do return (← get).skip.isSome

/-- Repeats commands as long as a condition succeeds or, if not `succeeds`, as long as it fails. -/
def repeatTree (self : Engine) (mode : Mode) (succeeds : Bool) (condition body : Tree) : Exec Nat :=
  inRepetition do
    repeatExec (fun (status : Nat) => do
      let checked ← self.run { tested := true } condition
      let skipped := (← get).skip.isSome
      match ← afterTurn with
      | .back given => return .done (if given then checked else status)
      | .out => return .done status
      | .on =>
        if skipped then return .again status
        else if (checked = 0) ≠ succeeds then return .done status
        else
          let status ← self.run { tested := mode.tested } body
          match ← afterTurn with
          | .on => return .again status
          | _ => return .done status) maxTurns 0

/-- Runs commands once for each field. -/
def forFields (self : Engine) (mode : Mode) (name : Bytes) (body : Tree) :
    (status : Nat) → List Bytes → Exec Nat
  | status, [] => return status
  | _, field :: fields => do
    assign name field
    let status ← self.run { tested := mode.tested } body
    match ← afterTurn with
    | .on => forFields self mode name body status fields
    | _ => return status

/-! ## Choices -/

/-- Whether a text matches one of the patterns. -/
def matchesAny (self : Engine) (subject : Bytes) : List Word → Exec Bool
  | [] => return false
  | pattern :: patterns => do
    let parts ← patternIn self pattern
    if matchesText parts subject then return true else matchesAny self subject patterns

/-- The commands of the first branch with a pattern that a text matches. -/
def branchFor (self : Engine) (subject : Bytes) : List (List Word × Tree) → Exec Tree
  | [] => return .nothing
  | (patterns, body) :: branches => do
    if ← matchesAny self subject patterns then return body
    else branchFor self subject branches

/-! ## Processes -/

/-- Runs commands each of which reads what the one before it writes. -/
def runPipeline (self : Engine) (mode : Mode) : (input : Option Nat) → List Tree → Exec Nat
  | _, [] => return 0
  | input, command :: commands => do
    let output ← if commands.isEmpty then pure none else (some <$> addStream (.gathered []))
    let handles := (← get).handles
    let fromInput (handles : List (Nat × Handle)) : List (Nat × Handle) := match input with
      | some stream => (0, ⟨stream, true, false⟩) :: handles.filter (·.1 != 0)
      | none => handles
    let intoOutput (handles : List (Nat × Handle)) : List (Nat × Handle) := match output with
      | some stream => (1, ⟨stream, false, true⟩) :: handles.filter (·.1 != 1)
      | none => handles
    let (_, ending) ← inChild self do
      modify fun s => { s with handles := intoOutput (fromInput handles) }
      discard (self.run { mode with last := true } command)
    let status ← await ending
    match output with
    | none => return status
    | some stream =>
      let written := (← get).machine.gathered stream
      runPipeline self mode (some (← addStream (.text written))) commands

/-- Runs commands in a process of their own. A process that leaves with them is theirs, unless it has
actions to carry out. -/
def runInner (self : Engine) (mode : Mode) (body : Tree) (redirects : List Redirect) : Exec Nat := do
  let leads ← redirects.mapM (leadOf self)
  let work : Exec Unit := do
    for (descriptor, target) in leads do follow self descriptor target
    discard (self.run { mode with last := true } body)
  if mode.last && (← get).actions.all (·.2.isEmpty) then
    work
    throw .done
  else
    let (_, ending) ← inChild self work
    await ending

/-- How long a process is busy with beginning another one. -/
def preparing : Nat := 100

/-- Notes a process aside that came to its end now. It gets the first number that is free or that
belongs to one which was waited for. -/
def Shell.began (s : Shell) (process : Nat) (ending : Ending) : Shell :=
  let isTaken (slot : Nat) : Bool := s.aside.any fun a => a.slot == slot && !a.waited
  let slots := (List.range (s.aside.length + 1)).map (· + 1)
  let slot := (slots.find? fun slot => !isTaken slot).getD 1
  { s with
    aside := { slot, process, ending, finish := s.clock } :: s.aside.filter (·.slot != slot)
    lastAside := some process }

/-- Runs commands in a process that nobody waits for at once. It has nothing to read. The process
that it began in goes on at once, even if the other one never ends. -/
def runAside (self : Engine) (body : Tree) : Exec Nat := do
  let s ← get
  let ending ← tryCatch (do
    let (_, ending) ← inChild self do
      lead 0 ⟨← addStream .void, true, false⟩
      discard (self.run { last := true } body)
    return ending) fun halt => do
      if halt ≠ .endless then throw halt
      modify fun s => { s with clock := longest }
      return .killed 9
  set { (← get).began s.machine.nextProcess ending with clock := s.clock + preparing }
  return 0

/-! ## Commands -/

/-- Remembers the line that a command is on. -/
def atLine (line : Nat) : Exec Unit := modify fun s => { s with line }

/-- Runs commands one after the other. -/
def runAll (self : Engine) (mode : Mode) : List Tree → Exec Nat
  | [] => return (← get).status
  | [command] => self.run mode command
  | command :: commands => do
    let status ← self.run { tested := mode.tested } command
    if ← isSkipping then return status else runAll self mode commands

/-- What a command comes to: its status, and whether its failure may end the script. -/
structure Outcome where
  status : Nat
  counts : Bool := false

/-- Runs a command between the signals before and behind it. -/
def outcomeOf (self : Engine) (mode : Mode) : Tree → Exec Outcome
  | .nothing => return ⟨(← get).status, false⟩
  | .simple line settings words redirects => do
    atLine line
    return ⟨← runSimple self mode settings words redirects, true⟩
  | .sequence commands => return ⟨← runAll self mode commands, false⟩
  | .andAlso first second => do
    let status ← self.run { tested := true } first
    if status ≠ 0 || (← isSkipping) then return ⟨status, false⟩
    else return ⟨← self.run mode second, false⟩
  | .orElse first second => do
    let status ← self.run { tested := true } first
    if status = 0 || (← isSkipping) then return ⟨status, false⟩
    else return ⟨← self.run mode second, false⟩
  | .negated body => do
    let status ← self.run { tested := true } body
    if ← isSkipping then return ⟨status, false⟩
    else return ⟨if status = 0 then 1 else 0, false⟩
  | .pipeline commands => return ⟨← runPipeline self mode none commands, true⟩
  | .inner line body redirects => do
    atLine line
    return ⟨← runInner self mode body redirects, true⟩
  | .aside body => return ⟨← runAside self body, true⟩
  | .redirected line body redirects => do
    atLine line
    return ⟨← redirected self redirects (self.run { tested := mode.tested } body), false⟩
  | .choice condition yes no => do
    let status ← self.run { tested := true } condition
    if ← isSkipping then return ⟨status, false⟩
    else if status = 0 then return ⟨← self.run mode yes, false⟩
    else match no with
      | .nothing => return ⟨0, false⟩
      | no => return ⟨← self.run mode no, false⟩
  | .loop succeeds condition body =>
    return ⟨← repeatTree self mode succeeds condition body, false⟩
  | .forEach line name words body => do
    atLine line
    let fields ← words.mapM (fieldsIn self)
    return ⟨← inRepetition (forFields self mode name body 0 fields.flatten), false⟩
  | .select line subject branches => do
    atLine line
    let text ← textOf self { tilde := true } subject
    match ← branchFor self text branches with
    | .nothing => return ⟨0, false⟩
    | body => return ⟨← self.run mode body, false⟩
  | .define name body => do
    modify fun s => { s with functions := bind s.functions name body }
    return ⟨0, false⟩

/-- Runs a command. -/
def runTree (self : Engine) (mode : Mode) (t : Tree) : Exec Nat := do
  if ← isOn 'n' then
    receive self
    return (← get).status
  receive self
  let outcome ← outcomeOf self mode t
  modify fun s => { s with status := outcome.status }
  receive self
  if outcome.counts && !mode.tested && outcome.status ≠ 0 && (← isOn 'e') then throw .done
  return (← get).status

/-! ## Texts -/

/-- A text of commands that is being run. -/
structure Running where
  source : Source
  status : Nat := 0

/-- The text up to the end of the line that reading has come to. -/
def linesRead (before after : Bytes) : Bytes :=
  let read := before.take (before.length - after.length)
  if read.getLast? = some '\n' then read
  else
    let line := after.takeWhile (· ≠ '\n')
    read ++ line ++ (after.drop line.length).take 1

/-- Reads the next complete command of a text and runs it. -/
def runNext (self : Engine) (fromFile : Bool) (mode : Mode) (r : Running) :
    Exec (Turn Running Nat) := do
  let s ← get
  let source := { r.source with aliases := s.aliases, nextText := s.texts.length, texts := [] }
  let showLines (after : Bytes) : Exec Unit := do
    if fromFile && s.switches.contains 'v' then
      discard (writeTo 2 (linesRead source.rest after))
  match readComplete.run source with
  | .error fault after =>
    showLines after.rest
    atLine fault.line
    fail (ofText ("Syntax error: " ++ fault.message))
  | .ok none after =>
    showLines after.rest
    return .done r.status
  | .ok (some tree) after =>
    showLines after.rest
    modify fun s => { s with texts := after.texts ++ s.texts, lineRead := after.line }
    let isLast : Bool := after.putBack && match after.last with
      | .ending => true
      | _ => false
    let status ← self.run { mode with last := mode.last && isLast } tree
    let status := match tree with
      | .nothing => r.status
      | _ => status
    if ← isSkipping then return .done status
    else return .again { source := after, status }

/-- Runs the text of commands. -/
def runText (self : Engine) (fromFile : Bool) (mode : Mode) (text : Bytes) : Exec Nat := do
  let lineRead := (← get).lineRead
  let status ←
    repeatExec (runNext self fromFile mode) (text.length + 2) { source := { rest := text } }
  modify fun s => { s with lineRead }
  return status

end IdentityDocs.Script
