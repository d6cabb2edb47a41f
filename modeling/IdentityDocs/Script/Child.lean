import IdentityDocs.Script.Variable

/-!
# Processes inside processes

Commands between parentheses, in pipelines and in places of words run in processes of their own.
Such a process begins with a copy of the state, and what it changes is lost, except for files and
streams. Before a process leaves it carries out the action that was set for its end. Signals reach a
process between its commands; one that it has no action for kills it.
-/

namespace IdentityDocs.Script

/-- How commands are run. -/
structure Mode where
  /-- Somebody checks whether they fail. -/
  tested : Bool := false
  /-- The process leaves with them. -/
  last : Bool := false

/-- A program that is to be run. -/
structure Launch where
  /-- The path of its file. -/
  path : Bytes
  /-- What it is called. -/
  name : Bytes
  args : List Bytes
  /-- The variables that are passed on to it. -/
  environment : List (Bytes × Bytes)

/-- What happens one level deeper. -/
structure Engine where
  /-- Runs commands. -/
  run : Mode → Tree → Exec Nat
  /-- Runs the text of commands, which is shown as it is read if it comes from a file and the switch
  for that is on. -/
  runText : (fromFile : Bool) → Mode → Bytes → Exec Nat
  /-- Turns the process into a program. -/
  become : Launch → Exec (Except FileError Nat)

/-! ## Signals -/

/-- The number that stands for the end of a process among signals. -/
def endSignal : Nat := 0

/-- The names of signals, from number one on. -/
def signalNames : List String :=
  ["HUP", "INT", "QUIT", "ILL", "TRAP", "ABRT", "BUS", "FPE", "KILL", "USR1", "SEGV", "USR2", "PIPE",
   "ALRM", "TERM", "16", "CHLD", "CONT", "STOP", "TSTP", "TTIN", "TTOU", "URG", "XCPU", "XFSZ",
   "VTALRM", "PROF", "WINCH", "IO", "PWR", "SYS"]

/-- What is said of a process that a signal killed. -/
def signalStories : List (Nat × String) :=
  [(1, "Hangup"), (2, "Interrupt"), (3, "Quit"), (4, "Illegal instruction"), (5, "Trace/breakpoint trap"),
   (6, "Aborted"), (7, "Bus error"), (8, "Floating point exception"), (9, "Killed"),
   (10, "User defined signal 1"), (11, "Segmentation fault"), (12, "User defined signal 2"),
   (13, "Broken pipe"), (14, "Alarm clock"), (15, "Terminated"), (16, "Stack fault"), (24, "CPU time limit exceeded"),
   (25, "File size limit exceeded"), (26, "Virtual timer expired"), (27, "Profiling timer expired"),
   (29, "I/O possible"), (30, "Power failure"), (31, "Bad system call")]

/-- The signals that kill without a word. -/
def silentSignals : List Nat := [2, 13]

/-- The signals that a process without an action for them passes over. -/
def harmlessSignals : List Nat := [17, 18, 23, 28]

/-- Receives the signals that were sent to the process. -/
def receive (self : Engine) : Exec Unit := do
  let s ← get
  let (mine, others) := s.machine.signals.partition fun signal =>
    signal.target == s.process && signal.time ≤ s.clock
  if !mine.isEmpty then
    set { s with machine := { s.machine with signals := others } }
    let status := s.status
    for signal in (mine.map Signal.number).mergeSort do
      let s ← get
      match if signal = 9 then none else s.actions.lookup signal with
      | some action =>
        discard (self.runText false {} action)
        modify fun s => match s.skip with
          | some (.back true) => s
          | _ => { s with status }
      | none => if signal ∉ harmlessSignals then throw (.killed signal)

/-! ## The end of a process -/

/-- Carries out the action for the end of the process; answers with the last status. -/
def conclude (self : Engine) (status : Nat) : Exec Nat := do
  match (← get).actions.lookup endSignal with
  | none => return status
  | some action =>
    modify fun s => { s with
      status, leaving := none, skip := none
      actions := s.actions.filter (·.1 != endSignal) }
    tryCatch (do
      discard (self.runText false {} action)
      return status) fun halt => do
        match halt with
        | .leave => return (← get).leaving.getD status
        | .fault | .done => return (← get).status
        | halt => throw halt

/-- Runs a process to its end. -/
def untilEnd (self : Engine) (body : Exec Unit) : Exec Ending :=
  tryCatch (do
    let status ← tryCatch (do
      body
      return (← get).status) fun halt => do
        match halt with
        | .leave =>
          let s ← get
          return s.leaving.getD s.status
        | .fault | .done => return (← get).status
        | halt => throw halt
    let status ← conclude self status
    modify fun s => { s with actions := s.actions.filter (·.1 != endSignal) }
    return .exited (status % 256)) fun halt => do
      match halt with
      | .killed signal => return .killed signal
      | halt => throw halt

/-- How long it takes until a process begins. -/
def beginning : Nat := 200

/-- How long it takes until the end of a process comes to light. -/
def noticing : Nat := 300

/-- The state in which a process inside this one begins. -/
def Shell.child (s : Shell) : Shell :=
  let number := s.machine.nextProcess
  { s with
    clock := s.clock + beginning
    machine := { s.machine with nextProcess := number + 1, alive := number :: s.machine.alive }
    process := number
    parent := s.process
    actions := s.actions.filter fun (_, action) => action = []
    aside := []
    leaving := none }

/-- The state after a process inside this one has ended in the given state. -/
def Shell.after (s inner : Shell) : Shell :=
  { s with
    clock := inner.clock + noticing
    machine := { inner.machine with
      files := { inner.machine.files with current := s.machine.files.current }
      alive := s.machine.alive } }

/-- Runs a process inside this one to its end; also answers with its number. -/
def inChild (self : Engine) (body : Exec Unit) : Exec (Nat × Ending) := do
  let s ← get
  let child := s.child
  match (untilEnd self body).run child with
  | .ok ending inner =>
    set (s.after inner)
    return (child.process, ending)
  | .error halt inner =>
    set (s.after inner)
    throw halt

/-- The status that an ending stands for. -/
def statusOf : Ending → Nat
  | .exited status => status
  | .killed signal => 128 + signal

/-- Waits for a process: what kills it is told on the standard error. -/
def await (ending : Ending) : Exec Nat := do
  match ending with
  | .exited _ => pure ()
  | .killed signal =>
    match if signal ∈ silentSignals then none else signalStories.lookup signal with
    | some story => discard (writeTo 2 (ofText story ++ ['\n']))
    | none => pure ()
  return statusOf ending

end IdentityDocs.Script
