import IdentityDocs.Error.Recognition
import IdentityDocs.Script.Grammar
import IdentityDocs.Script.Number

/-!
# Running scripts

A script runs in a process. It has variables, arguments and functions of its own, and descriptors
that lead to streams; the streams and the files belong to all processes. What a step does to the
state stays done when the step halts.

Time passes while a process sleeps and when a process begins, and at no other occasion. It puts what
processes write at the same time in order.
-/

namespace IdentityDocs.Script

/-! ## What all processes share -/

/-- A text that was written. -/
structure Chunk where
  /-- When it was written. -/
  time : Nat
  /-- The process that wrote it. -/
  writer : Nat
  text : Bytes

/-- Where descriptors lead. -/
inductive Stream
  /-- A text that is read once. -/
  | text (rest : Bytes)
  /-- What was written, the latest first. -/
  | gathered (chunks : List Chunk)
  /-- A file, from a position on; `atEnd` tells that writing goes to its end. -/
  | file (place : Location) (position : Nat) (atEnd : Bool)
  | directory
  /-- Nothing is read, and what is written is gone. -/
  | void
  /-- Nothing is read, and nothing can be written. -/
  | full
  /-- Zeros without end are read. -/
  | zeros

/-- A descriptor. -/
structure Handle where
  /-- The number of the stream. -/
  stream : Nat
  reads : Bool
  writes : Bool

/-- A signal that was sent and not yet received. -/
structure Signal where
  number : Nat
  /-- The process that it goes to. -/
  target : Nat
  /-- When it was sent. -/
  time : Nat

/-- What all processes share. -/
structure Machine where
  files : FileSystem
  streams : Array Stream := #[]
  nextProcess : Nat := 1000
  signals : List Signal := []
  /-- The processes that run, the innermost first. -/
  alive : List Nat := []

/-! ## What belongs to a process -/

/-- A variable. One without a value can still be passed on or be read-only. -/
structure Variable where
  value : Option Bytes
  passedOn : Bool := false
  readOnly : Bool := false

/-- The switches of a script, by their letters. -/
abbrev Switches := List Char

/-- Why the commands that follow are passed over. -/
inductive Skip
  /-- Leaves so many repetitions. -/
  | leave (count : Nat)
  /-- Goes on with the next turn of a repetition, after leaving those inside it. -/
  | again (count : Nat)
  /-- Leaves a function or a file of commands; `given` tells that it was told a status. -/
  | back (given : Bool)

/-- What a function changes back when it is left. -/
inductive Kept
  | variable (name : Bytes) (was : Option Variable)
  | switches (was : Switches)

/-- A process that nobody waits for at once. -/
structure Aside where
  /-- Its number among the processes aside. -/
  slot : Nat
  /-- Its number among all processes. -/
  process : Nat
  ending : Ending
  /-- When it ends. -/
  finish : Nat
  /-- Whether it was waited for. -/
  waited : Bool := false

/-- The state of a process that runs a script. -/
structure Shell where
  machine : Machine
  /-- The number of the process. -/
  process : Nat
  /-- The number of the process that began with the script. -/
  main : Nat
  /-- The process that began this one. -/
  parent : Nat := 1
  /-- The time that the process has come to, in microseconds. -/
  clock : Nat := 0
  name : Bytes
  /-- Whether the process runs a script; its complaints tell the line then. -/
  scripted : Bool := true
  arguments : List Bytes
  handles : List (Nat × Handle) := []
  bindings : List (Bytes × Variable) := []
  functions : List (Bytes × Tree) := []
  aliases : List (Bytes × Bytes) := []
  /-- Programs that were looked up, with their paths. -/
  known : List (Bytes × Bytes) := []
  switches : Switches := []
  /-- The texts below the lines of the script, by their numbers. -/
  texts : List (Nat × Word) := []
  status : Nat := 0
  /-- The status of the last commands whose output was taken. -/
  outputStatus : Nat := 0
  /-- The status with which the process is to leave. -/
  leaving : Option Nat := none
  /-- The processes aside, the latest first. -/
  aside : List Aside := []
  lastAside : Option Nat := none
  /-- What is done when a signal comes; nothing at all if the action is empty. -/
  actions : List (Nat × Bytes) := []
  line : Nat := 0
  /-- The line up to which the script has been read. -/
  lineRead : Nat := 0
  /-- The command that complains, if it is one of the shell itself. -/
  speaker : Option Bytes := none
  skip : Option Skip := none
  /-- How many repetitions the command is in. -/
  loops : Nat := 0
  /-- What the functions that run change back, the innermost first. -/
  kept : List (List Kept) := []
  /-- The next argument that options are looked for in, and the place in it. -/
  optionIndex : Nat := 1
  optionPlace : Option Nat := none
  /-- Whether a trace is being written. -/
  tracing : Bool := false
  /-- The permissions that new files do not get. -/
  mask : Nat := 18
  /-- What is still to be written to the standard output, the latest first. -/
  unsaid : List Bytes := []
  /-- Whether something could not be written to the standard output. -/
  lost : Bool := false

/-- Why a script does not go on. -/
inductive Halt
  /-- An error; the status is in the state. -/
  | fault
  /-- The process was told to leave. -/
  | leave
  /-- The process is done; the status is in the state. -/
  | done
  | killed (signal : Nat)
  /-- The script runs for longer than anybody waits. -/
  | endless
  deriving DecidableEq

/-- A step of a script. -/
abbrev Exec := EStateM Halt Shell

/-- Repeats a step until it is done. -/
def repeatExec {σ α : Type} (step : σ → Exec (Turn σ α)) : (fuel : Nat) → σ → Exec α
  | 0, _ => throw .endless
  | fuel + 1, state => do
    match ← step state with
    | .again state => repeatExec step fuel state
    | .done value => return value

/-- How many turns a repetition may take. -/
def maxTurns : Nat := 1000000

/-- How long anybody waits for a script, in microseconds. -/
def longest : Nat := 100 * 1000000

/-- Goes on at a later time. -/
def passTo (time : Nat) : Exec Unit := do
  modify fun s => { s with clock := max s.clock time }
  if longest ≤ (← get).clock then throw .endless

/-- Whether a switch is on. -/
def isOn (letter : Char) : Exec Bool := do return (← get).switches.contains letter

/-! ## Streams -/

/-- The content of the file at a location. -/
def contentAt (files : FileSystem) (place : Location) : Bytes :=
  match files.get? place with
  | some (.file bytes _) => ofBytes bytes
  | _ => []

/-- The files with other content at a location where a file is. -/
def setContent (files : FileSystem) (place : Location) (content : Bytes) : FileSystem :=
  match files.get? place with
  | some (.file _ .void) => files
  | some (.file _ kind) => files.put place (.file (toBytes content) kind.afterWriting)
  | _ => files

/-- A text with another one put over it from a position on. -/
def overwrite (content : Bytes) (position : Nat) (cs : Bytes) : Bytes :=
  content.take position ++ List.replicate (position - content.length) '\x00' ++ cs ++
    content.drop (position + cs.length)

/-- Writes to a stream; tells whether that could be done. -/
def Machine.write (m : Machine) (stream : Nat) (chunk : Chunk) : Machine × Bool :=
  let cs := chunk.text
  match m.streams[stream]? with
  | some (.gathered chunks) =>
    ({ m with streams := m.streams.setIfInBounds stream (.gathered (chunk :: chunks)) }, true)
  | some (.file place position atEnd) =>
    let content := contentAt m.files place
    let position := if atEnd then content.length else position
    ({ m with
      files := setContent m.files place (overwrite content position cs)
      streams := m.streams.setIfInBounds stream (.file place (position + cs.length) atEnd) }, true)
  | some .void => (m, true)
  | _ => (m, false)

/-- How many zeros are read at once from a device of zeros. -/
def zerosAtOnce : Nat := 65536

/-- Reads from a stream as much as `amount` takes off what is there. -/
def Machine.read (m : Machine) (stream : Nat) (amount : Bytes → Nat) : Machine × Bytes :=
  match m.streams[stream]? with
  | some (.text rest) =>
    let n := amount rest
    ({ m with streams := m.streams.setIfInBounds stream (.text (rest.drop n)) }, rest.take n)
  | some (.file place position atEnd) =>
    let rest := (contentAt m.files place).drop position
    let n := amount rest
    let read := rest.take n
    ({ m with streams := m.streams.setIfInBounds stream (.file place (position + read.length) atEnd) },
      read)
  | some .zeros => (m, List.replicate (amount (List.replicate zerosAtOnce '\x00')) '\x00')
  | _ => (m, [])

/-- What was written to a stream, in the order of time. -/
def Machine.gathered (m : Machine) (stream : Nat) : Bytes :=
  match m.streams[stream]? with
  | some (.gathered chunks) =>
    ((chunks.reverse.mergeSort fun a b => a.time ≤ b.time).map Chunk.text).flatten
  | _ => []

/-- The machine without what a process wrote after a time. -/
def Machine.without (m : Machine) (writer time : Nat) : Machine :=
  { m with streams := m.streams.map fun
    | .gathered chunks => .gathered (chunks.filter fun c => c.writer != writer || c.time ≤ time)
    | stream => stream }

/-- Adds a stream; also answers with its number. -/
def Machine.addStream (m : Machine) (s : Stream) : Machine × Nat :=
  ({ m with streams := m.streams.push s }, m.streams.size)

/-- Adds a stream; answers with its number. -/
def addStream (stream : Stream) : Exec Nat :=
  modifyGet fun s =>
    let (machine, number) := s.machine.addStream stream
    (number, { s with machine })

/-- The descriptor with the given number. -/
def handle? (descriptor : Nat) : Exec (Option Handle) := do
  return (← get).handles.lookup descriptor

/-- A text that the process writes. -/
def Shell.chunk (s : Shell) (text : Bytes) : Chunk := ⟨s.clock, s.process, text⟩

/-- Writes to a descriptor; tells whether that could be done. -/
def writeTo (descriptor : Nat) (cs : Bytes) : Exec Bool := do
  if cs = [] then return true
  match ← handle? descriptor with
  | some handle =>
    if handle.writes then
      modifyGet fun s =>
        let (machine, done) := s.machine.write handle.stream (s.chunk cs)
        (done, { s with machine })
    else return false
  | none => return false

/-- Reads from a descriptor as much as `amount` takes off what is there; nothing from one that leads
nowhere. -/
def readFrom (descriptor : Nat) (amount : Bytes → Nat) : Exec Bytes := do
  match ← handle? descriptor with
  | some handle =>
    if handle.reads then
      modifyGet fun s =>
        let (machine, cs) := s.machine.read handle.stream amount
        (cs, { s with machine })
    else return []
  | none => return []

/-! ## Complaints -/

/-- What complaints begin with. -/
def complaintStart (s : Shell) : Bytes :=
  s.name ++ ofText ": " ++ (if s.scripted then decimal s.line ++ ofText ": " else []) ++
    match s.speaker with
    | some speaker => speaker ++ ofText ": "
    | none => []

/-- Complains on the standard error. -/
def warn (message : Bytes) : Exec Unit := do
  discard (writeTo 2 (complaintStart (← get) ++ message ++ ['\n']))

/-- Writes what is still to be written to the standard output. -/
def flush : Exec Unit := do
  let cs := (← get).unsaid.reverse.flatten
  modify fun s => { s with unsaid := [] }
  if !(← writeTo 1 cs) then modify fun s => { s with lost := true }

/-- Writes to the standard output; a script does so when its command is done. -/
def say (cs : Bytes) : Exec Unit := do
  modify fun s => { s with unsaid := cs :: s.unsaid }
  if !(← get).scripted then flush

/-- Complains, and fails with a status. -/
def failWith {α : Type} (status : Nat) (message : Bytes) : Exec α := do
  modify fun s => { s with status }
  warn message
  throw .fault

/-- Complains, and fails. -/
def fail {α : Type} (message : Bytes) : Exec α := failWith 2 message

/-- Complains about a number. -/
def badNumber {α : Type} (cs : Bytes) : Exec α := fail (ofText "Illegal number: " ++ cs)

/-- The number that an argument is. -/
def countOf (cs : Bytes) : Exec Nat :=
  match decimalInteger? cs with
  | some n => if 0 ≤ n ∧ n ≤ 2147483647 then return n.toNat else badNumber cs
  | none => badNumber cs

end IdentityDocs.Script
