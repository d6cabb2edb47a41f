import IdentityDocs.Script.Lookup

/-!
# Commands about processes aside

These commands list the processes aside and wait for them. Such a process has been run to its end
when it began, but it counts as running until the time of its end has come.
-/

namespace IdentityDocs.Script

/-! ## What arguments mean -/

/-- The process aside that a text such as `%1` means. -/
def asideNamed (arg : Bytes) : Exec Aside := do
  let aside := (← get).aside
  let missing := ofText "No such job: " ++ arg
  let (found, complaint) := match arg with
    | ['%'] | ['%', '%'] | ['%', '+'] => (aside.head?, ofText "No current job")
    | ['%', '-'] => (aside[1]?, ofText "No previous job")
    | '%' :: digits =>
      ((number? digits).bind fun slot => aside.find? (·.slot == slot), missing)
    | _ => (none, missing)
  match found with
  | some a => return a
  | none => fail complaint

/-- The process aside that an argument means by its text or by its number among all processes. -/
def asideMeant (arg : Bytes) : Exec (Option Aside) := do
  match arg with
  | '%' :: _ => some <$> asideNamed arg
  | digits =>
    let process ← countOf digits
    return (← get).aside.find? (·.process == process)

/-! ## Listing -/

/-- What a process aside does, or how it ended. -/
def Aside.story (a : Aside) (clock : Nat) : Bytes :=
  if clock < a.finish then ofText "Running"
  else match a.ending with
    | .exited 0 => ofText "Done"
    | .exited status => ofText "Done(" ++ decimal status ++ [')']
    | .killed signal => ofText ((signalStories.lookup signal).getD "")

/-- How wide the numbers and the story of a process aside are at least. -/
def storyWidth : Nat := 33

/-- The line about a process aside that comes at a place of the list. -/
def Aside.line (a : Aside) (place clock : Nat) (numbered : Bool) : Bytes :=
  let sign := match place with
    | 0 => '+'
    | 1 => '-'
    | _ => ' '
  let line := '[' :: decimal a.slot ++ [']', ' ', sign, ' '] ++
    (if numbered then decimal a.process ++ [' '] else []) ++ a.story clock
  line ++ List.replicate (max 1 (storyWidth - line.length)) ' ' ++ ['\n']

/-- Lists a process aside; one that has ended is forgotten. -/
def listOne (way : Option Char) (a : Aside) : Exec Unit := do
  let s ← get
  let place := s.aside.findIdx (·.slot == a.slot)
  say (if way = some 'p' then decimal a.process ++ ['\n'] else a.line place s.clock (way = some 'l'))
  if way ≠ some 'p' ∧ a.finish ≤ s.clock then
    modify fun s => { s with aside := s.aside.filter (·.slot != a.slot) }

/-- Lists processes aside. -/
def listAside (args : List Bytes) : Exec Nat := do
  let (given, targets) ← optionsOf "lp" args
  let way := given.getLast?.map (·.1)
  if targets.isEmpty then for a in (← get).aside do listOne way a
  else for target in targets do listOne way (← asideNamed target)
  return 0

/-! ## Waiting -/

/-- Waits until a time, unless a signal comes earlier that the process has an action for; answers with
that signal. -/
def waitUntil (time : Nat) : Exec (Option Nat) := do
  let s ← get
  let coming := s.machine.signals.find? fun signal =>
    signal.target == s.process && signal.time < time && s.actions.any (·.1 == signal.number)
  passTo (coming.elim time Signal.time)
  return coming.map Signal.number

/-- Waits for a process aside. What killed it is told unless that has come to light before. -/
def waitForOne (a : Aside) : Exec Nat := do
  let isKnown := a.waited || decide (a.finish < (← get).clock)
  match ← waitUntil a.finish with
  | some signal => return 128 + signal
  | none =>
    modify fun s => { s with aside := s.aside.map fun other =>
      if other.slot = a.slot then { other with waited := true } else other }
    if isKnown then return statusOf a.ending else await a.ending

/-- Waits for processes aside. -/
def waitFor (args : List Bytes) : Exec Nat := do
  match ← withoutOptions args with
  | [] =>
    match ← waitUntil ((← get).aside.foldl (fun time a => max time a.finish) 0) with
    | some signal => return 128 + signal
    | none =>
      modify fun s => { s with aside := s.aside.map fun a => { a with waited := true } }
      return 0
  | targets =>
    let mut status := 127
    for target in targets do
      if let some a ← asideMeant target then status ← waitForOne a
    return status

/-- Refuses to bring a process aside to the foreground or to the background, where none is controlled
in such a way. -/
def moveAside (args : List Bytes) : Exec Nat := do
  match ← withoutOptions args with
  | [] =>
    if (← get).aside.isEmpty then fail (ofText "No current job")
    fail (ofText "job (null) not created under job control")
  | arg :: _ =>
    discard (asideNamed arg)
    fail (ofText "job " ++ arg ++ ofText " not created under job control")

end IdentityDocs.Script
