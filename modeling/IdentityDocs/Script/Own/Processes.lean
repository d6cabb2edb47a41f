import IdentityDocs.Script.Own.Aside

/-!
# Commands about processes

These commands send signals to processes, set what is done when signals come, and show or set what
processes may do.
-/

namespace IdentityDocs.Script

/-! ## Signals -/

/-- How many signals there are, the end of a process among them. -/
def signalCount : Nat := 65

/-- The name of a signal. -/
def signalName (signal : Nat) : Bytes :=
  if signal = endSignal then ofText "EXIT"
  else match signalNames[signal - 1]? with
    | some name => ofText name
    | none =>
      if signal < 34 then decimal signal
      else if signal = 34 then ofText "RTMIN"
      else if signal < 50 then ofText "RTMIN+" ++ decimal (signal - 34)
      else if signal < 64 then ofText "RTMAX-" ++ decimal (64 - signal)
      else ofText "RTMAX"

/-- The signal with a number. -/
def numberedSignal? (cs : Bytes) : Option Nat := (number? cs).filter (· < signalCount)

/-- The signal with a number or a name, in small or capital letters, from the given one on. -/
def signal? (first : Nat) (cs : Bytes) : Option Nat :=
  match numberedSignal? cs with
  | some signal => some signal
  | none => ((List.range signalCount).drop first).find? fun signal =>
    signalName signal = cs.map Char.toUpper

/-! ## Actions -/

/-- Sets what is done when signals come, or lists that. -/
def setActions (args : List Bytes) : Exec Nat := do
  match ← withoutOptions args with
  | [] =>
    let actions := (← get).actions
    for signal in List.range signalCount do
      match actions.lookup signal with
      | some action =>
        say (ofText "trap -- " ++ quotedText action ++ ' ' :: signalName signal ++ ['\n'])
      | none => pure ()
    return 0
  | first :: rest =>
    let isSignal := rest.isEmpty || (numberedSignal? first).isSome
    let action := if isSignal || first = ['-'] then none else some first
    for arg in if isSignal then first :: rest else rest do
      match signal? 0 arg with
      | none =>
        discard (writeTo 2 (ofText "trap: " ++ arg ++ ofText ": bad trap\n"))
        return 1
      | some signal => modify fun s =>
        let others := s.actions.filter (·.1 != signal)
        { s with actions := match action with
          | some action => (signal, action) :: others
          | none => others }
    return 0

/-! ## Sending signals -/

/-- How to send signals. -/
def killUsage {α : Type} : Exec α :=
  fail (ofText
    "Usage: kill [-s sigspec | -signum | -sigspec] [pid | job]... or\nkill -l [exitstatus]")

/-- The state after a process aside was killed now. What it would have written later is not
written. -/
def Shell.withKilled (s : Shell) (signal process : Nat) : Shell :=
  { s with
    machine := s.machine.without process s.clock
    aside := s.aside.map fun a =>
      if a.process = process then { a with ending := .killed signal, finish := s.clock } else a }

/-- Sends a signal to a process; tells whether there is such a process. -/
def send (signal process : Nat) : Exec Bool := do
  let s ← get
  if s.machine.alive.contains process then
    if signal ≠ 0 then
      let sent : Signal := { number := signal, target := process, time := s.clock }
      set { s with machine := { s.machine with signals := s.machine.signals ++ [sent] } }
    return true
  else match s.aside.find? (·.process == process) with
    | none => return false
    | some a =>
      if signal ≠ 0 ∧ signal ∉ harmlessSignals ∧ s.clock < a.finish then
        set (s.withKilled signal process)
      return !a.waited && s.clock ≤ a.finish

/-- Lists the signals, or names the one that a number or a status stands for. -/
def listSignals (args : List Bytes) : Exec Nat := do
  match args with
  | [] =>
    say (ofText "0\n")
    for signal in (List.range signalCount).drop 1 do say (signalName signal ++ ['\n'])
    return 0
  | arg :: _ =>
    let n ← countOf arg
    let signal := if 128 < n then n - 128 else n
    if signal = 0 ∨ signalCount ≤ signal then
      fail (ofText "invalid signal number or exit status: " ++ arg)
    say (signalName signal ++ ['\n'])
    return 0

/-- The process that a signal goes to; no process has number zero. A process aside has no group of its
own, and signals by its text would go to one. -/
def targetOf : Bytes → Exec Nat
  | '%' :: name => do
    discard (asideNamed ('%' :: name))
    return 0
  | '-' :: digits => do
    discard (countOf digits)
    return 0
  | digits => countOf digits

/-- Sends a signal to processes. -/
def kill (args : List Bytes) : Exec Nat := do
  let (signal, list, targets) : Option Nat × Bool × List Bytes ← match args with
    | [] => killUsage
    | ('-' :: name) :: rest => match signal? 1 name with
      | some signal => pure (some signal, false, rest)
      | none => do
        let (given, targets) ← optionsOf "ls:" args
        let signal ← match given.reverse.lookup 's' with
          | none => pure none
          | some name => match signal? 1 name with
            | some signal => pure (some signal)
            | none => fail (ofText "invalid signal number or name: " ++ name)
        pure (signal, given.any (·.1 == 'l'), targets)
    | targets => pure (none, false, targets)
  if list then
    if signal.isSome && !targets.isEmpty then killUsage
    listSignals targets
  else
    if targets.isEmpty then killUsage
    let mut status := 0
    for target in targets do
      if !(← send (signal.getD 15) (← targetOf target)) then
        warn (ofText "No such process\n")
        status := 1
    return status

/-! ## Limits -/

/-- Shows how much time was used; none that would count. -/
def showTimes : Exec Nat := do
  say (ofText "0m0.000000s 0m0.000000s\n0m0.000000s 0m0.000000s\n")
  return 0

/-- The permissions that are left to the owner, the group and others, in letters. -/
def permissionText (mask : Nat) : Bytes :=
  let letters (who : Char) (shift : Nat) : Bytes :=
    let left := 7 - (mask >>> shift) % 8
    who :: '=' :: ((if left / 4 % 2 = 1 then ['r'] else []) ++
      (if left / 2 % 2 = 1 then ['w'] else []) ++ (if left % 2 = 1 then ['x'] else []))
  letters 'u' 6 ++ ',' :: letters 'g' 3 ++ ',' :: letters 'o' 0

/-- The bits that letters stand for, for all those that `who` names. -/
def permissionBits (who letters : Bytes) : Option Nat :=
  let shifts := (if who = [] then ['a'] else who).flatMap fun c => match c with
    | 'u' => [6]
    | 'g' => [3]
    | 'o' => [0]
    | _ => [6, 3, 0]
  let bit? (c : Char) : Option Nat := match c with
    | 'r' => some 4
    | 'w' => some 2
    | 'x' => some 1
    | _ => none
  (letters.mapM bit?).map fun bits =>
    shifts.foldl (fun all shift => bits.foldl (fun all bit => all ||| (bit <<< shift)) all) 0

/-- The permissions after a change that is given in letters; `none` if it is not understood. -/
def changedPermissions? (left : Nat) (clause : Bytes) : Option Nat :=
  let who := clause.takeWhile fun c => c == 'u' || c == 'g' || c == 'o' || c == 'a'
  match clause.drop who.length with
  | sign :: letters => do
    let bits ← permissionBits who letters
    let all ← permissionBits who ['r', 'w', 'x']
    match sign with
    | '+' => some (left ||| bits)
    | '-' => some (left ^^^ (left &&& bits))
    | '=' => some ((left ^^^ (left &&& all)) ||| bits)
    | _ => none
  | [] => none

/-- Sets or shows the permissions that new files do not get. -/
def setMask (args : List Bytes) : Exec Nat := do
  let (given, args) ← optionsOf "S" args
  match args with
  | [] =>
    let mask := (← get).mask
    if given.isEmpty then
      let digits := Nat.toDigits 8 mask
      say (List.replicate (4 - digits.length) '0' ++ digits ++ ['\n'])
    else say (permissionText mask ++ ['\n'])
    return 0
  | arg :: _ =>
    let mask ← if arg.head?.any Char.isDigit then
        if arg.all isOctal then pure (valueOf 8 arg % 512) else badNumber arg
      else match (Path.splitAtAll ',' arg).foldlM changedPermissions? (511 - (← get).mask) with
        | some left => pure (511 - left)
        | none => fail (ofText "Illegal mode: " ++ arg)
    modify fun s => { s with mask }
    return 0

/-- Shows a limit; nothing is limited. -/
def showLimit : Exec Nat := do
  say (ofText "unlimited\n")
  return 0

end IdentityDocs.Script
