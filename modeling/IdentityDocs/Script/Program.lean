import IdentityDocs.Script.Run
import IdentityDocs.Script.Utility.FileWork
import IdentityDocs.Script.Utility.Plain
import IdentityDocs.Script.Utility.Texts

/-!
# Programs

A program is a utility, the shell, or a script whose first line names the program that runs it. The
shell runs a text that it is given, a file of commands, or what it can read.
-/

namespace IdentityDocs.Script

/-! ## The shell -/

/-- The variables that a shell begins with, besides those that were passed on to it. -/
def firstVariables (s : Shell) : List (Bytes × Variable) :=
  let passed := s.bindings.filter fun (name, _) => isName name
  let known (name : Bytes) : Bool := passed.any (·.1 == name)
  let set (name : String) (value : Bytes) : Bytes × Variable := (name.toList, { value := some value })
  let fixed := [set "IFS" [' ', '\t', '\n'], set "OPTIND" ['1'], set "PPID" (decimal s.parent),
    ("PWD".toList,
      { value := some (ofBytes (FileSystem.pathOf s.machine.files.current).bytes), passedOn := true })]
  let usual := [set "PATH" defaultPath, set "PS1" (ofText "# "), set "PS2" (ofText "> "),
    set "PS4" (ofText "+ ")]
  passed.filter (fun (name, _) => !fixed.any (·.1 == name)) ++ fixed ++
    usual.filter fun (name, _) => !known name

/-- Runs the shell with its arguments: switches, and then a text, the path of a file or nothing. -/
def runShell (self : Engine) (args : List Bytes) : Exec Nat := do
  modify fun s => { s with bindings := firstVariables s }
  let left ← turnSwitches true (args.length + 1) args
  let call (name : Bytes) (arguments : List Bytes) : Exec Unit := modify fun s =>
    { s with name, arguments }
  if left.others.contains 'c' then
    match left.args with
    | [] => fail (ofText "-c requires an argument")
    | text :: args =>
      call (args.headD (← get).name) args.tail
      dropTerminal
      discard (self.runText false { last := true } (text.filter (· ≠ '\x00')))
  else
    if left.args.isEmpty then turn 's' true
    let text ← match left.args, ← isOn 's' with
      | path :: args, false => do
        let text ← commandsIn path
        call path args
        pure text
      | args, _ => do
        call (← get).name args
        pure ((← readFrom 0 List.length).filter (· ≠ '\x00'))
    dropTerminal
    discard (self.runText true {} text)
  return (← get).status

/-! ## Programs by name -/

/-- A program that is installed. -/
structure Program where
  /-- Whether it runs scripts. -/
  isShell : Bool := false
  run : Engine → List Bytes → Exec Nat

/-- A program that makes no use of other programs. -/
def Program.utility (run : List Bytes → Exec Nat) : Program := ⟨false, fun _ => run⟩

/-- A program that leaves with a status. -/
def Program.constant (status : Nat) : Program := .utility fun _ => return status

/-- The programs that are installed. -/
def programs : List (String × Program) :=
  [("sh", ⟨true, runShell⟩), ("dash", ⟨true, runShell⟩), ("bash", ⟨true, runShell⟩),
   ("[", .utility (Utility.test true)), ("basename", .utility Utility.baseName),
   ("cat", .utility Utility.cat), ("chmod", .utility Utility.changeModes),
   ("cp", .utility (Utility.carryAll false)), ("cut", .utility Utility.cut),
   ("dirname", .utility Utility.directoryNames), ("echo", .utility Utility.echo),
   ("env", ⟨false, Utility.env⟩), ("false", .constant 1), ("head", .utility Utility.head),
   ("ls", .utility Utility.list), ("mkdir", .utility Utility.makeDirectories),
   ("mv", .utility (Utility.carryAll true)), ("printenv", .utility Utility.printVariables),
   ("printf", .utility print), ("pwd", .utility fun _ => Utility.whereabouts),
   ("rm", .utility Utility.remove), ("rmdir", .utility Utility.removeDirectories),
   ("seq", .utility Utility.sequence), ("sleep", .utility Utility.sleep),
   ("sort", .utility Utility.sortLines), ("tail", .utility Utility.tail),
   ("tee", .utility Utility.tee), ("test", .utility (Utility.test false)),
   ("touch", .utility Utility.touch), ("tr", .utility Utility.exchange), ("true", .constant 0),
   ("uname", .utility fun _ => Utility.tell "Linux"), ("uniq", .utility Utility.uniqueLines),
   ("wc", .utility Utility.count), ("whoami", .utility fun _ => Utility.tell "root")]

/-- The program with the given name. -/
def programNamed? (name : Bytes) : Option Program :=
  (programs.find? fun (known, _) => known.toList = name).map (·.2)

/-! ## Executing files -/

/-- How much of a file is looked at to find out how it is run. -/
def headLength : Nat := 256

/-- The interpreter that the first line of a script names, and the argument it may have. -/
def interpreter? (script : Bytes) : Option (Bytes × List Bytes) :=
  match script.take headLength with
  | '#' :: '!' :: rest =>
    let isGap (c : Char) : Bool := c == ' ' || c == '\t'
    let line := rest.takeWhile fun c => c ≠ '\n' && c ≠ '\x00'
    let isCut := line.length + 2 = headLength
    let line := line.dropWhile isGap
    let name := line.takeWhile fun c => !isGap c
    let argument := (line.drop name.length).dropWhile isGap
    let argument := (argument.reverse.dropWhile isGap).reverse
    if name = [] ∨ (isCut ∧ name.length = line.length) then none
    else some (name, if argument = [] then [] else [argument])
  | _ => none

/-- How many interpreters may be scripts themselves. -/
def maxInterpreters : Nat := 5

/-- The program that runs the file of a launch, and how it is called. -/
def programFor (files : FileSystem) : (depth : Nat) → Launch → Except FileError (Program × Launch)
  | 0, _ => .error .notAProgram
  | depth + 1, l => match files.find (argPath l.path) with
    | .error e => .error e
    | .ok (_, .directory) => .error .permissionDenied
    | .ok (loc, .file bytes kind) =>
      if !kind.mayRun then .error .permissionDenied
      else if kind = .program then
        match (loc.getLast?.map ofBytes).bind programNamed? with
        | some program => .ok (program, l)
        | none => .error .notAProgram
      else match interpreter? (ofBytes bytes) with
        | none => .error .notAProgram
        | some (name, argument) =>
          programFor files depth
            { l with path := name, name, args := argument ++ l.path :: l.args }

/-- How long it takes until a process has become a program. -/
def becoming : Nat := 500

/-- Runs a program in place of what the process did so far; answers with its status. -/
def runInstead (self : Engine) (program : Program) (l : Launch) : Exec Nat := do
  modify fun s =>
    { machine := s.machine
      process := s.process
      main := s.process
      parent := s.parent
      clock := s.clock + becoming
      name := l.name
      scripted := program.isShell
      arguments := []
      handles := s.handles
      bindings := l.environment.map fun (name, value) => (name, { value := some value, passedOn := true })
      actions := s.actions.filter fun (_, action) => action = []
      mask := s.mask }
  let ending ← untilEnd self do
    let status ← program.run self l.args
    let lost := (← get).lost
    if lost && !program.isShell then
      modify fun s => { s with lost := false }
      let handle ← handle? 1
      warn (ofText ("write error: " ++
        if handle.isSome then "No space left on device" else "Bad file descriptor"))
      modify fun s => { s with status := 1 }
    else modify fun s => { s with status }
  match ending with
  | .exited status => return status
  | .killed signal => throw (.killed signal)

/-- Turns the process into a program. A file that names no interpreter is run by the shell. -/
def runLaunch (self : Engine) (l : Launch) : Exec (Except FileError Nat) := do
  let files := (← get).machine.files
  let found := match programFor files maxInterpreters l with
    | .error .notAProgram =>
      let shell := ofText "/bin/sh"
      programFor files 1 { l with path := shell, name := shell, args := l.path :: l.args }
    | found => found
  match found with
  | .error e => return .error e
  | .ok (program, l) => return .ok (← runInstead self program l)

/-- What runs commands that lie so deep inside each other. -/
def engine : (depth : Nat) → Engine
  | 0 =>
    { run := fun _ _ => throw .endless
      runText := fun _ _ _ => throw .endless
      become := fun _ => throw .endless }
  | depth + 1 =>
    { run := fun mode t => runTree (engine depth) mode t
      runText := fun fromFile mode text => Script.runText (engine depth) fromFile mode text
      become := fun l => runLaunch (engine depth) l }

/-- How deep commands may lie inside each other. -/
def maxNesting : Nat := 100000

end IdentityDocs.Script
