import IdentityDocs.Script.Condition
import IdentityDocs.Script.Lookup
import IdentityDocs.Script.Printing
import IdentityDocs.Script.Utility.Basic

/-!
# Small utilities

These utilities write words, parts of paths and rows of numbers, and say who and where the process
is.
-/

namespace IdentityDocs.Script.Utility

/-- The switches of `echo`, and the words behind them: whether escapes mean something, and whether
there is a line end. -/
def echoSwitches : (escapes newline : Bool) → List Bytes → Bool × Bool × List Bytes
  | escapes, newline, ('-' :: c :: letters) :: args =>
    if (c :: letters).all fun c => c == 'n' || c == 'e' || c == 'E' then
      let last := (c :: letters).reverse.find? (· ≠ 'n')
      echoSwitches (match last with
        | some c => c == 'e'
        | none => escapes) (newline && !(c :: letters).contains 'n') args
    else (escapes, newline, ('-' :: c :: letters) :: args)
  | escapes, newline, args => (escapes, newline, args)

/-- Writes the arguments on a line. -/
def echo (args : List Bytes) : Exec Nat := do
  let (escapes, newline, args) := echoSwitches false true args
  let (cs, more) := if escapes then echoed args else (spaced args, true)
  say (if newline && more then cs ++ ['\n'] else cs)
  return 0

/-- Checks a condition. -/
def test (bracket : Bool) (args : List Bytes) : Exec Nat := do
  if bracket && args.getLast? != some [']'] then
    warn (ofText "missing ']'")
    leave 2
  else Script.test bracket args

/-! ## Parts of paths -/

/-- A path without the slashes at its end. -/
def withoutEnd (path : Bytes) : Bytes := (path.reverse.dropWhile (· == '/')).reverse

/-- The last name of a path, without an ending. -/
def lastName (path ending : Bytes) : Bytes :=
  if path ≠ [] ∧ withoutEnd path = [] then ['/']
  else
    let name := ((withoutEnd path).reverse.takeWhile (· ≠ '/')).reverse
    if ending.isSuffixOf name ∧ ending ≠ name then name.take (name.length - ending.length) else name

/-- The path of the directory that a path lies in. -/
def directoryName (path : Bytes) : Bytes :=
  match (withoutEnd path).reverse.dropWhile (· ≠ '/') with
  | [] => if path.head? == some '/' then ['/'] else ['.']
  | above =>
    let directory := (above.dropWhile (· == '/')).reverse
    if directory = [] then ['/'] else directory

/-- Writes the last name of a path. -/
def baseName (args : List Bytes) : Exec Nat := do
  match ← arrange "" args with
  | (_, []) => misuse (ofText "missing operand")
  | (_, [path]) => say (lastName path [] ++ ['\n'])
  | (_, [path, ending]) => say (lastName path ending ++ ['\n'])
  | (_, _ :: _ :: extra :: _) => misuse (ofText "extra operand " ++ named extra)
  return 0

/-- Writes the paths of the directories that paths lie in. -/
def directoryNames (args : List Bytes) : Exec Nat := do
  let (_, paths) ← arrange "" args
  if paths.isEmpty then misuse (ofText "missing operand")
  for path in paths do say (directoryName path ++ ['\n'])
  return 0

/-! ## Numbers and time -/

/-- The whole number that an argument is. -/
def wholeNumber (arg : Bytes) : Exec Int :=
  match decimalInteger? arg with
  | some n => return n
  | none => misuse (ofText "invalid floating point argument: " ++ named arg)

/-- Writes a row of whole numbers. -/
def sequence (args : List Bytes) : Exec Nat := do
  let (between, args) : Bytes × List Bytes := match args with
    | ['-', 's'] :: between :: args => (between, args)
    | ('-' :: 's' :: between) :: args => (between, args)
    | args => (['\n'], args)
  let (first, step, last) ← match args with
    | [] => misuse (ofText "missing operand")
    | [last] => pure ((1 : Int), (1 : Int), ← wholeNumber last)
    | [first, last] => pure (← wholeNumber first, (1 : Int), ← wholeNumber last)
    | [first, step, last] => pure (← wholeNumber first, ← wholeNumber step, ← wholeNumber last)
    | _ :: _ :: _ :: extra :: _ => misuse (ofText "extra operand " ++ named extra)
  if step = 0 then misuse (ofText "invalid Zero increment value: '0'")
  let count := (Int.fdiv (last - first) step + 1).toNat
  let numbers := (List.range count).map fun (i : Nat) => signed (first + step * (i : Int))
  if count ≠ 0 then say (List.intercalate between numbers ++ ['\n'])
  return 0

/-- How many microseconds a unit of time has. -/
def unitOf : Bytes → Option Float
  | [] | ['s'] => some 1000000
  | ['m'] => some (60 * 1000000)
  | ['h'] => some (3600 * 1000000)
  | ['d'] => some (86400 * 1000000)
  | _ => none

/-- Lets time pass. -/
def sleep (args : List Bytes) : Exec Nat := do
  if args.isEmpty then misuse (ofText "missing operand")
  let spans ← args.mapM fun arg => do
    match (scanDouble arg).bind fun (count, unit) => (unitOf unit).map (count * ·) with
    | some span => if 0 ≤ span then return span else misuse (ofText "invalid time interval " ++ named arg)
    | none => misuse (ofText "invalid time interval " ++ named arg)
  let span := spans.foldl (· + ·) 0
  passTo ((← get).clock + span.toUInt64.toNat)
  return 0

/-! ## The process -/

/-- Writes the path of the current directory. -/
def whereabouts : Exec Nat := do
  let place := (← get).machine.files.current
  say (ofBytes (FileSystem.pathOf place).bytes ++ ['\n'])
  return 0

/-- Writes a line. -/
def tell (line : String) : Exec Nat := do
  say (ofText (line ++ "\n"))
  return 0

/-- Writes the variables that were passed on to the process. -/
def printVariables (args : List Bytes) : Exec Nat := do
  let environment := passedOn (← get)
  match args with
  | [] =>
    for (name, value) in environment do say (name ++ '=' :: value ++ ['\n'])
    return 0
  | names =>
    let values := names.filterMap fun name => environment.lookup name
    for value in values do say (value ++ ['\n'])
    return if values.length = names.length then 0 else 1

/-- Runs a program with other variables, or writes the variables. -/
def env (self : Engine) (args : List Bytes) : Exec Nat := do
  let args ← match args with
    | ['-', 'i'] :: rest | ['-'] :: rest => do
      modify fun s => { s with bindings := [] }
      pure rest
    | args => pure args
  let settings := args.takeWhile fun arg => arg.contains '='
  for arg in settings do
    let name := arg.takeWhile (· ≠ '=')
    let v : Variable := { value := some (arg.drop (name.length + 1)), passedOn := true }
    modify fun s => { s with bindings := bind s.bindings name v }
  match args.drop settings.length with
  | [] => printVariables []
  | name :: args =>
    let s ← get
    let path := ((s.bindings.lookup "PATH".toList).bind Variable.value).getD defaultPath
    let found := if name.contains '/' then .ok name else searchPath s.machine.files path name
    let result ← match found with
      | .error e => pure (.error e)
      | .ok path => self.become { path, name, args, environment := passedOn s }
    match result with
    | .ok status => return status
    | .error e =>
      warn (named name ++ ofText (": " ++ briefly e))
      return match e with
        | .notFound => 127
        | _ => 126

end IdentityDocs.Script.Utility
