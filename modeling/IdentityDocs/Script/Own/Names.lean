import IdentityDocs.Script.Lookup

/-!
# Commands about names

These commands set, list, mark and remove variables, functions and aliases, and say what a command
is.
-/

namespace IdentityDocs.Script

/-! ## Variables -/

/-- The name in front of an equals sign, and what follows the sign if there is one. -/
def settingOf (arg : Bytes) : Bytes × Option Bytes :=
  let name := arg.takeWhile (· ≠ '=')
  (name, (arg.drop name.length).tail?)

/-- Marks variables as passed on or as read-only, or lists those that are marked. -/
def declareNames (readOnly : Bool) (args : List Bytes) : Exec Nat := do
  let (given, args) ← optionsOf "p" args
  let mark (v : Variable) : Variable :=
    if readOnly then { v with readOnly := true } else { v with passedOn := true }
  if !given.isEmpty || args.isEmpty then
    if readOnly then listVariables "readonly" Variable.readOnly
    else listVariables "export" Variable.passedOn
  else
    for arg in args do
      match settingOf arg with
      | (name, none) => match ← variableNamed? name with
        | some v => modify fun s => { s with bindings := bind s.bindings name (mark v) }
        | none =>
          if !isName name then fail (name ++ ofText ": bad variable name")
          putVariable name (mark { value := none, passedOn := ← isOn 'a' })
      | (name, some value) =>
        assign name value
        modify fun s => match s.bindings.lookup name with
          | some v => { s with bindings := bind s.bindings name (mark v) }
          | none => s
  return 0

/-- Makes variables those of the function alone. -/
def ownNames (args : List Bytes) : Exec Nat := do
  if (← get).kept.isEmpty then fail (ofText "not in a function")
  for arg in args do
    let (name, value) := settingOf arg
    makeOwn name value
  return 0

/-- Removes variables or functions. -/
def unset (args : List Bytes) : Exec Nat := do
  let (given, names) ← optionsOf "vf" args
  for name in names do
    if (given.getLast?.map (·.1)) = some 'f' then
      modify fun s => { s with functions := unbind s.functions name }
    else unassign (settingOf name).1
  return 0

/-- Turns switches on or off and gives the script other arguments, or lists all variables. -/
def changeSettings (args : List Bytes) : Exec Nat := do
  if args.isEmpty then listVariables "" fun v => v.value.isSome
  else
    let left ← turnSwitches false (args.length + 1) args
    dropTerminal
    if left.cleared || !left.args.isEmpty then setArguments left.args
  return 0

/-! ## Reading a line -/

/-- How much of a text the next line takes, with its end. A backslash hides the end of a line unless
the line is taken as it stands. -/
def lineLength (raw : Bool) : Bytes → Nat
  | [] => 0
  | '\n' :: _ => 1
  | '\\' :: c :: rest => if raw then 1 + lineLength raw (c :: rest) else 2 + lineLength raw rest
  | _ :: rest => 1 + lineLength raw rest

/-- The characters of a line, where a backslash quotes the one behind it, and whether the line has an
end. -/
def lineCharacters (raw : Bool) : Bytes → List Marked × Bool
  | [] => ([], false)
  | '\n' :: _ => ([], true)
  | '\\' :: rest =>
    if raw then
      let (cs, done) := lineCharacters raw rest
      (('\\', false) :: cs, done)
    else match rest with
      | [] => ([], false)
      | '\n' :: rest => lineCharacters raw rest
      | c :: rest =>
        let (cs, done) := lineCharacters raw rest
        ((c, true) :: cs, done)
  | c :: rest =>
    let (cs, done) := lineCharacters raw rest
    ((c, false) :: cs, done)

/-- Reads a line into variables. -/
def readLine (args : List Bytes) : Exec Nat := do
  let (given, names) ← optionsOf "p:r" args
  if names.isEmpty then fail (ofText "arg count")
  let raw := given.any (·.1 == 'r')
  let (cs, done) := lineCharacters raw ((← readFrom 0 (lineLength raw)).filter (· ≠ '\x00'))
  let fields := lineFields (← separators) names.length cs
  for (name, i) in names.zipIdx do assign name (fields.getD i [])
  return if done then 0 else 1

/-! ## Options of the script -/

/-- Where the search for options in arguments stands. -/
structure OptionSearch where
  /-- What is left of the argument that is being read; `none` at its end. -/
  cluster : Option Bytes
  /-- How many arguments have been read. -/
  done : Nat

/-- Finds the next option in arguments; `none` if there is no other. -/
def nextOption? (words : List Bytes) (s : OptionSearch) : Option (Char × Bytes × Nat) × Nat :=
  match s.cluster with
  | some (c :: letters) => (some (c, letters, s.done), s.done)
  | _ => match words[s.done]? with
    | some ['-', '-'] => (none, s.done + 1)
    | some ('-' :: c :: letters) => (some (c, letters, s.done + 1), s.done + 1)
    | _ => (none, s.done)

/-- Reads the next option of the script, or of the arguments given, into a variable. -/
def getOptions (args : List Bytes) : Exec Nat := do
  match ← withoutOptions args with
  | letters :: name :: rest =>
    let s ← get
    let words := if rest.isEmpty then s.arguments else rest
    let fresh := words.length + 1 < s.optionIndex
    let index := if fresh then 1 else s.optionIndex
    let word := words.getD (index - 2) []
    let cluster := if fresh || index ≤ 1 then none
      else (s.optionPlace.filter (· ≤ word.length)).map word.drop
    let silent := letters.head? == some ':'
    let finish (status : Nat) (c : Char) (left : Option Bytes) (done : Nat) : Exec Nat := do
      assign "OPTIND".toList (decimal (done + 1))
      assign name [c]
      modify fun s => { s with
        optionIndex := done + 1
        optionPlace := left.map fun left => (words.getD (done - 1) []).length - left.length }
      return status
    let refuse (sign c : Char) (message : Bytes) : Exec Char := do
      if silent then
        assign "OPTARG".toList [c]
        return sign
      else
        discard (writeTo 2 (message ++ ['\n']))
        unassign "OPTARG".toList
        return '?'
    match nextOption? words ⟨cluster, index - 1⟩ with
    | (none, done) => finish 1 '?' none done
    | (some (c, left, done), _) => match takesArgument? letters c with
      | none =>
        let sign ← refuse '?' c (ofText "Illegal option -" ++ [c])
        finish 0 sign (some left) done
      | some false =>
        assign "OPTARG".toList []
        finish 0 c (some left) done
      | some true => match left, words[done]? with
        | [], none =>
          let sign ← refuse ':' c (ofText "No arg for -" ++ c :: ofText " option")
          finish 0 sign none done
        | [], some value =>
          assign "OPTARG".toList value
          finish 0 c none (done + 1)
        | value, _ =>
          assign "OPTARG".toList value
          finish 0 c none done
  | _ => fail (ofText "Usage: getopts optstring var [arg...]")

/-! ## Aliases -/

/-- The place of a name among `count` in the order in which names are listed. -/
def listingPlace (count : Nat) (name : Bytes) : Nat :=
  name.foldl (fun n c => n + c.toNat) (16 * (name.headD '\x00').toNat) % 32768 % count

/-- Entries in the order in which names are listed. -/
def inListingOrder {α : Type} (count : Nat) (entries : List (Bytes × α)) : List (Bytes × α) :=
  entries.mergeSort fun a b => decide (listingPlace count a.1 ≤ listingPlace count b.1)

/-- Sets aliases, or shows them. -/
def setAliases (args : List Bytes) : Exec Nat := do
  if args.isEmpty then
    for (name, text) in inListingOrder 39 (← get).aliases do say (aliasLine name text)
    return 0
  let mut status := 0
  for arg in args do
    let name := arg.take 1 ++ (arg.drop 1).takeWhile (· ≠ '=')
    match arg.drop name.length with
    | [] => match (← get).aliases.lookup name with
      | some text => say (aliasLine name text)
      | none =>
        discard (writeTo 2 (ofText "alias: " ++ name ++ ofText " not found\n"))
        status := 1
    | _ :: text => modify fun s => { s with aliases := bind s.aliases name text }
  return status

/-- Removes aliases. -/
def removeAliases (args : List Bytes) : Exec Nat := do
  let (given, names) ← optionsOf "a" args
  if !given.isEmpty then
    modify fun s => { s with aliases := [] }
    return 0
  let mut status := 0
  for name in names do
    if ((← get).aliases.lookup name).isSome then
      modify fun s => { s with aliases := unbind s.aliases name }
    else
      discard (writeTo 2 (ofText "unalias: " ++ name ++ ofText " not found\n"))
      status := 1
  return status

/-! ## What commands are -/

/-- Says what commands are. -/
def describeAll (args : List Bytes) : Exec Nat := do
  let mut status := 0
  for name in args do
    if (← describe name none true) ≠ 0 then status := 127
  return status

/-- Says what a command is, if an option asks for that. -/
def describeCommand (args : List Bytes) : Exec Nat := do
  let (given, args) ← optionsOf "pvV" args
  let asks (c : Char) : Bool := given.any (·.1 == c)
  match args with
  | name :: _ =>
    if asks 'v' || asks 'V' then
      describe name (if asks 'p' then some defaultPath else none) (asks 'V')
    else return 0
  | [] => return 0

/-- Looks programs up, or lists those that were looked up. -/
def lookUpAll (args : List Bytes) : Exec Nat := do
  let (given, names) ← optionsOf "r" args
  if !given.isEmpty then
    modify fun s => { s with known := [] }
    return 0
  if names.isEmpty then
    for (_, path) in inListingOrder 31 (← get).known do say (path ++ ['\n'])
  let mut status := 0
  for name in names do
    modify fun s => { s with known := unbind s.known name }
    match ← findCommand name true none with
    | .missing e =>
      warn (name ++ ofText (": " ++ brieflyOr "not found" e))
      status := 1
    | _ => pure ()
  return status

end IdentityDocs.Script
