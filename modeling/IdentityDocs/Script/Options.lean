import IdentityDocs.Script.Variable

/-!
# Options and switches

Options are letters behind a dash, several of which may stand together; some take an argument. A
script has switches, which have a name and mostly a letter, and are turned on behind a dash and off
behind a plus sign.
-/

namespace IdentityDocs.Script

/-! ## Options -/

/-- Whether a letter takes an argument; `none` if it is not known. Among the known letters, a colon
follows those that take one. -/
def takesArgument? : (known : Bytes) → Char → Option Bool
  | [], _ => none
  | letter :: ':' :: known, c => if letter = c then some true else takesArgument? known c
  | letter :: known, c => if letter = c then some false else takesArgument? known c

/-- An option with its argument. -/
abbrev Given := Char × Bytes

/-- Reads options, of which the letters of a cluster come next; answers with the arguments behind
them, too. -/
def readOptions (known : Bytes) :
    (fuel : Nat) → (cluster : Bytes) → List Bytes → Exec (List Given × List Bytes)
  | 0, _, args => return ([], args)
  | fuel + 1, [], args => match args with
    | ('-' :: c :: letters) :: rest =>
      if c = '-' ∧ letters = [] then return ([], rest)
      else readOptions known fuel (c :: letters) rest
    | args => return ([], args)
  | fuel + 1, c :: letters, args => match takesArgument? known c with
    | none => fail (ofText "Illegal option -" ++ [c])
    | some false => do
      let (given, args) ← readOptions known fuel letters args
      return ((c, []) :: given, args)
    | some true => match letters, args with
      | [], [] => fail (ofText "No arg for -" ++ c :: ofText " option")
      | [], value :: args => do
        let (given, args) ← readOptions known fuel [] args
        return ((c, value) :: given, args)
      | value, args => do
        let (given, args) ← readOptions known fuel [] args
        return ((c, value) :: given, args)

/-- The options in front of the arguments of a command, and the arguments behind them. -/
def optionsOf (known : String) (args : List Bytes) : Exec (List Given × List Bytes) :=
  readOptions known.toList (args.flatten.length + args.length + 1) [] args

/-- The arguments of a command that has no options. -/
def withoutOptions (args : List Bytes) : Exec (List Bytes) := do return (← optionsOf "" args).2

/-- Gives the script other arguments. -/
def setArguments (arguments : List Bytes) : Exec Unit := modify fun s => { s with
  arguments, optionIndex := 1, optionPlace := none }

/-! ## Switches -/

/-- The names of the switches, with their letters. A switch without a letter has a sign that no
argument can hold. -/
def switchNames : List (String × Char) :=
  [("errexit", 'e'), ("noglob", 'f'), ("ignoreeof", 'I'), ("interactive", 'i'), ("monitor", 'm'),
   ("noexec", 'n'), ("stdin", 's'), ("xtrace", 'x'), ("verbose", 'v'), ("vi", 'V'), ("emacs", 'E'),
   ("noclobber", 'C'), ("allexport", 'a'), ("notify", 'b'), ("nounset", 'u'), ("privileged", 'p'),
   ("nolog", '→'), ("debug", '←')]

/-- Turns a switch on or off. -/
def turn (letter : Char) (on : Bool) : Exec Unit := modify fun s =>
  let others := s.switches.filter fun c =>
    c != letter && !(on && ((letter == 'V' && c == 'E') || (letter == 'E' && c == 'V')))
  { s with switches := if on then letter :: others else others }

/-- The letters of the switches that are on. -/
def shownSwitches (s : Shell) : Bytes :=
  (switchNames.filterMap fun (_, c) =>
    if s.switches.contains c ∧ c.toNat < 256 then some c else none).reverse

/-- Lists the switches, in words or as commands. -/
def listSwitches (asCommands : Bool) : Exec Unit := do
  if !asCommands then say (ofText "Current option settings\n")
  let switches := (← get).switches
  for (name, letter) in switchNames do
    let on := switches.contains letter
    if asCommands then say (ofText ("set " ++ (if on then "-" else "+") ++ "o " ++ name ++ "\n"))
    else
      let gap := String.ofList (List.replicate (16 - name.length) ' ')
      say (ofText (name ++ gap ++ (if on then "on" else "off") ++ "\n"))

/-- Turns the switch with a name on or off, or lists all if there is no name. -/
def turnNamed (on : Bool) : Option Bytes → Exec Unit
  | none => listSwitches !on
  | some name => match switchNames.find? fun (known, _) => known.toList = name with
    | some (_, letter) => turn letter on
    | none => fail (ofText "Illegal option -o " ++ name)

/-- Turns the switches on or off whose letters are given. At the start of a script there are letters
that are no switches; those are answered with. -/
def turnLetters (atStart on : Bool) : (letters : Bytes) → List Bytes → Exec (Bytes × List Bytes)
  | [], args => return ([], args)
  | 'o' :: letters, args => do
    turnNamed on args.head?
    turnLetters atStart on letters args.tail
  | c :: letters, args =>
    if atStart && (c == 'c' || c == 'l') then do
      let (others, args) ← turnLetters atStart on letters args
      return (c :: others, args)
    else if switchNames.any fun (_, letter) => letter == c then do
      turn c on
      turnLetters atStart on letters args
    else fail (ofText "Illegal option -" ++ [c])

/-- What the switches in front of arguments leave. -/
structure Switched where
  /-- The letters that are no switches. -/
  others : Bytes := []
  args : List Bytes
  /-- Two dashes tell that there are no other arguments. -/
  cleared : Bool := false

/-- Turns switches on or off as the first arguments say. -/
def turnSwitches (atStart : Bool) : (fuel : Nat) → List Bytes → Exec Switched
  | 0, args => return { args }
  | fuel + 1, args => match args with
    | ['-'] :: rest => do
      if !atStart then
        turn 'x' false
        turn 'v' false
      return { args := rest }
    | ['-', '-'] :: rest => return { args := rest, cleared := rest.isEmpty }
    | (sign :: letters) :: rest =>
      if sign = '-' ∨ sign = '+' then do
        let (others, rest) ← turnLetters atStart (sign = '-') letters rest
        let s ← turnSwitches atStart fuel rest
        return { s with others := others ++ s.others }
      else return { args }
    | args => return { args }

/-- Turns the switch off that takes a terminal, for there is none. The process that began with the
script says so. -/
def dropTerminal : Exec Unit := do
  let s ← get
  if s.switches.contains 'm' ∧ s.process = s.main then
    warn (ofText "can't access tty; job control turned off")
    turn 'm' false

end IdentityDocs.Script
