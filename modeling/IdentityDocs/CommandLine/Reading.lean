import IdentityDocs.CommandLine.Request
import IdentityDocs.CommandLine.Word

/-!
# Reading a command line

Words are read from left to right, level by level. The value of an argument is checked only when
the next argument is taken up, or when the level ends, so a word that cannot be placed at all is
reported before a value that stands to its left. A value that is attached to its option is checked
at once.
-/

namespace IdentityDocs.CommandLine

/-- What a level has read so far. -/
structure Reading where
  draft : Draft := {}
  /-- The last argument, and its value as soon as that has been read. -/
  pending : Option (Argument × Option String) := none
  /-- The arguments that are told by their place and have not been read. -/
  places : List Argument
  /-- Whether the options are over. -/
  optionsOver : Bool := false

namespace Reading

/-- The beginning of a level. -/
def start (level : Level) : Reading := { places := level.places }

/-- Whether the next plain word is the value of an option. -/
def wantsValue (r : Reading) : Bool :=
  match r.pending with
  | some (_, none) => true
  | _ => false

/-- Checks the last argument and puts it into the draft. -/
def settle (r : Reading) : Except Fault Reading :=
  match r.pending with
  | none => .ok r
  | some (argument, none) => .error (.missingValue argument)
  | some (argument, some text) =>
    (r.draft.give argument text).map fun draft => { r with draft, pending := none }

/-- Puts the value of an argument into the draft. -/
def give (r : Reading) (argument : Argument) (text : String) : Except Fault Reading := do
  let r ← r.settle
  let draft ← r.draft.give argument text
  return { r with draft }

/-- Takes an option up, with the value that is attached to it. -/
def takeUp (r : Reading) (level : Level) (switch : Switch) (value : Option String) :
    Except Fault Reading :=
  match switch.effect, value with
  | .give argument, some text => r.give argument text
  | .give argument, none => r.settle.map fun r => { r with pending := some (argument, none) }
  | _, some text => .error (.surplusValue switch.name text)
  | .mark argument, none => r.give argument ""
  | .help, none => do let _ ← r.settle; .error (.help level)
  | .version, none => do let _ ← r.settle; .error .version

/-- Takes an option up that is told by a letter. An option without a value cannot have one attached;
it is taken up before what follows its letter is looked at. -/
def takeUpLetter (r : Reading) (level : Level) (switch : Switch) (value : Option String) :
    Except Fault Reading :=
  match switch.effect with
  | .give _ => r.takeUp level switch value
  | _ => r.takeUp level switch none

/-- Reads a plain word into the next place. What has no place is an unknown subcommand on a level
with others below it, and otherwise an argument too many. After the options are over no word leads
to another level. -/
def place (r : Reading) (level : Level) (text : String) : Except Fault Reading :=
  match r.places with
  | argument :: places =>
    r.settle.map fun r => { r with places, pending := some (argument, some text) }
  | [] =>
    if level.below = [] ∨ (r.optionsOver ∧ (level.below? text).isSome) then
      .error (.unknownArgument text)
    else .error (.unknownSubcommand text)

/-- Reads a word that leads to no other level. -/
def word (r : Reading) (level : Level) (text : String) : Except Fault Reading :=
  if r.optionsOver then r.place level text
  else match Word.ofText text with
    | .endOfOptions => .ok { r with optionsOver := true }
    | .long name value => match level.named? name with
      | some switch => r.takeUp level switch value
      | none => .error (.unknownArgument text)
    | .short letter value => match level.lettered? letter with
      | some switch => r.takeUpLetter level switch value
      | none => .error (.unknownArgument text)
    | .plain text => match r.pending with
      | some (argument, none) => .ok { r with pending := some (argument, some text) }
      | _ => r.place level text

/-- The level that a word leads to. -/
def leads (r : Reading) (level : Level) (text : String) : Option Level :=
  if r.optionsOver || r.wantsValue then none else level.below? text

/-- The end of a level. A data directory in the environment counts on every level that names none,
so it is checked there. -/
def finish (r : Reading) (environment : Option String) : Except Fault Draft := do
  let r ← r.settle
  if r.draft.directory.isNone ∧ environment = some "" then .error (.missingValue .directory)
  else return r.draft

end Reading

/-- Help on the level that words lead to. -/
def helpOn : Level → List String → Fault
  | level, [] => .help level
  | level, word :: words => match level.below? word with
    | some next => helpOn next words
    | none => .unknownSubcommand word

/-- The request of a level at which the command line ends. -/
def requestAt (level : Level) (environment : Option String) (d : Draft) : Except Fault Request :=
  if level = .top ∧ d.directory.isNone ∧ environment.isNone then .error .nothingSaid
  else (level.command d).map fun command => { directory := d.directory, command }

/-- Reads the words of a level. The innermost level that names a data directory wins. -/
def read (environment : Option String) : List String → Level → Reading → Except Fault Request
  | [], level, r => do
    let draft ← r.finish environment
    requestAt level environment draft
  | word :: words, level, r => match r.leads level word with
    | some .help => .error (helpOn level words)
    | some next => do
      let request ← read environment words next (.start next)
      let draft ← r.finish environment
      return { request with directory := request.directory <|> draft.directory }
    | none => do read environment words level (← r.word level word)

/-- The request of a command line. The data directory that the environment names counts if the
command line names none. -/
def Request.ofWords (environment : Option String) (words : List String) : Except Fault Request :=
  (read environment words .top (.start .top)).map fun request =>
    { request with directory := request.directory <|> environment.map Path.ofText }

end IdentityDocs.CommandLine
