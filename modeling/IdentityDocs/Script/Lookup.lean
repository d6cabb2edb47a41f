import IdentityDocs.Script.Redirection

/-!
# Looking commands up

A command is a function, a command of the shell itself, or a program. Programs are looked for in the
directories of the search path, and the script remembers where it found them.
-/

namespace IdentityDocs.Script

/-! ## The commands of the shell itself -/

/-- A command of the shell itself. -/
inductive Own
  | alias | background | bracket | changeDirectory | command | dot | echo | evaluate | exec | exit
  | exportNames | fail | foreground | getOptions | goOn | hash | jobs | kill | leaveLoop | ownNames
  | nothing | printDirectory | printFormat | protectNames | readLine | giveBack | set | shift | succeed
  | test | times | trap | type | ulimit | umask | unalias | unset | wait
  deriving DecidableEq

/-- The names of the commands of the shell itself. -/
def ownCommands : List (String × Own) :=
  [(".", .dot), (":", .nothing), ("[", .bracket), ("alias", .alias), ("bg", .background),
   ("break", .leaveLoop), ("cd", .changeDirectory), ("chdir", .changeDirectory),
   ("command", .command), ("continue", .goOn), ("echo", .echo), ("eval", .evaluate),
   ("exec", .exec), ("exit", .exit), ("export", .exportNames), ("false", .fail),
   ("fg", .foreground), ("getopts", .getOptions), ("hash", .hash), ("jobs", .jobs),
   ("kill", .kill), ("local", .ownNames), ("printf", .printFormat), ("pwd", .printDirectory),
   ("read", .readLine), ("readonly", .protectNames), ("return", .giveBack), ("set", .set),
   ("shift", .shift), ("test", .test), ("times", .times), ("trap", .trap), ("true", .succeed),
   ("type", .type), ("ulimit", .ulimit), ("umask", .umask), ("unalias", .unalias),
   ("unset", .unset), ("wait", .wait)]

/-- The command of the shell itself that has a name. -/
def ownCommand? (name : Bytes) : Option Own :=
  (ownCommands.find? fun (known, _) => known.toList = name).map (·.2)

/-- Whether a command is special: its errors end the script, and assignments in front of it stay. -/
def Own.isSpecial : Own → Bool
  | dot | nothing | leaveLoop | goOn | evaluate | exec | exit | exportNames | ownNames | protectNames
  | giveBack | set | shift | times | trap | unset => true
  | _ => false

/-- Whether the arguments of a command may be assignments. -/
def Own.assigns : Own → Bool
  | exportNames | protectNames | ownNames => true
  | _ => false

/-! ## Programs -/

/-- The search path of those who set none. -/
def defaultPath : Bytes :=
  ofText "/usr/local/sbin:/usr/local/bin:/usr/sbin:/usr/bin:/sbin:/bin"

/-- The path of a program in the directories of a search path. The last reason to pass over a file
tells why there is none. -/
def searchPath (files : FileSystem) (path name : Bytes) : Except FileError Bytes :=
  (Path.splitAtAll ':' path).foldl (fun found directory =>
    match found with
    | .ok found => .ok found
    | .error why =>
      let candidate := if directory = [] then name else directory ++ '/' :: name
      match files.find (argPath candidate) with
      | .ok (_, .file _ kind) => if kind.mayRun then .ok candidate else .error .permissionDenied
      | .ok (_, .directory) => .error .permissionDenied
      | .error .notFound | .error .notADirectory => .error why
      | .error e => .error e)
    (.error .notFound)

/-- What a command turns out to be. -/
inductive Found
  | own (c : Own)
  | function (body : Tree)
  | program (path : Bytes)
  | missing (why : FileError)

/-- The search path of the script. -/
def pathInUse : Exec Bytes := valueOr "PATH" []

/-- Looks a command up, on another search path than that of the script if one is given. -/
def findCommand (name : Bytes) (functions : Bool) (path : Option Bytes) : Exec Found := do
  let s ← get
  if name.contains '/' then return .program name
  match (if functions then s.functions.lookup name else none), ownCommand? name with
  | some body, _ => return .function body
  | none, some c => return .own c
  | none, none =>
    let standard ← pathInUse
    let path := path.getD standard
    match if path = standard then s.known.lookup name else none with
    | some found => return .program found
    | none => match searchPath s.machine.files path name with
      | .error why => return .missing why
      | .ok found =>
        if path = standard then
          modify fun s => { s with known := bind s.known name found }
        return .program found

/-! ## Describing commands -/

/-- An alias as the script would define it. -/
def aliasLine (name text : Bytes) : Bytes := name ++ '=' :: quotedText text ++ ['\n']

/-- Says what a command is, in a sentence or briefly; answers with a status. -/
def describe (name : Bytes) (path : Option Bytes) (sentence : Bool) : Exec Nat := do
  let s ← get
  let tell (brief : Bytes) (story : String) : Exec Nat := do
    say ((if sentence then name ++ ofText story else brief) ++ ['\n'])
    return 0
  let missing : Exec Nat := do
    if sentence then say (name ++ ofText ": not found\n")
    return 127
  if (keyword? name).isSome then return ← tell name " is a shell keyword"
  match s.aliases.lookup name with
  | some text =>
    if sentence then say (name ++ ofText " is an alias for " ++ text ++ ['\n'])
    else say (ofText "alias " ++ aliasLine name text)
    return 0
  | none => pure ()
  let tracked := path.isNone && !name.contains '/' && (s.known.lookup name).isSome
  match ← findCommand name true path with
  | .own c =>
    tell name (if c.isSpecial then " is a special shell builtin" else " is a shell builtin")
  | .function _ => tell name " is a shell function"
  | .missing _ => missing
  | .program found =>
    if name.contains '/' && !s.machine.files.has (argPath found) then missing
    else
      let story := if tracked then " is a tracked alias for " else " is "
      say ((if sentence then name ++ ofText story else []) ++ found ++ ['\n'])
      return 0

end IdentityDocs.Script
