import IdentityDocs.Script.Redirection

/-!
# What utilities share

A utility is a small program. Its options may stand anywhere among its arguments, up to two dashes.
It complains under its own name, and a misuse ends it.
-/

namespace IdentityDocs.Script.Utility

/-- Ends the process with a status. -/
def leave {α : Type} (status : Nat) : Exec α := do
  modify fun s => { s with status }
  throw .done

/-- Complains about a use that makes no sense, and ends the process. -/
def misuse {α : Type} (message : Bytes) : Exec α := do
  warn message
  let name := (← get).name
  discard (writeTo 2 (ofText "Try '" ++ name ++ ofText " --help' for more information.\n"))
  leave 1

/-- A text between single quotes. -/
def named (cs : Bytes) : Bytes := '\'' :: cs ++ ['\'']

/-- Sorts arguments into options and others. The letters of a cluster come next. -/
def arrangeFrom (known : Bytes) :
    (fuel : Nat) → (cluster : Bytes) → List Bytes → Exec (List Given × List Bytes)
  | 0, _, args => return ([], args)
  | _ + 1, [], [] => return ([], [])
  | fuel + 1, [], arg :: args => match arg with
    | ['-', '-'] => return ([], args)
    | '-' :: '-' :: _ => misuse (ofText "unrecognized option " ++ named arg)
    | '-' :: c :: letters => arrangeFrom known fuel (c :: letters) args
    | arg => do
      let (given, others) ← arrangeFrom known fuel [] args
      return (given, arg :: others)
  | fuel + 1, c :: letters, args => match takesArgument? known c with
    | none => misuse (ofText "invalid option -- " ++ named [c])
    | some false => do
      let (given, others) ← arrangeFrom known fuel letters args
      return ((c, []) :: given, others)
    | some true => match letters, args with
      | [], [] => misuse (ofText "option requires an argument -- " ++ named [c])
      | [], value :: args => do
        let (given, others) ← arrangeFrom known fuel [] args
        return ((c, value) :: given, others)
      | value, args => do
        let (given, others) ← arrangeFrom known fuel [] args
        return ((c, value) :: given, others)

/-- The options among arguments, and the arguments that are none. -/
def arrange (known : String) (args : List Bytes) : Exec (List Given × List Bytes) :=
  arrangeFrom known.toList (args.flatten.length + args.length + 1) [] args

/-- Whether an option is given. -/
def isGiven (c : Char) (given : List Given) : Bool := given.any (·.1 == c)

/-- Notes that something went wrong. -/
def stumble : Exec Unit := modify fun s => { s with status := 1 }

/-- All that a descriptor or a file has to give; a hyphen stands for the standard input. -/
def contentOf (arg : Bytes) : Exec (Except FileError Bytes) := do
  let handle ← if arg = ['-'] then do
      pure (match ← handle? 0 with
        | some handle => Except.ok handle
        | none => .error .notFound)
    else openAt .reading arg
  match handle with
  | .error e => return .error e
  | .ok handle => modifyGet fun s =>
    match s.machine.streams[handle.stream]? with
    | some .directory => (.error .isADirectory, s)
    | _ =>
      let (machine, cs) := s.machine.read handle.stream List.length
      (.ok cs, { s with machine })

/-- The contents of files with the names that were given, or of the standard input if there are none.
A complaint about a file is put together from its name and the reason. -/
def contentsOf (complaint : Bytes → FileError → Bytes) (args : List Bytes) :
    Exec (List (Bytes × Bytes)) := do
  modify fun s => { s with status := 0 }
  let contents ← (if args.isEmpty then [['-']] else args).mapM fun arg => do
    match ← contentOf arg with
    | .ok cs => return some (arg, cs)
    | .error e =>
      warn (complaint arg e)
      stumble
      return none
  return contents.filterMap id

/-- The status of the process so far. -/
def statusNow : Exec Nat := do return (← get).status

/-- Whether a character of a name means something to a shell. -/
def isStriking (c : Char) : Bool := c.toNat < 33 || "!\"$&'()*;<=>?[\\^\x60|".toList.contains c

/-- The name of a file, between quotes if a shell would not take it as it stands. -/
def fileName (cs : Bytes) : Bytes :=
  let isSign := cs == ['\x7b'] || cs == ['\x7d']
  if cs.isEmpty || isSign || cs.any isStriking || cs.head? == some '#' || cs.head? == some '~' then
    if cs.contains '\'' && !cs.contains '"' then '"' :: cs ++ ['"'] else named cs
  else cs

/-- A complaint that gives the name of a file and the reason. -/
def plainComplaint (arg : Bytes) (e : FileError) : Bytes :=
  fileName arg ++ ofText (": " ++ briefly e)

end IdentityDocs.Script.Utility
