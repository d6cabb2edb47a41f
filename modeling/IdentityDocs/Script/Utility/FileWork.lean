import IdentityDocs.Script.Utility.Basic

/-!
# Utilities for files

These utilities make, list, copy, move and remove files and directories.
-/

namespace IdentityDocs.Script.Utility

/-- The files there are. -/
def files : Exec FileSystem := do return (← get).machine.files

/-- Changes the files. -/
def setFiles (files : FileSystem) : Exec Unit := modify fun s =>
  { s with machine := { s.machine with files } }

/-- Complains about an operation that was refused. -/
def refused (operation : String) (arg : Bytes) (e : FileError) : Exec Unit := do
  warn (ofText (operation ++ " ") ++ named arg ++ ofText (": " ++ briefly e))
  stumble

/-- Carries an operation out on each of some arguments, of which there has to be one. -/
def onEach (args : List Bytes) (missing : String) (operation : Bytes → Exec Unit) : Exec Nat := do
  if args.isEmpty then misuse (ofText missing)
  modify fun s => { s with status := 0 }
  for arg in args do operation arg
  statusNow

/-- Makes directories. -/
def makeDirectories (args : List Bytes) : Exec Nat := do
  let (given, names) ← arrange "pm:v" args
  onEach names "missing operand" fun arg => do
    let fs ← files
    let (fs, refusal) := if isGiven 'p' given then fs.makeDirectories (argPath arg)
      else match fs.makeDirectory (argPath arg) with
        | .ok fs => (fs, none)
        | .error e => (fs, some e)
    setFiles fs
    match refusal with
    | none => pure ()
    | some e => refused "cannot create directory" arg e

/-- What lies in a directory, with all that lies below. -/
def below (fs : FileSystem) (place : Location) : List (Location × Node) :=
  fs.nodes.filter fun (loc, _) => place.isPrefixOf loc && loc != place

/-- Removes empty directories. -/
def removeDirectories (args : List Bytes) : Exec Nat := do
  let (_, names) ← arrange "pv" args
  onEach names "missing operand" fun arg => do
    let fs ← files
    let operation := "failed to remove"
    match fs.find (argPath arg) with
    | .error e => refused operation arg e
    | .ok (_, .file ..) => refused operation arg .notADirectory
    | .ok (loc, .directory) =>
      if (below fs loc).isEmpty then setFiles (fs.erase loc)
      else
        warn (ofText (operation ++ " ") ++ named arg ++ ofText ": Directory not empty")
        stumble

/-- Removes files and, if asked, directories with all that lies in them. -/
def remove (args : List Bytes) : Exec Nat := do
  let (given, names) ← arrange "rRfiIdv" args
  let forced := isGiven 'f' given
  if names.isEmpty && forced then return 0
  onEach names "missing operand" fun arg => do
    let fs ← files
    match fs.find (argPath arg) with
    | .error .notFound =>
      if !forced then refused "cannot remove" arg .notFound
    | .error e => refused "cannot remove" arg e
    | .ok (loc, .file ..) => setFiles (fs.erase loc)
    | .ok (loc, .directory) =>
      if isGiven 'r' given || isGiven 'R' given then
        setFiles { fs with nodes := fs.nodes.filter fun (known, _) => !loc.isPrefixOf known }
      else refused "cannot remove" arg .isADirectory

/-- Makes files that are not there. -/
def touch (args : List Bytes) : Exec Nat := do
  let (_, names) ← arrange "acmd:r:t:" args
  onEach names "missing file operand" fun arg => do
    let fs ← files
    if !fs.has (argPath arg) then
      match fs.write (argPath arg) [] with
      | .ok fs => setFiles fs
      | .error e => refused "cannot touch" arg e

/-- Whether a mode lets a file of the given kind be executed; `none` if it is no mode. -/
def mayRunAfter? (kind : FileKind) (mode : Bytes) : Option Bool :=
  if mode ≠ [] ∧ mode.all isOctal then some ((Nat.toDigits 8 (valueOf 8 mode)).any fun d =>
    digitValue d % 2 = 1)
  else
    match mode.dropWhile fun c => c == 'u' || c == 'g' || c == 'o' || c == 'a' with
    | '+' :: letters => some (kind.mayRun || letters.contains 'x')
    | '-' :: letters => some (kind.mayRun && !letters.contains 'x')
    | '=' :: letters => some (letters.contains 'x')
    | _ => none

/-- Changes whether files may be executed. -/
def changeModes (args : List Bytes) : Exec Nat := do
  match args with
  | [] => misuse (ofText "missing operand")
  | mode :: names =>
    if (mayRunAfter? .plain mode).isNone then misuse (ofText "invalid mode: " ++ named mode)
    if names.isEmpty then misuse (ofText "missing operand after " ++ named mode)
    onEach names "" fun arg => do
      let fs ← files
      match fs.find (argPath arg) with
      | .error e => refused "cannot access" arg e
      | .ok (_, .directory) => pure ()
      | .ok (loc, .file bytes kind) => match kind, mayRunAfter? kind mode with
        | .plain, some true => setFiles (fs.put loc (.file bytes .executable))
        | .executable, some false => setFiles (fs.put loc (.file bytes .plain))
        | _, _ => pure ()

/-- The path in a directory that has the last name of another path. -/
def inDirectory (directory path : Bytes) : Bytes :=
  directory ++ '/' :: ((path.reverse.dropWhile (· == '/')).takeWhile (· ≠ '/')).reverse

/-- Puts a copy of what stands at a location to another one. -/
def copyTree (fs : FileSystem) (source target : Location) : FileSystem :=
  let entries := (fs.nodes.filter fun (loc, _) => source.isPrefixOf loc).reverse
  entries.foldl (fun fs (loc, node) => fs.put (target ++ loc.drop source.length) node) fs

/-- Copies or moves what stands at a path to another path. -/
def carry (moves whole : Bool) (source target : Bytes) : Exec Unit := do
  let fs ← files
  let target := if fs.isDirectory (argPath target) then inDirectory target source else target
  match fs.find (argPath source), fs.locate (argPath target) with
  | .error e, _ => refused "cannot stat" source e
  | .ok _, .error e => refused "cannot create regular file" target e
  | .ok (loc, node), .ok place =>
    if node = .directory && !moves && !whole then
      warn (ofText "-r not specified; omitting directory " ++ named source)
      stumble
    else if loc = place then
      warn (named source ++ ofText " and " ++ named target ++ ofText " are the same file")
      stumble
    else
      let fs := copyTree fs loc place
      setFiles (if moves then
          { fs with nodes := fs.nodes.filter fun (known, _) => !loc.isPrefixOf known }
        else fs)

/-- Copies or moves files to a path, or into a directory. -/
def carryAll (moves : Bool) (args : List Bytes) : Exec Nat := do
  let (given, names) ← arrange "rRafinpvuT" args
  match names.reverse with
  | [] => misuse (ofText "missing file operand")
  | [name] => misuse (ofText "missing destination file operand after " ++ named name)
  | target :: sources =>
    if 1 < sources.length && !(← files).isDirectory (argPath target) then
      warn (ofText "target " ++ named target ++ ofText ": Not a directory")
      leave 1
    onEach sources.reverse "" fun source =>
      carry moves (given.any fun (c, _) => c == 'r' || c == 'R' || c == 'a') source target

/-- The names that lie in a directory, in order. -/
def namesListed (fs : FileSystem) (place : Location) (all most : Bool) : List Bytes :=
  let names := fs.nodes.filterMap fun (loc, _) =>
    if loc ≠ [] ∧ loc.dropLast = place then loc.getLast?.map ofBytes else none
  let dots : List Bytes := if all then [['.'], ['.', '.']] else []
  let shown := names.filter fun name => all || most || name.head? != some '.'
  dots ++ shown.mergeSort isBefore

/-- Lists the names of files, and what lies in directories. -/
def list (args : List Bytes) : Exec Nat := do
  let (given, names) ← arrange "1aAdFhlrt" args
  modify fun s => { s with status := 0 }
  let fs ← files
  let names := if names.isEmpty then [['.']] else names.mergeSort isBefore
  let known ← names.filterMapM fun name => do
    match fs.find (argPath name) with
    | .ok (loc, node) => return some (name, loc, node)
    | .error e =>
      warn (ofText "cannot access " ++ named name ++ ofText (": " ++ briefly e))
      modify fun s => { s with status := 2 }
      return none
  let isOpened (node : Node) : Bool := node = .directory && !isGiven 'd' given
  let plain := known.filter fun (_, _, node) => !isOpened node
  let opened := known.filter fun (_, _, node) => isOpened node
  for (name, _) in plain do say (name ++ ['\n'])
  for ((name, loc, _), i) in opened.zipIdx do
    if 1 < names.length then
      say ((if plain.isEmpty && i = 0 then [] else ['\n']) ++ name ++ ofText ":\n")
    for entry in namesListed fs loc (isGiven 'a' given) (isGiven 'A' given) do
      say (entry ++ ['\n'])
  statusNow

end IdentityDocs.Script.Utility
