import IdentityDocs.Script.Lookup

/-!
# Commands about the current directory

A script goes from directory to directory. The way to the new one is followed by its names alone, so
that two dots lead back from any name, unless it is to be followed in the file system.
-/

namespace IdentityDocs.Script

/-- Where a path leads by its names alone. -/
def placeByName (current : Location) (p : Path) : Location :=
  p.names.foldl (fun loc name => if name = Path.parentName then loc.dropLast else loc ++ [name])
    (if p.isAbsolute then [] else current)

/-- The directory that a path leads to. -/
def directoryAt? (files : FileSystem) (physical : Bool) (path : Bytes) : Option Location :=
  let p := argPath path
  if physical then match files.find p with
    | .ok (loc, .directory) => some loc
    | _ => none
  else
    let loc := placeByName files.current p
    match files.find (FileSystem.pathOf loc) with
    | .ok (_, .directory) => some loc
    | _ => none

/-- The path of the current directory. -/
def currentPath : Exec Bytes := do
  return ofBytes (FileSystem.pathOf (← get).machine.files.current).bytes

/-- Goes to a directory. -/
def enter (loc : Location) : Exec Unit := do
  assign "OLDPWD".toList (← currentPath) true
  modify fun s => { s with machine := { s.machine with
    files := { s.machine.files with current := loc } } }
  assign "PWD".toList (← currentPath) true

/-- Whether the way to a directory begins at the root or with dots. -/
def startsFixed : Bytes → Bool
  | '/' :: _ | ['.'] | '.' :: '/' :: _ | ['.', '.'] | '.' :: '.' :: '/' :: _ => true
  | _ => false

/-- Goes to another directory. -/
def changeDirectory (args : List Bytes) : Exec Nat := do
  let (given, args) ← optionsOf "LP" args
  let physical := (given.getLast?.map (·.1)) == some 'P'
  let back := args.head? == some ['-']
  let target ← match args with
    | [] => valueOr "HOME" []
    | ['-'] :: _ => valueOr "OLDPWD" []
    | target :: _ => pure target
  let files := (← get).machine.files
  let wanted := if target = [] then ['.'] else target
  let routes : List Bytes := match startsFixed target, ← value? "CDPATH".toList with
    | false, some path => Path.splitAtAll ':' path
    | _, _ => []
  let route : Option (Bytes × Bool) := routes.findSome? fun directory =>
    let candidate := if directory = [] then wanted else directory ++ '/' :: wanted
    if files.isDirectory (argPath candidate) then some (candidate, !directory.isEmpty) else none
  let (path, told) := route.getD (wanted, false)
  match directoryAt? files physical path with
  | none => fail (ofText "can't cd to " ++ target)
  | some loc =>
    enter loc
    if back || told then say ((← currentPath) ++ ['\n'])
    return 0

/-- Shows the path of the current directory. -/
def printDirectory (args : List Bytes) : Exec Nat := do
  discard (optionsOf "LP" args)
  say ((← currentPath) ++ ['\n'])
  return 0

end IdentityDocs.Script
