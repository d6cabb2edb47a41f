import IdentityDocs.Script.Expansion

/-!
# Names of files that match a pattern

A word with a star, a question mark or a set of characters outside quotes stands for the files whose
paths it matches, in the order of their bytes. A word that matches no path stands for itself. A dot
at the beginning of a name has to be written out.
-/

namespace IdentityDocs.Script

/-- The names in a directory, and the names for itself and for the one it lies in. -/
def namesIn (files : FileSystem) (place : Location) : List Bytes :=
  ['.'] :: ['.', '.'] :: files.nodes.filterMap fun (loc, _) =>
    if loc ≠ [] ∧ loc.dropLast = place then loc.getLast?.map ofBytes else none

/-- Whether a name has a part that can match several texts. -/
def isOpen : List Marked → Bool
  | [] => false
  | (c, quoted) :: rest =>
    (!quoted && (c == '*' || c == '?' || (c == '[' && (rest.drop 1).contains (']', false)))) ||
      isOpen rest

/-- The text of a pattern without what quotes its characters. -/
def literal : List Marked → Bytes
  | ('\\', false) :: (c, _) :: rest => c :: literal rest
  | (c, _) :: rest => c :: literal rest
  | [] => []

/-- The paths that begin as given and go on as a pattern says. -/
def pathsMatching (files : FileSystem) : (fuel : Nat) → (before : Bytes) → List Marked → List Bytes
  | 0, _, _ => []
  | fuel + 1, before, pattern =>
    if !isOpen pattern then
      let path := before ++ literal pattern
      if files.has (argPath path) then [path] else []
    else
      let name := pattern.takeWhile (·.1 ≠ '/')
      let rest := pattern.drop name.length
      let gap := (rest.takeWhile (·.1 = '/')).map (·.1)
      let rest := rest.drop gap.length
      if !isOpen name then pathsMatching files fuel (before ++ literal name ++ gap) rest
      else
        let directory := if before = [] then ['.'] else before
        match files.find (argPath directory) with
        | .ok (place, .directory) =>
          let parts := patternOf name
          let hidden := (literal name).head? == some '.'
          let found := (namesIn files place).filter fun known =>
            (hidden || known.head? != some '.') && matchesText parts known
          found.flatMap fun known =>
            if gap = [] then [before ++ known]
            else pathsMatching files fuel (before ++ known ++ gap) rest
        | _ => []

/-- What a field becomes: the files that it matches, or itself. -/
def filesMatching (files : FileSystem) (field : List Marked) : List Bytes :=
  if !isOpen field then [bare field]
  else match pathsMatching files (field.length + 1) [] field with
    | [] => [bare field]
    | paths => paths.mergeSort isBefore

/-- The fields that a word stands for. -/
def fieldsIn (self : Engine) (w : Word) : Exec (List Bytes) := do
  let items ← fillWord self { splits := true, tilde := true } wordFuel w
  let fields := (fieldsOf (← separators) items).map markedText
  if ← isOn 'f' then return fields.map bare
  else
    let files := (← get).machine.files
    return fields.flatMap (filesMatching files)

end IdentityDocs.Script
