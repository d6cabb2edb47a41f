import IdentityDocs.Script.Layout
import IdentityDocs.Script.Utility.Basic

/-!
# Utilities for texts

These utilities write texts again, whole or in part, count them, sort their lines or exchange their
characters.
-/

namespace IdentityDocs.Script.Utility

/-- A number in a column of the given width. -/
def column (width n : Nat) : Bytes := ({ width } : Layout).place (decimal n)

/-! ## Whole texts and parts of them -/

/-- Writes texts one behind the other, with numbers in front of the lines if asked. -/
def cat (args : List Bytes) : Exec Nat := do
  let (given, files) ← arrange "AbeEnstTuv" args
  if (← handle? 1).isNone then
    warn (ofText "standard output: Bad file descriptor")
    leave 1
  let cs := (← contentsOf plainComplaint files).flatMap (·.2)
  if isGiven 'n' given then
    for (line, i) in (linesOf cs).zipIdx do say (column 6 (i + 1) ++ '\t' :: line)
  else say cs
  statusNow

/-- How much of a text is asked for. -/
structure Extent where
  /-- Bytes are counted, not lines. -/
  bytes : Bool := false
  count : Nat := 10
  /-- The sign in front of the count. -/
  sign : Option Char := none

/-- The parts of a text that are counted. -/
def Extent.parts (x : Extent) (cs : Bytes) : List Bytes :=
  if x.bytes then cs.map fun c => [c] else linesOf cs

/-- The beginning of a text; a minus sign asks for all but so much at the end. -/
def Extent.first (x : Extent) (cs : Bytes) : Bytes :=
  let parts := x.parts cs
  (parts.take (if x.sign = some '-' then parts.length - x.count else x.count)).flatten

/-- The end of a text; a plus sign asks for all from so far on. -/
def Extent.last (x : Extent) (cs : Bytes) : Bytes :=
  let parts := x.parts cs
  (parts.drop (if x.sign = some '+' then x.count - 1 else parts.length - x.count)).flatten

/-- The extent that options ask for. -/
def extentOf (given : List Given) : Exec Extent :=
  match given.reverse.find? fun (c, _) => c == 'n' || c == 'c' with
  | none => return {}
  | some (c, text) =>
    let (sign, digits) : Option Char × Bytes := match text with
      | '-' :: digits => (some '-', digits)
      | '+' :: digits => (some '+', digits)
      | digits => (none, digits)
    match number? digits with
    | some count => return { bytes := c == 'c', count, sign }
    | none => do
      warn (ofText ("invalid number of " ++ (if c == 'c' then "bytes" else "lines") ++ ": ") ++
        named text)
      leave 1

/-- A count of lines that is given as an option of its own. -/
def withCount : List Bytes → List Bytes
  | ('-' :: d :: digits) :: args =>
    if d.isDigit then ['-', 'n'] :: (d :: digits) :: args else ('-' :: d :: digits) :: args
  | args => args

/-- Writes a part of each file, under its name if there are several. -/
def partOf (part : Extent → Bytes → Bytes) (args : List Bytes) : Exec Nat := do
  let (given, files) ← arrange "n:c:qv" (withCount args)
  let extent ← extentOf given
  let titled := isGiven 'v' given || (1 < files.length && !isGiven 'q' given)
  let complaint (arg : Bytes) : FileError → Bytes
    | .isADirectory => ofText "error reading " ++ named arg ++ ofText ": Is a directory"
    | e => ofText "cannot open " ++ named arg ++ ofText (" for reading: " ++ briefly e)
  for ((arg, cs), i) in (← contentsOf complaint files).zipIdx do
    if titled then
      say ((if i = 0 then [] else ['\n']) ++ ofText "==> " ++ arg ++ ofText " <==\n")
    say (part extent cs)
  statusNow

/-- Writes the beginning of files. -/
def head : List Bytes → Exec Nat := partOf Extent.first

/-- Writes the end of files. -/
def tail : List Bytes → Exec Nat := partOf Extent.last

/-- Writes what it reads, to files as well. -/
def tee (args : List Bytes) : Exec Nat := do
  let (given, files) ← arrange "ai" args
  modify fun s => { s with status := 0 }
  let cs ← readFrom 0 List.length
  for file in files do
    match ← openAt (if isGiven 'a' given then .appending else .overwriting) file with
    | .ok handle => modify fun s => { s with machine := (s.machine.write handle.stream (s.chunk cs)).1 }
    | .error e =>
      warn (plainComplaint file e)
      stumble
  say cs
  statusNow

/-! ## Counting -/

/-- The number of words of a text. -/
def wordCount (cs : Bytes) : Nat :=
  ((cs.splitBy fun a b => isSpace a == isSpace b).filter fun run => !run.all isSpace).length

/-- Whether a descriptor leads to a file. -/
def leadsToFile (descriptor : Nat) : Exec Bool := do
  match ← handle? descriptor with
  | none => return false
  | some handle => match (← get).machine.streams[handle.stream]? with
    | some (.file ..) => return true
    | _ => return false

/-- Counts the lines, words and bytes of texts. -/
def count (args : List Bytes) : Exec Nat := do
  let (given, files) ← arrange "lwcmL" args
  let asked (c : Char) : Bool := given.isEmpty || isGiven c given || (c == 'c' && isGiven 'm' given)
  let counts (cs : Bytes) : List Nat :=
    (if asked 'l' then [cs.count '\n'] else []) ++ (if asked 'w' then [wordCount cs] else []) ++
      (if asked 'c' then [cs.length] else [])
  let isPiped := files.isEmpty && !(← leadsToFile 0)
  let contents ← contentsOf plainComplaint files
  let all := contents.flatMap (·.2)
  let width := if (counts []).length = 1 && files.length ≤ 1 then 1
    else if isPiped then 7 else (decimal all.length).length
  let line (name cs : Bytes) : Bytes :=
    spaced ((counts cs).map (column width)) ++ (if name = [] then [] else ' ' :: name) ++ ['\n']
  for (name, cs) in contents do say (line (if files.isEmpty then [] else name) cs)
  if 1 < files.length then say (line (ofText "total") all)
  statusNow

/-! ## Lines and characters -/

/-- Sorts the lines of texts. -/
def sortLines (args : List Bytes) : Exec Nat := do
  let (given, files) ← arrange "rnu" args
  let complaint (arg : Bytes) (e : FileError) : Bytes :=
    ofText "cannot read: " ++ plainComplaint arg e
  let contents ← contentsOf complaint files
  if (← statusNow) ≠ 0 then return 2
  let lines := contents.flatMap fun (_, cs) => (linesOf cs).map bareLine
  let value (cs : Bytes) : Int := ((scanInteger (some 10) cs).map (·.1)).getD 0
  let isBelow (a b : Bytes) : Bool :=
    if isGiven 'n' given ∧ value a ≠ value b then decide (value a < value b) else isBefore a b
  let sorted := lines.mergeSort isBelow
  let sorted := if isGiven 'r' given then sorted.reverse else sorted
  let sorted := if isGiven 'u' given then sorted.eraseReps else sorted
  for line in sorted do say (line ++ ['\n'])
  return 0

/-- Writes lines that follow each other and are the same only once. -/
def uniqueLines (args : List Bytes) : Exec Nat := do
  let (given, files) ← arrange "cdu" args
  for (_, cs) in ← contentsOf plainComplaint (files.take 1) do
    for run in ((linesOf cs).map bareLine).splitBy (· == ·) do
      let shown := if isGiven 'd' given then 1 < run.length
        else if isGiven 'u' given then run.length = 1 else true
      if shown then
        let number := if isGiven 'c' given then column 7 run.length ++ [' '] else []
        say (number ++ run.headD [] ++ ['\n'])
  statusNow

/-- The places that a list of ranges holds; `last` stands for the end. -/
def placesOf (list : Bytes) (last : Nat) : List Nat :=
  (Path.splitAtAll ',' list).flatMap fun range =>
    let (start, finish) : Nat × Nat := match Path.splitAtAll '-' range with
      | [one] => (valueOf 10 one, valueOf 10 one)
      | [start, finish] => (if start = [] then 1 else valueOf 10 start,
          if finish = [] then last else valueOf 10 finish)
      | _ => (1, 0)
    (List.range (min finish last + 1)).drop start

/-- Writes some of the characters or fields of each line. -/
def cut (args : List Bytes) : Exec Nat := do
  let (given, files) ← arrange "b:c:f:d:s" args
  let pick (list : Bytes) (parts : List Bytes) : List Bytes :=
    let places := placesOf list parts.length
    parts.zipIdx.filterMap fun (part, i) => if places.contains (i + 1) then some part else none
  let between := match given.lookup 'd' with
    | some (c :: _) => c
    | _ => '\t'
  if 1 < ((given.lookup 'd').getD []).length then
    misuse (ofText "the delimiter must be a single character")
  let fields (list line : Bytes) : Option Bytes :=
    if line.contains between then
      some (List.intercalate [between] (pick list (Path.splitAtAll between line)))
    else if isGiven 's' given then none
    else some line
  let choose : Bytes → Option Bytes ← match given.lookup 'f',
      given.find? fun (c, _) => c == 'b' || c == 'c' with
    | some list, _ => pure (fields list)
    | none, some (_, list) => pure fun line => some (pick list (line.map fun c => [c])).flatten
    | none, none => misuse (ofText "you must specify a list of bytes, characters, or fields")
  for (_, cs) in ← contentsOf plainComplaint files do
    for line in (linesOf cs).filterMap fun line => choose (bareLine line) do say (line ++ ['\n'])
  statusNow

/-- The characters of a set in which ranges and classes are written out. -/
def charactersOf : (fuel : Nat) → Bytes → Bytes
  | 0, _ => []
  | _ + 1, [] => []
  | fuel + 1, cs =>
    match charClasses.findSome? fun (name, holds) =>
      let spelling := ofText ("[:" ++ name ++ ":]")
      if spelling.isPrefixOf cs then some (holds, cs.drop spelling.length) else none with
    | some (holds, rest) =>
      ((List.range 256).map Char.ofNat).filter holds ++ charactersOf fuel rest
    | none => match cs with
      | '\\' :: c :: rest =>
        let c := match c with
          | 'n' => '\n'
          | 't' => '\t'
          | 'r' => '\r'
          | '0' => '\x00'
          | c => c
        c :: charactersOf fuel rest
      | a :: '-' :: b :: rest =>
        (List.range (b.toNat + 1 - a.toNat)).map (fun i => Char.ofNat (a.toNat + i)) ++
          charactersOf fuel rest
      | c :: rest => c :: charactersOf fuel rest
      | [] => []

/-- A text in which characters of a set that follow each other stand only once. -/
def squeezed (set : Bytes) : Bytes → Bytes
  | a :: b :: rest =>
    if a = b ∧ set.contains a then squeezed set (b :: rest) else a :: squeezed set (b :: rest)
  | cs => cs

/-- Replaces the characters of one set by those of another, leaves them out, or writes them once. -/
def exchange (args : List Bytes) : Exec Nat := do
  let (given, sets) ← arrange "cCds" args
  let set (cs : Bytes) : Bytes := charactersOf (cs.length + 1) cs
  let removes := isGiven 'd' given
  let squeezes := isGiven 's' given
  let inverted := isGiven 'c' given || isGiven 'C' given
  let held (cs : Bytes) (c : Char) : Bool := (set cs).contains c != inverted
  let second : Option Bytes := (sets[1]?).map set
  match sets with
  | [] => misuse (ofText "missing operand")
  | first :: _ =>
    if second.isNone && !removes && !squeezes then
      warn (ofText "missing operand after " ++ named first)
      discard (writeTo 2 (ofText "Two strings must be given when translating.\n"))
      discard (writeTo 2 (ofText "Try '" ++ (← get).name ++
        ofText " --help' for more information.\n"))
      leave 1
    let cs ← readFrom 0 List.length
    let old := set first
    let put (other : Bytes) (c : Char) : Char :=
      if !held first c then c
      else if inverted then other.getLastD c
      else other.getD (old.idxOf c) (other.getLastD c)
    let changed := if removes then cs.filter fun c => !held first c
      else match second with
        | some other => cs.map (put other)
        | none => cs
    say (if squeezes then squeezed (second.getD old) changed else changed)
    return 0

end IdentityDocs.Script.Utility
