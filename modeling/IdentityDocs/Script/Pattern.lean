import IdentityDocs.Script.Bytes

/-!
# Patterns

A pattern matches texts: a star matches any text, a question mark any character, and brackets one
of a set of characters. A character that is quoted matches itself, and so does one after a backslash.
-/

namespace IdentityDocs.Script

/-- A character of a text in which some characters are quoted. -/
abbrev Marked := Char × Bool

/-- Members of a set of characters. -/
inductive CharSet
  | range (first last : Char)
  | holding (holds : Char → Bool)

/-- A part of a pattern. -/
inductive PatternPart
  | char (c : Char)
  | anyChar
  | anyText
  /-- One of the members of some sets, or any character outside them. -/
  | oneOf (sets : List CharSet) (others : Bool)

/-- Whether a character can be seen on paper. -/
def isGraphic (c : Char) : Bool := '!' ≤ c && c ≤ '~'

/-- The classes of characters that have a name. -/
def charClasses : List (String × (Char → Bool)) :=
  [("alnum", Char.isAlphanum), ("cntrl", fun c => c < ' ' || c == '\x7f'), ("lower", Char.isLower),
   ("space", isSpace), ("alpha", Char.isAlpha), ("digit", Char.isDigit),
   ("print", fun c => ' ' ≤ c && c ≤ '~'), ("upper", Char.isUpper),
   ("blank", fun c => c == ' ' || c == '\t'), ("graph", isGraphic),
   ("punct", fun c => isGraphic c && !c.isAlphanum), ("xdigit", isHex)]

/-- The class whose name stands between colons after an opening bracket, and what follows it. -/
def readClass? (cs : List Marked) : Option ((Char → Bool) × List Marked) :=
  charClasses.findSome? fun (name, holds) =>
    let spelling := ':' :: name.toList ++ [':', ']']
    if (cs.take spelling.length).map (·.1) = spelling ∧ (cs.take spelling.length).all (!·.2) then
      some (holds, cs.drop spelling.length)
    else none

/-- The place of a character in the order of ranges, where bytes above 127 come first. -/
def rangeOrder (c : Char) : Nat := (c.toNat + 128) % 256

/-- Whether a character belongs to a set. -/
def CharSet.has (set : CharSet) (c : Char) : Bool :=
  match set with
  | range first last => rangeOrder first ≤ rangeOrder c && rangeOrder c ≤ rangeOrder last
  | holding holds => holds c

/-- Takes the backslash in front of a quoted character away. -/
def skipBackslash : List Marked → List Marked
  | ('\\', false) :: (c, _) :: rest => (c, true) :: rest
  | cs => cs

/-- Reads the members of a set up to the bracket that closes it, which is not the first character. -/
def readSets : (fuel : Nat) → (isFirst : Bool) → List Marked → Option (List CharSet × List Marked)
  | 0, _, _ => none
  | fuel + 1, isFirst, cs =>
    match cs with
    | [] => none
    | (c, quoted) :: rest =>
      if c = ']' ∧ !quoted ∧ !isFirst then some ([], rest)
      else match (if c = '[' ∧ !quoted then readClass? rest else none) with
        | some (holds, rest) => (readSets fuel false rest).map fun (sets, rest) =>
          (.holding holds :: sets, rest)
        | none => match skipBackslash cs with
          | (first, _) :: ('-', false) :: last :: rest =>
            if last = (']', false) then
              (readSets fuel false (('-', false) :: last :: rest)).map fun (sets, rest) =>
                (.range first first :: sets, rest)
            else match skipBackslash (last :: rest) with
              | (last, _) :: rest => (readSets fuel false rest).map fun (sets, rest) =>
                (.range first last :: sets, rest)
              | [] => none
          | (first, _) :: rest => (readSets fuel false rest).map fun (sets, rest) =>
            (.range first first :: sets, rest)
          | [] => none

/-- The parts of a pattern. A bracket that is not closed stands for itself. -/
def patternParts : (fuel : Nat) → List Marked → List PatternPart
  | 0, _ => []
  | fuel + 1, cs => match cs with
    | ('*', false) :: rest => .anyText :: patternParts fuel rest
    | ('?', false) :: rest => .anyChar :: patternParts fuel rest
    | ('\\', false) :: (c, _) :: rest => .char c :: patternParts fuel rest
    | ('[', false) :: rest =>
      let (others, inside) : Bool × List Marked := match rest with
        | ('!', false) :: inside => (true, inside)
        | inside => (false, inside)
      match readSets (inside.length + 1) true inside with
      | some (sets, after) => .oneOf sets others :: patternParts fuel after
      | none => .char '[' :: patternParts fuel rest
    | (c, _) :: rest => .char c :: patternParts fuel rest
    | [] => []

/-- The pattern that a text is. -/
def patternOf (cs : List Marked) : List PatternPart := patternParts (cs.length + 1) cs

/-- Whether a part matches a single character. -/
def PatternPart.fits (part : PatternPart) (c : Char) : Bool :=
  match part with
  | char d => c == d
  | anyChar => true
  | anyText => false
  | oneOf sets others => (sets.any (·.has c)) != others

/-- Whether a pattern matches a text. -/
def matchesText : List PatternPart → Bytes → Bool
  | [], cs => cs.isEmpty
  | .anyText :: parts, [] => matchesText parts []
  | .anyText :: parts, c :: cs =>
    matchesText parts (c :: cs) || matchesText (.anyText :: parts) cs
  | _ :: _, [] => false
  | part :: parts, c :: cs => part.fits c && matchesText parts cs
termination_by parts cs => parts.length + cs.length

/-- A text without the part at its beginning that the pattern matches, the longest or the
shortest. -/
def trimStart (longest : Bool) (pattern : List PatternPart) (cs : Bytes) : Bytes :=
  let cuts := List.range (cs.length + 1)
  let cuts := if longest then cuts.reverse else cuts
  match cuts.find? fun n => matchesText pattern (cs.take n) with
  | some n => cs.drop n
  | none => cs

/-- A text without the part at its end that the pattern matches, the longest or the shortest. -/
def trimEnd (longest : Bool) (pattern : List PatternPart) (cs : Bytes) : Bytes :=
  let cuts := List.range (cs.length + 1)
  let cuts := if longest then cuts else cuts.reverse
  match cuts.find? fun n => matchesText pattern (cs.drop n) with
  | some n => cs.take n
  | none => cs

end IdentityDocs.Script
