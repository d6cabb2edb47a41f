import IdentityDocs.Document.Category
import IdentityDocs.Text.Blank
import IdentityDocs.Text.WordChar

/-!
# Identifiers by their form

A tax number is five capital letters, four digits and a letter, wherever it stands. A national
number is three groups of four digits with at most one blank between two groups, and it is no part
of a longer word. A text is searched for its leftmost tax number first; a national number counts
only in a text without any.
-/

namespace IdentityDocs

/-- Whether a character is one of the 26 capital letters. -/
def isCapital (c : Char) : Bool := 'A' ≤ c && c ≤ 'Z'

/-- The number of the given form that a text begins with. `before` is the character in front. -/
abbrev NumberForm := (before : Option Char) → List Char → Option (List Char)

/-- The first place where a number of the form stands: what stands there. -/
def leftmost (form : NumberForm) : Option Char → List Char → Option (List Char)
  | before, [] => form before []
  | before, c :: cs => match form before (c :: cs) with
    | some found => some found
    | none => leftmost form (some c) cs

/-- Whether the characters are as many capitals and digits as the form asks for, in its order. -/
def fits (form : List (Char → Bool)) (cs : List Char) : Bool :=
  cs.length == form.length && (form.zip cs).all fun (test, c) => test c

/-- The characters of a tax number. -/
def taxNumberTests : List (Char → Bool) :=
  List.replicate 5 isCapital ++ List.replicate 4 Char.isDigit ++ [isCapital]

/-- The tax number at the beginning of a text. -/
def taxNumber : NumberForm := fun _ cs =>
  let found := cs.take 10
  if fits taxNumberTests found then some found else none

/-- Four digits and what follows them. -/
def readGroup (cs : List Char) : Option (List Char × List Char) :=
  let found := cs.take 4
  if fits (List.replicate 4 Char.isDigit) found then some (found, cs.drop 4) else none

/-- The blank that may stand between two groups, and what follows it. -/
def readGap : List Char → List Char × List Char
  | c :: cs => if Text.isBlank c then ([c], cs) else ([], c :: cs)
  | [] => ([], [])

/-- The national number at the beginning of a text. -/
def nationalNumber : NumberForm := fun before cs => do
  if !Text.isWordGap before then none
  let (first, cs) ← readGroup cs
  let (gap, cs) := readGap cs
  let (second, cs) ← readGroup cs
  let (gap', cs) := readGap cs
  let (third, cs) ← readGroup cs
  if Text.isWordGap cs.head? then some (first ++ gap ++ second ++ gap' ++ third) else none

/-- The identifier that a text holds by its form, and the category that the form belongs to. -/
def identifier? (raw : List Char) : Option (List Char × Category) :=
  match leftmost taxNumber none raw with
  | some number => some (number, .taxId)
  | none => match leftmost nationalNumber none raw with
    | some number => some (number, .nationalId)
    | none => none

end IdentityDocs
