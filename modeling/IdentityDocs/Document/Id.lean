import IdentityDocs.Text.Quoted
import IdentityDocs.Text.Search

/-!
# Document identifiers

An identifier is a number of 128 bits, shown as 32 hexadecimal digits in groups of 8, 4, 4, 4 and
12. It is read in four spellings: grouped, without hyphens, grouped in braces, and grouped after
`urn:uuid:`. What is not an identifier is told from one by the first fault found in a fixed order.
-/

namespace IdentityDocs

/-- The identifier of a document: 32 hexadecimal digits. -/
structure DocumentId where
  /-- The digits, the most significant first. -/
  digits : List (Fin 16)
  length_digits : digits.length = 32 := by decide
  deriving DecidableEq

namespace DocumentId

/-- A digit as a lower-case character. -/
def digitChar (d : Fin 16) : Char := Nat.digitChar d.val

/-- The last hexadecimal digit of a number. -/
def digitOf (n : Nat) : Fin 16 := Fin.ofNat 16 n

/-- The value of a hexadecimal digit in either case. -/
def digit? (c : Char) : Option (Fin 16) :=
  if '0' ≤ c ∧ c ≤ '9' then some (digitOf (c.toNat - 48))
  else if 'a' ≤ c ∧ c ≤ 'f' then some (digitOf (c.toNat - 87))
  else if 'A' ≤ c ∧ c ≤ 'F' then some (digitOf (c.toNat - 55))
  else none

/-- The canonical spelling: lower-case digits in five groups. -/
def chars (id : DocumentId) : List Char :=
  let cs := id.digits.map digitChar
  cs.take 8 ++ '-' :: (cs.drop 8).take 4 ++ '-' :: (cs.drop 12).take 4 ++
    '-' :: (cs.drop 16).take 4 ++ '-' :: cs.drop 20

/-- The canonical spelling of an identifier. -/
def text (id : DocumentId) : String := String.ofList id.chars

/-- The identifier with the given digits, if there are 32. -/
def ofDigits? (digits : List (Fin 16)) : Option DocumentId :=
  if h : digits.length = 32 then some ⟨digits, h⟩ else none

/-- Reads 32 digits without hyphens. -/
def ofPlain? (cs : List Char) : Option DocumentId := (cs.mapM digit?).bind ofDigits?

/-- Reads digits in five groups. -/
def ofGroups? (cs : List Char) : Option DocumentId :=
  if cs.length = 36 ∧ cs[8]? = some '-' ∧ cs[13]? = some '-' ∧ cs[18]? = some '-' ∧
      cs[23]? = some '-' then
    ofPlain? (cs.take 8 ++ (cs.drop 9).take 4 ++ (cs.drop 14).take 4 ++ (cs.drop 19).take 4 ++
      cs.drop 24)
  else none

/-- The inside of braces that enclose the whole text. -/
def insideBraces? : List Char → Option (List Char)
  | '\x7b' :: rest => if rest.getLast? = some '\x7d' then some rest.dropLast else none
  | _ => none

/-- What follows the urn scheme, which may stand in either case. -/
def afterUrn? (cs : List Char) : Option (List Char) :=
  Text.stripPrefixFolded? "urn:uuid:".toList cs

/-- Why a text is no identifier. -/
inductive Fault
  /-- The text is empty, too long, or digits alone of the wrong number. -/
  | length (found : Nat)
  /-- A character is neither a digit nor a hyphen; its place counts bytes. -/
  | character (found : Char) (place : Nat)
  /-- The number of groups is not five. -/
  | groupCount (found : Nat)
  /-- A group has the wrong number of digits. -/
  | groupLength (group expected found : Nat)
  deriving DecidableEq

/-- The wording of a fault. -/
def Fault.message : Fault → String
  | length found => s!"invalid length: found {found}"
  | character found place => s!"invalid character: found `{found}` at {place}"
  | groupCount found => s!"invalid group count: expected 5, found {found}"
  | groupLength group expected found =>
    s!"invalid group length in group {group}: expected {expected}, found {found}"

/-- The number of bytes of a text. -/
def byteLength (cs : List Char) : Nat := cs.foldr (fun c size => c.utf8Size + size) 0

/-- The first character that is neither a digit nor a hyphen, with its place. -/
def strayChar? (place : Nat) : List Char → Option (Char × Nat)
  | [] => none
  | c :: cs =>
    if c = '-' ∨ (digit? c).isSome then strayChar? (place + c.utf8Size) cs else some (c, place)

/-- The places of the hyphens. -/
def hyphens (place : Nat) : List Char → List Nat
  | [] => []
  | c :: cs => if c = '-' then place :: hyphens (place + 1) cs else hyphens (place + 1) cs

/-- The fault of a body of groups; `offset` is where the body begins in the text of the given
length, and `plain` tells that the body could also be meant as digits without hyphens. -/
def bodyFault (body : List Char) (offset textLength : Nat) (plain : Bool) : Fault :=
  match strayChar? offset body with
  | some (c, place) => .character c place
  | none => match hyphens 0 body with
    | [] => if plain then .length textLength else .groupCount 1
    | [a, b, c, d] =>
      if a ≠ 8 then .groupLength 0 8 a
      else if b ≠ 13 then .groupLength 1 4 (b - 9)
      else if c ≠ 18 then .groupLength 2 4 (c - 14)
      else if d ≠ 23 then .groupLength 3 4 (d - 19)
      else .groupLength 4 12 (textLength - 24)
    | found => .groupCount (found.length + 1)

/-- The fault of a text that is no identifier. A text whose length fits one of the grouped
spellings is judged by its groups alone, as if they stood bare. -/
def fault (cs : List Char) : Fault :=
  let size := byteLength cs
  if size = 0 ∨ size > 45 then .length size
  else if size = 36 then bodyFault cs 0 36 true
  else match insideBraces? cs, afterUrn? cs with
    | some body, _ =>
      if size = 38 then bodyFault body 0 36 true else bodyFault body 1 size false
    | none, some body =>
      if size = 45 then bodyFault body 0 36 true else bodyFault body 9 size false
    | none, none => bodyFault cs 0 size true

/-- Reads an identifier in any of its spellings. -/
def ofChars? (cs : List Char) : Option DocumentId :=
  (ofPlain? cs).or <| (ofGroups? cs).or <|
    ((insideBraces? cs).bind ofGroups?).or ((afterUrn? cs).bind ofGroups?)

/-- Reads an identifier in any of its spellings. -/
def ofText? (s : String) : Option DocumentId := ofChars? s.toList

end DocumentId

end IdentityDocs
