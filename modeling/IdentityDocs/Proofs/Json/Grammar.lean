import IdentityDocs.Json.Reader

/-!
# The grammar of JSON

Which texts spell which values, said without the reader: white space may stand around every value
and every sign of an array or object, a character of a string may stand as it is or be escaped in
any of several ways, and a number may have a fraction and an exponent. Nothing is said of how deep
arrays and objects lie in one another, and keys may come in any order and more than once.

A string in which half of a surrogate pair is escaped is in the grammar, but it has no characters;
it spells the broken value, and so does an object with such a key.
-/

namespace IdentityDocs.Json

/-- White space: blanks, tabs and line ends. -/
def IsSpace (cs : List Char) : Prop := ∀ c ∈ cs, c = ' ' ∨ c = '\n' ∨ c = '\t' ∨ c = '\r'

/-! ## Strings -/

/-- A hexadecimal digit, in either case, and its value. -/
def HexDigit (c : Char) (value : Nat) : Prop :=
  ('0' ≤ c ∧ c ≤ '9' ∧ c.toNat = 48 + value) ∨ ('a' ≤ c ∧ c ≤ 'f' ∧ c.toNat = 87 + value) ∨
    ('A' ≤ c ∧ c ≤ 'F' ∧ c.toNat = 55 + value)

/-- Four hexadecimal digits, and the code unit that they make up. -/
def UnitText (cs : List Char) (unit : Nat) : Prop :=
  ∃ a b c d va vb vc vd, cs = [a, b, c, d] ∧ HexDigit a va ∧ HexDigit b vb ∧ HexDigit c vc ∧
    HexDigit d vd ∧ unit = va * 4096 + vb * 256 + vc * 16 + vd

/-- The first half of a surrogate pair. -/
def IsHigh (unit : Nat) : Prop := 0xd800 ≤ unit ∧ unit < 0xdc00

/-- The second half of a surrogate pair. -/
def IsLow (unit : Nat) : Prop := 0xdc00 ≤ unit ∧ unit < 0xe000

/-- The code point of a surrogate pair. -/
def pairCode (high low : Nat) : Nat := 0x10000 + (high - 0xd800) * 1024 + (low - 0xdc00)

/-- What may follow a backslash on its own, and the character that is meant. -/
def shortEscapes : List (Char × Char) :=
  [('"', '"'), ('\\', '\\'), ('/', '/'), ('b', '\x08'), ('f', '\x0c'), ('n', '\n'), ('r', '\r'),
   ('t', '\t')]

/-- What may stand between the quotes of a string, and the characters of the string; there are none
if half of a surrogate pair is escaped. -/
inductive StringText : List Char → Option (List Char) → Prop
  | nil : StringText [] (some [])
  /-- A character that stands for itself. -/
  | plain {c : Char} {cs : List Char} {s : Option (List Char)} : c ≠ '"' → c ≠ '\\' →
    0x20 ≤ c.toNat → StringText cs s → StringText (c :: cs) (s.map (c :: ·))
  | short {x c : Char} {cs : List Char} {s : Option (List Char)} : (x, c) ∈ shortEscapes →
    StringText cs s → StringText ('\\' :: x :: cs) (s.map (c :: ·))
  | unit {digits cs : List Char} {n : Nat} {s : Option (List Char)} : UnitText digits n →
    ¬ IsHigh n → ¬ IsLow n → StringText cs s →
    StringText ('\\' :: 'u' :: (digits ++ cs)) (s.map (Char.ofNat n :: ·))
  | pair {digits digits' cs : List Char} {high low : Nat} {s : Option (List Char)} :
    UnitText digits high → IsHigh high → UnitText digits' low → IsLow low → StringText cs s →
    StringText ('\\' :: 'u' :: (digits ++ '\\' :: 'u' :: (digits' ++ cs)))
      (s.map (Char.ofNat (pairCode high low) :: ·))
  /-- A second half without a first one. -/
  | low {digits cs : List Char} {n : Nat} {s : Option (List Char)} : UnitText digits n → IsLow n →
    StringText cs s → StringText ('\\' :: 'u' :: (digits ++ cs)) none
  /-- A first half without a second one. -/
  | high {digits cs : List Char} {n : Nat} {s : Option (List Char)} : UnitText digits n →
    IsHigh n → (∀ digits' rest m, cs = '\\' :: 'u' :: (digits' ++ rest) → UnitText digits' m →
      ¬ IsLow m) →
    StringText cs s → StringText ('\\' :: 'u' :: (digits ++ cs)) none

/-! ## Numbers -/

/-- Decimal digits, at least one. -/
def IsDigits (cs : List Char) : Prop := cs ≠ [] ∧ ∀ c ∈ cs, c.isDigit = true

/-- The digits before the point: they begin with a zero only if that is all. -/
def WholeText (cs : List Char) : Prop := IsDigits cs ∧ (cs.head? = some '0' → cs = ['0'])

/-- A point and digits, or nothing. -/
def FractionText (cs digits : List Char) : Prop :=
  (cs = [] ∧ digits = []) ∨ (cs = '.' :: digits ∧ IsDigits digits)

/-- A sign that may be missing. -/
inductive SignText : List Char → (negative : Bool) → Prop
  | absent : SignText [] false
  | plus : SignText ['+'] false
  | minus : SignText ['-'] true

/-- A whole number with its sign. -/
def signed (negative : Bool) (n : Nat) : Int := if negative then -(n : Int) else n

/-- An exponent of ten, or nothing. -/
inductive ExponentText : List Char → Option Int → Prop
  | absent : ExponentText [] none
  | present {mark : Char} {sign digits : List Char} {negative : Bool} : mark = 'e' ∨ mark = 'E' →
    SignText sign negative → IsDigits digits →
    ExponentText (mark :: (sign ++ digits)) (some (signed negative (digitsValue digits)))

/-- The number of a literal with the given parts. A minus in front of zero is kept. -/
def Number.ofParts (negative : Bool) (integral fraction : List Char) (exponent : Option Int) :
    Number :=
  if fraction = [] ∧ exponent = none ∧ ¬ (negative = true ∧ digitsValue integral = 0) then
    .whole (signed negative (digitsValue integral))
  else .decimal negative integral fraction (exponent.getD 0)

/-- A number: a minus or nothing, digits, a fraction and an exponent. -/
inductive NumberText : List Char → Number → Prop
  | mk {sign integral text fraction text' : List Char} {negative : Bool} {exponent : Option Int} :
    SignText sign negative → sign ≠ ['+'] → WholeText integral → FractionText text fraction →
    ExponentText text' exponent →
    NumberText (sign ++ (integral ++ (text ++ text')))
      (Number.ofParts negative integral fraction exponent)

/-! ## Values -/

/-- What a part of a text may spell. -/
inductive Part
  | value (j : Json)
  /-- The items of an array. -/
  | items (js : List Json)
  /-- The members of an object; there are none if a key is broken. -/
  | members (ms : Option (List (String × Json)))

/-- A key and the colon behind it, with the white space around them. -/
def KeyText (cs : List Char) (key : Option String) : Prop :=
  ∃ a inner b s, cs = a ++ '"' :: (inner ++ '"' :: (b ++ [':'])) ∧ IsSpace a ∧
    StringText inner s ∧ IsSpace b ∧ key = s.map String.ofList

/-- The text spells a value, or what stands between the brackets of an array or object. -/
inductive Spells : Part → List Char → Prop
  | nullText : Spells (.value null) ['n', 'u', 'l', 'l']
  | trueText : Spells (.value (bool true)) ['t', 'r', 'u', 'e']
  | falseText : Spells (.value (bool false)) ['f', 'a', 'l', 's', 'e']
  | number {cs : List Char} {n : Number} : NumberText cs n → Spells (.value (number n)) cs
  | string {cs : List Char} {s : Option (List Char)} : StringText cs s →
    Spells (.value (s.elim broken fun s => string (String.ofList s))) ('"' :: (cs ++ ['"']))
  | emptyArray {a : List Char} : IsSpace a → Spells (.value (array [])) ('[' :: (a ++ [']']))
  | array {items : List Json} {cs : List Char} : Spells (.items items) cs →
    Spells (.value (array items)) ('[' :: (cs ++ [']']))
  | emptyObject {a : List Char} : IsSpace a →
    Spells (.value (object [])) ('\x7b' :: (a ++ ['\x7d']))
  | object {members : Option (List (String × Json))} {cs : List Char} :
    Spells (.members members) cs →
    Spells (.value (members.elim broken object)) ('\x7b' :: (cs ++ ['\x7d']))
  | lastItem {a cs b : List Char} {item : Json} : IsSpace a → Spells (.value item) cs →
    IsSpace b → Spells (.items [item]) (a ++ (cs ++ b))
  | nextItem {a cs b more : List Char} {item : Json} {items : List Json} : IsSpace a →
    Spells (.value item) cs → IsSpace b → Spells (.items items) more →
    Spells (.items (item :: items)) (a ++ (cs ++ (b ++ ',' :: more)))
  | lastMember {key a cs b : List Char} {k : Option String} {value : Json} : KeyText key k →
    IsSpace a → Spells (.value value) cs → IsSpace b →
    Spells (.members (k.map fun k => [(k, value)])) (key ++ (a ++ (cs ++ b)))
  | nextMember {key a cs b more : List Char} {k : Option String} {value : Json}
      {members : Option (List (String × Json))} : KeyText key k →
    IsSpace a → Spells (.value value) cs → IsSpace b → Spells (.members members) more →
    Spells (.members (k.bind fun k => members.map ((k, value) :: ·)))
      (key ++ (a ++ (cs ++ (b ++ ',' :: more))))

/-- The whole text is a value with white space around it. -/
def TextOf (j : Json) (text : String) : Prop :=
  ∃ a cs b, text.toList = a ++ (cs ++ b) ∧ IsSpace a ∧ Spells (.value j) cs ∧ IsSpace b

end IdentityDocs.Json
