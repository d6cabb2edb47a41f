import IdentityDocs.Json.Value

/-!
# Writing JSON

Two layouts: `compact` without any white space, and `pretty` with one member or item a line and two
blanks a level. Inside a string only the quote, the backslash and the controls below the blank are
escaped. What is broken is written as `null`.
-/

namespace IdentityDocs.Json

/-- A code unit below 256 as four hexadecimal digits. -/
def unitText (n : Nat) : List Char :=
  ['0', '0', Nat.digitChar (n / 16), Nat.digitChar (n % 16)]

/-- How a character is written inside a string. -/
def escapeChar (c : Char) : List Char :=
  match c with
  | '"' => ['\\', '"']
  | '\\' => ['\\', '\\']
  | '\x08' => ['\\', 'b']
  | '\x0c' => ['\\', 'f']
  | '\n' => ['\\', 'n']
  | '\r' => ['\\', 'r']
  | '\t' => ['\\', 't']
  | c => if c.toNat < 0x20 then '\\' :: 'u' :: unitText c.toNat else [c]

/-- A string literal. -/
def stringText (s : String) : List Char :=
  '"' :: s.toList.flatMap escapeChar ++ ['"']

/-- A number literal. -/
def numberText : Number → List Char
  | .whole v => (toString v).toList
  | .decimal negative integral fraction exponent =>
    (if negative then ['-'] else []) ++ integral ++
      (if fraction = [] then [] else '.' :: fraction) ++ 'e' :: (toString exponent).toList

mutual

/-- The value without white space. -/
def compactText : Json → List Char
  | null => ['n', 'u', 'l', 'l']
  | bool true => ['t', 'r', 'u', 'e']
  | bool false => ['f', 'a', 'l', 's', 'e']
  | number n => numberText n
  | string s => stringText s
  | array items => '[' :: compactItems items ++ [']']
  | object members => '\x7b' :: compactMembers members ++ ['\x7d']
  | broken => ['n', 'u', 'l', 'l']

/-- Items between commas. -/
def compactItems : List Json → List Char
  | [] => []
  | [item] => compactText item
  | item :: items => compactText item ++ ',' :: compactItems items

/-- Members between commas. -/
def compactMembers : List (String × Json) → List Char
  | [] => []
  | [(key, value)] => stringText key ++ ':' :: compactText value
  | (key, value) :: members =>
    stringText key ++ ':' :: compactText value ++ ',' :: compactMembers members

end

/-- A line end and the indentation of a level. -/
def newline (level : Nat) : List Char := '\n' :: List.replicate (2 * level) ' '

mutual

/-- The value, laid out on lines; `level` is the indentation of the line it begins on. -/
def prettyText (level : Nat) : Json → List Char
  | array (item :: items) =>
    '[' :: prettyItems (level + 1) (item :: items) ++ newline level ++ [']']
  | object (member :: members) =>
    '\x7b' :: prettyMembers (level + 1) (member :: members) ++ newline level ++ ['\x7d']
  | null => compactText null
  | bool b => compactText (bool b)
  | number n => compactText (number n)
  | string s => compactText (string s)
  | array [] => compactText (array [])
  | object [] => compactText (object [])
  | broken => compactText broken

/-- Items, each on a line of its own. -/
def prettyItems (level : Nat) : List Json → List Char
  | [] => []
  | [item] => newline level ++ prettyText level item
  | item :: items => newline level ++ prettyText level item ++ ',' :: prettyItems level items

/-- Members, each on a line of its own. -/
def prettyMembers (level : Nat) : List (String × Json) → List Char
  | [] => []
  | [(key, value)] => newline level ++ stringText key ++ ':' :: ' ' :: prettyText level value
  | (key, value) :: members =>
    newline level ++ stringText key ++ ':' :: ' ' :: prettyText level value ++
      ',' :: prettyMembers level members

end

/-- The text of a value without white space. -/
def compact (j : Json) : String := String.ofList (compactText j)

/-- The text of a value, laid out on lines. -/
def pretty (j : Json) : String := String.ofList (prettyText 0 j)

end IdentityDocs.Json
