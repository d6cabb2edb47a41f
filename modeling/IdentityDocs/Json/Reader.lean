import IdentityDocs.Json.Value

/-!
# Reading JSON

A strict reader: one value with white space around it and nothing else, no comments, no trailing
commas and no raw control characters inside strings. Each function answers with what it read and
the characters after it.
-/

namespace IdentityDocs.Json

/-- The characters from the first that is not JSON white space. -/
def skipBlanks (cs : List Char) : List Char :=
  cs.dropWhile fun c => c == ' ' || c == '\n' || c == '\t' || c == '\r'

/-- The value of a hexadecimal digit. -/
def hexDigit? (c : Char) : Option Nat :=
  if '0' ≤ c ∧ c ≤ '9' then some (c.toNat - 48)
  else if 'a' ≤ c ∧ c ≤ 'f' then some (c.toNat - 87)
  else if 'A' ≤ c ∧ c ≤ 'F' then some (c.toNat - 55)
  else none

/-- Reads four hexadecimal digits. -/
def readUnit : List Char → Option (Nat × List Char)
  | a :: b :: c :: d :: rest => do
    let a ← hexDigit? a
    let b ← hexDigit? b
    let c ← hexDigit? c
    let d ← hexDigit? d
    return (a * 4096 + b * 256 + c * 16 + d, rest)
  | _ => none

/-- Reads what follows `\u`: one unit, or a high surrogate and the escaped low one after it. Half of
a pair is no character. -/
def readUnicodeEscape (cs : List Char) : Option (Option Char × List Char) := do
  let (unit, rest) ← readUnit cs
  if 0xd800 ≤ unit ∧ unit < 0xdc00 then
    match rest with
    | '\\' :: 'u' :: afterMark => do
      let (low, afterPair) ← readUnit afterMark
      if 0xdc00 ≤ low ∧ low < 0xe000 then
        return (some (Char.ofNat (0x10000 + (unit - 0xd800) * 1024 + (low - 0xdc00))), afterPair)
      else return (none, rest)
    | rest => return (none, rest)
  else if 0xdc00 ≤ unit ∧ unit < 0xe000 then return (none, rest)
  else return (some (Char.ofNat unit), rest)

/-- Reads what follows the backslash of an escape. -/
def readEscape : List Char → Option (Option Char × List Char)
  | '"' :: rest => some (some '"', rest)
  | '\\' :: rest => some (some '\\', rest)
  | '/' :: rest => some (some '/', rest)
  | 'b' :: rest => some (some '\x08', rest)
  | 'f' :: rest => some (some '\x0c', rest)
  | 'n' :: rest => some (some '\n', rest)
  | 'r' :: rest => some (some '\r', rest)
  | 't' :: rest => some (some '\t', rest)
  | 'u' :: rest => readUnicodeEscape rest
  | _ => none

/-- A list with one more element, if there is one. -/
def consIfAll {α : Type} (a : Option α) (rest : Option (List α)) : Option (List α) :=
  match a, rest with
  | some a, some rest => some (a :: rest)
  | _, _ => none

/-- Reads the inside of a string and its closing quote; at most `fuel` characters. A broken string
has no characters. -/
def readString : (fuel : Nat) → List Char → Option (Option (List Char) × List Char)
  | 0, _ => none
  | _ + 1, [] => none
  | _ + 1, '"' :: rest => some (some [], rest)
  | fuel + 1, '\\' :: rest => do
    let (c, rest) ← readEscape rest
    let (cs, rest) ← readString fuel rest
    return (consIfAll c cs, rest)
  | fuel + 1, c :: rest =>
    if c.toNat < 0x20 then none
    else do
      let (cs, rest) ← readString fuel rest
      return (consIfAll (some c) cs, rest)

/-- The decimal digits at the beginning, and what follows them. -/
def readDigits (cs : List Char) : List Char × List Char :=
  (cs.takeWhile Char.isDigit, cs.dropWhile Char.isDigit)

/-- The number that decimal digits denote. -/
def digitsValue (digits : List Char) : Nat :=
  digits.foldl (fun n d => n * 10 + (d.toNat - 48)) 0

/-- Reads the digits before the point: a zero alone, or digits that do not begin with one. -/
def readWhole : List Char → Option (List Char × List Char)
  | '0' :: rest => some (['0'], rest)
  | cs => match readDigits cs with
    | ([], _) => none
    | digits => some digits

/-- Reads the point and the digits after it; without a point there are no digits. -/
def readFraction : List Char → Option (List Char × List Char)
  | '.' :: rest => match readDigits rest with
    | ([], _) => none
    | digits => some digits
  | cs => some ([], cs)

/-- Reads the exponent, if there is one. -/
def readExponent : List Char → Option (Option Int × List Char)
  | c :: rest =>
    if c = 'e' ∨ c = 'E' then
      let (negative, rest) := match rest with
        | '-' :: rest => (true, rest)
        | '+' :: rest => (false, rest)
        | rest => (false, rest)
      match readDigits rest with
      | ([], _) => none
      | (digits, rest) =>
        let n : Int := digitsValue digits
        some (some (if negative then -n else n), rest)
    else some (none, c :: rest)
  | [] => some (none, [])

/-- Reads a number. -/
def readNumber (cs : List Char) : Option (Number × List Char) := do
  let (negative, cs) := match cs with
    | '-' :: rest => (true, rest)
    | cs => (false, cs)
  let (whole, cs) ← readWhole cs
  let (fraction, cs) ← readFraction cs
  let (exponent, cs) ← readExponent cs
  let value : Int := digitsValue whole
  if fraction = [] ∧ exponent = none ∧ ¬(negative ∧ value = 0) then
    return (.whole (if negative then -value else value), cs)
  else return (.decimal negative whole fraction (exponent.getD 0), cs)

mutual

/-- Reads a value with the white space in front of it. -/
def readValue : (fuel : Nat) → List Char → Option (Json × List Char)
  | 0, _ => none
  | fuel + 1, cs =>
    match skipBlanks cs with
    | '"' :: rest => do
      let (s, rest) ← readString (rest.length + 1) rest
      return (s.elim broken fun cs => string (String.ofList cs), rest)
    | '[' :: rest =>
      match skipBlanks rest with
      | ']' :: rest => some (array [], rest)
      | rest => do
        let (items, rest) ← readItems fuel rest
        return (array items, rest)
    | '\x7b' :: rest =>
      match skipBlanks rest with
      | '\x7d' :: rest => some (object [], rest)
      | rest => do
        let (members, rest) ← readMembers fuel rest
        return (members.elim broken object, rest)
    | 'n' :: 'u' :: 'l' :: 'l' :: rest => some (null, rest)
    | 't' :: 'r' :: 'u' :: 'e' :: rest => some (bool true, rest)
    | 'f' :: 'a' :: 'l' :: 's' :: 'e' :: rest => some (bool false, rest)
    | cs => do
      let (n, rest) ← readNumber cs
      return (number n, rest)

/-- Reads the items of an array up to its closing bracket. -/
def readItems : (fuel : Nat) → List Char → Option (List Json × List Char)
  | 0, _ => none
  | fuel + 1, cs => do
    let (item, rest) ← readValue fuel cs
    match skipBlanks rest with
    | ']' :: rest => return ([item], rest)
    | ',' :: rest => do
      let (items, rest) ← readItems fuel rest
      return (item :: items, rest)
    | _ => none

/-- Reads the members of an object up to its closing brace; with a broken key there are none. -/
def readMembers :
    (fuel : Nat) → List Char → Option (Option (List (String × Json)) × List Char)
  | 0, _ => none
  | fuel + 1, cs => do
    let '"' :: rest := skipBlanks cs | none
    let (key, rest) ← readString (rest.length + 1) rest
    let ':' :: rest := skipBlanks rest | none
    let (value, rest) ← readValue fuel rest
    let member := key.map fun cs => (String.ofList cs, value)
    match skipBlanks rest with
    | '\x7d' :: rest => return (consIfAll member (some []), rest)
    | ',' :: rest => do
      let (members, rest) ← readMembers fuel rest
      return (consIfAll member members, rest)
    | _ => none

end

/-- The value that a text denotes, if it is JSON. Every character is paid for at most twice, once
for the value it begins and once for the list that value stands in. -/
def parse? (s : String) : Option Json :=
  let cs := s.toList
  match readValue (2 * cs.length + 2) cs with
  | some (value, rest) => if (skipBlanks rest).isEmpty then some value else none
  | none => none

end IdentityDocs.Json
