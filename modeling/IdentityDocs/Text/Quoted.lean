import IdentityDocs.Text.Printable

/-!
# Quoted texts in messages

A message quotes a text that somebody typed between double quotes. The quote and the backslash get a
backslash, the four common controls their letter, every other character that does not show by itself
its code point in hexadecimal; all else stands as it is.
-/

namespace IdentityDocs.Text

/-- A number in lower-case hexadecimal, without leading zeros. -/
def hexText (n : Nat) : List Char := Nat.toDigits 16 n

/-- How a character is written inside quotes. -/
def escape (c : Char) : List Char :=
  match c with
  | '\x00' => ['\\', '0']
  | '\t' => ['\\', 't']
  | '\n' => ['\\', 'n']
  | '\r' => ['\\', 'r']
  | '"' => ['\\', '"']
  | '\\' => ['\\', '\\']
  | c => if isPrintable c then [c] else ['\\', 'u', '\x7b'] ++ hexText c.toNat ++ ['\x7d']

/-- A text between quotes, with escapes inside. -/
def quoted (s : String) : String :=
  String.ofList ('"' :: s.toList.flatMap escape ++ ['"'])

end IdentityDocs.Text
