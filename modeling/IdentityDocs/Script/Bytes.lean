import IdentityDocs.Files.FileSystem

/-!
# What programs pass to each other

Programs are given arguments, and they read and write bytes. The characters of arguments and of what
is read and written stand for bytes, so each is below 256. Letters and digits are those of ASCII.
-/

namespace IdentityDocs.Script

/-- Characters that stand for bytes. -/
abbrev Bytes := List Char

/-- Bytes as characters. -/
def ofBytes (bytes : List UInt8) : Bytes := bytes.map fun b => Char.ofNat b.toNat

/-- Characters as bytes. -/
def toBytes (cs : Bytes) : List UInt8 := cs.map fun c => UInt8.ofNat c.toNat

/-- The UTF-8 encoding of a text as characters. -/
def ofText (s : String) : Bytes := ofBytes (Text.encode s)

/-- A path that is given as an argument. -/
def argPath (arg : Bytes) : Path := ⟨toBytes arg⟩

/-- Words with blanks between them. -/
def spaced (words : List Bytes) : Bytes := List.intercalate [' '] words

/-! ## Characters -/

/-- Whether a character may stand at the beginning of a name. -/
def isNameStart (c : Char) : Bool := c.isAlpha || c == '_'

/-- Whether a character may stand in a name. -/
def isNameChar (c : Char) : Bool := c.isAlphanum || c == '_'

/-- Whether a text is a name. -/
def isName (cs : Bytes) : Bool := cs.head?.any isNameStart && cs.all isNameChar

/-- Whether a character is white space. -/
def isSpace (c : Char) : Bool :=
  c == ' ' || c == '\t' || c == '\n' || c == '\x0b' || c == '\x0c' || c == '\r'

/-- Whether a character is an octal digit. -/
def isOctal (c : Char) : Bool := '0' ≤ c && c ≤ '7'

/-- Whether a character is a hexadecimal digit. -/
def isHex (c : Char) : Bool := c.isDigit || ('a' ≤ c && c ≤ 'f') || ('A' ≤ c && c ≤ 'F')

/-- The value of a digit; letters follow the decimal digits. -/
def digitValue (c : Char) : Nat :=
  if c.isDigit then c.toNat - 48
  else if 'a' ≤ c ∧ c ≤ 'z' then c.toNat - 87
  else if 'A' ≤ c ∧ c ≤ 'Z' then c.toNat - 55
  else 0

/-- The number that digits denote in a base. -/
def valueOf (base : Nat) (digits : Bytes) : Nat :=
  digits.foldl (fun n d => base * n + digitValue d) 0

/-! ## Numbers -/

/-- A number in decimal. -/
def decimal (n : Nat) : Bytes := Nat.toDigits 10 n

/-- A number in decimal, with a sign if it is below zero. -/
def signed (n : Int) : Bytes := if n < 0 then '-' :: decimal n.natAbs else decimal n.natAbs

/-- The number that decimal digits denote. -/
def number? (cs : Bytes) : Option Nat :=
  if cs ≠ [] ∧ cs.all Char.isDigit then some (valueOf 10 cs) else none

/-! ## Lines -/

/-- The lines of a text, each with its end; the last may have none. -/
def linesOf (cs : Bytes) : List Bytes :=
  let (last, done) := cs.foldl (fun (line, done) c =>
    if c = '\n' then ([], ('\n' :: line).reverse :: done) else (c :: line, done))
    (([], []) : Bytes × List Bytes)
  (if last = [] then done else last.reverse :: done).reverse

/-- A line without its end. -/
def bareLine (line : Bytes) : Bytes := line.filter (· ≠ '\n')

/-- A text without the line ends behind it. -/
def trimLineEnds (cs : Bytes) : Bytes := (cs.reverse.dropWhile (· == '\n')).reverse

end IdentityDocs.Script
