/-!
# Texts as bytes

The UTF-8 encoding of a text, and two ways back. `decode?` refuses bytes that are not UTF-8.
`decodeLossy` accepts all bytes: what is not UTF-8 becomes replacement characters, one for each
longest start of an encoding that the next byte breaks off.
-/

namespace IdentityDocs.Text

/-- The UTF-8 encoding of a text. -/
def encode (s : String) : List UInt8 := s.toList.flatMap String.utf8EncodeChar

/-- The text that the bytes encode, if they are UTF-8. -/
def decode? (bytes : List UInt8) : Option String := String.fromUTF8? ⟨bytes.toArray⟩

/-- The character that stands for bytes which encode nothing. -/
def replacement : Char := '\ufffd'

/-- A character whose first bytes have been read. -/
structure Pending where
  /-- How many bytes are still to come. -/
  missing : Nat
  /-- The bits read so far. -/
  bits : Nat
  /-- The least byte that may come next. -/
  low : UInt8
  /-- The greatest byte that may come next. -/
  high : UInt8

/-- The start of a character of several bytes. The second byte is bounded so that no character has
two encodings, and none lies in the surrogate range or above the last code point. -/
def Pending.start? (b : UInt8) : Option Pending :=
  let n := b.toNat
  if 0xc2 ≤ n && n ≤ 0xdf then some ⟨1, n - 0xc0, 0x80, 0xbf⟩
  else if n == 0xe0 then some ⟨2, 0, 0xa0, 0xbf⟩
  else if n == 0xed then some ⟨2, 0xd, 0x80, 0x9f⟩
  else if 0xe1 ≤ n && n ≤ 0xef then some ⟨2, n - 0xe0, 0x80, 0xbf⟩
  else if n == 0xf0 then some ⟨3, 0, 0x90, 0xbf⟩
  else if 0xf1 ≤ n && n ≤ 0xf3 then some ⟨3, n - 0xf0, 0x80, 0xbf⟩
  else if n == 0xf4 then some ⟨3, 4, 0x80, 0x8f⟩
  else none

/-- Reads a byte where a character may begin: the characters it settles, and what is then pending. -/
def readFirst (b : UInt8) : List Char × Option Pending :=
  if b.toNat < 0x80 then ([Char.ofNat b.toNat], none)
  else match Pending.start? b with
    | some p => ([], some p)
    | none => ([replacement], none)

/-- Reads a byte: the characters it settles, and what is then pending. A byte that cannot continue
the pending character is read again as the first of another. -/
def readByte (b : UInt8) : Option Pending → List Char × Option Pending
  | none => readFirst b
  | some p =>
    if p.low ≤ b && b ≤ p.high then
      let bits := p.bits * 64 + (b.toNat - 0x80)
      if p.missing ≤ 1 then ([Char.ofNat bits], none)
      else ([], some ⟨p.missing - 1, bits, 0x80, 0xbf⟩)
    else
      let (settled, pending) := readFirst b
      (replacement :: settled, pending)

/-- Decodes the bytes that follow a possibly unfinished character. -/
def decodeFrom : Option Pending → List UInt8 → List Char
  | none, [] => []
  | some _, [] => [replacement]
  | pending, b :: bytes =>
    let (settled, next) := readByte b pending
    settled ++ decodeFrom next bytes

/-- The text of any bytes, with replacement characters where they are not UTF-8. -/
def decodeLossy (bytes : List UInt8) : String := String.ofList (decodeFrom none bytes)

end IdentityDocs.Text
