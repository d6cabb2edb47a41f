import IdentityDocs.Image.Grey
import IdentityDocs.Error.Image

/-!
# Portable anymaps

The binary forms of the format: `P5` for grey and `P6` for colours. After these two bytes the header
has the width, the height and the greatest sample as words between white space; one byte of white
space ends the last of them, and then the samples follow. A comment reaches from `#` to the end of
the line, which belongs to it, and is as if it were not there: it may stand inside a word.
-/

namespace IdentityDocs.Pnm

/-- Why a word of the header is no number. -/
inductive NumberFault
  | notADigit
  | tooLarge
  deriving DecidableEq

/-- The wording of a fault. -/
def NumberFault.message : NumberFault → String
  | notADigit => "invalid digit found in string"
  | tooLarge => "number too large to fit in target type"

/-- Why bytes are no image of this format. -/
inductive Fault
  /-- The first two bytes are none of the format. -/
  | signature (first second : UInt8)
  | notAscii (byte : UInt8)
  | notANumber (word : String) (cause : NumberFault)
  | greatestTooLarge (greatest : Nat)
  | tooShort
  deriving DecidableEq

/-- A byte as two hexadecimal digits in upper case. -/
def byteText (b : UInt8) : String :=
  String.ofList ['0', 'x', (Nat.digitChar (b.toNat / 16)).toUpper,
    (Nat.digitChar (b.toNat % 16)).toUpper]

/-- The wording of a fault. -/
def Fault.message : Fault → String
  | signature first second =>
    s!"Expected magic constant for PNM: P1..P7, got [{byteText first}, {byteText second}]"
  | notAscii byte => s!"Non-ASCII character {byteText byte} in header"
  | notANumber word cause =>
    s!"Error parsing {Text.quoted word} as number in preamble: {cause.message}"
  | greatestTooLarge greatest => s!"Image MAXVAL exceeds 65535: {greatest}"
  | tooShort => "Not enough data was provided to the Decoder to decode the image"

/-- The fault of an image. -/
def Fault.imageFault (fault : Fault) : ImageFault := .malformed "Pnm" fault.message

/-- Whether a byte is white space. -/
def isBlank (b : UInt8) : Bool := b == 32 || (9 ≤ b && b ≤ 13)

/-- Whether a byte ends a comment. -/
def endsComment (b : UInt8) : Bool := b == 10 || b == 13

/-- The bytes after a comment. -/
def skipComment : List UInt8 → List UInt8
  | [] => []
  | b :: rest => if endsComment b then rest else skipComment rest

theorem length_skipComment_le (bytes : List UInt8) :
    (skipComment bytes).length ≤ bytes.length := by
  induction bytes with
  | nil => exact Nat.le_refl _
  | cons b rest ih => simp only [skipComment]; split <;> simp only [List.length_cons] <;> omega

/-- Reads a word of the header, of which some characters have been read already, and the white space
after it. -/
def readWord (read : List Char) : List UInt8 → Except ImageFault (List Char × List UInt8)
  | [] => if read = [] then .error .cutOff else .ok (read, [])
  | b :: rest =>
    if b = 35 then readWord read (skipComment rest)
    else if isBlank b then if read = [] then readWord read rest else .ok (read, rest)
    else if 128 ≤ b then .error (Fault.notAscii b).imageFault
    else readWord (read ++ [Char.ofNat b.toNat]) rest
  termination_by bytes => bytes.length
  decreasing_by
    · have := length_skipComment_le rest
      simp only [List.length_cons]
      omega
    · simp
    · simp

/-- The number that a word says: digits, with a plus sign or without, for a number of 32 bits. -/
def number? (word : List Char) : Except NumberFault Nat :=
  let digits := match word with
    | '+' :: rest => rest
    | word => word
  if digits = [] ∨ !digits.all Char.isDigit then .error .notADigit
  else
    let n := digits.foldl (fun n d => n * 10 + (d.toNat - 48)) 0
    if n < 4294967296 then .ok n else .error .tooLarge

/-- Reads a number of the header. -/
def readNumber (bytes : List UInt8) : Except ImageFault (Nat × List UInt8) := do
  let (word, rest) ← readWord [] bytes
  match number? word with
  | .ok n => .ok (n, rest)
  | .error cause => .error (Fault.notANumber (String.ofList word) cause).imageFault

/-- Reads the signature: whether the image has colours. -/
def readSignature : List UInt8 → Except ImageFault (Bool × List UInt8)
  | 80 :: 53 :: rest => .ok (false, rest)
  | 80 :: 54 :: rest => .ok (true, rest)
  | a :: b :: _ => .error (Fault.signature a b).imageFault
  | _ => .error .unfilled

/-- The format of pixels with samples up to the given one. -/
def formatOf (coloured : Bool) (greatest : Nat) : PixelFormat :=
  match coloured, decide (greatest ≤ 255) with
  | false, true => .grey8
  | false, false => .grey16
  | true, true => .rgb8
  | true, false => .rgb16

/-- The number of bytes of a pixel. -/
def pixelSize : PixelFormat → Nat
  | .rgb8 => 3
  | .grey16 => 2
  | .rgb16 => 6
  | _ => 1

/-- A sample of an image whose greatest sample is another than that of its format. -/
def stretch (greatest most v : Nat) : Nat :=
  if v = 0 then 0 else min most ((2 * v * most + greatest) / (2 * greatest))

/-- Samples of one byte, stretched. -/
def stretch8 (greatest : Nat) (bytes : List UInt8) : List UInt8 :=
  bytes.map fun b => UInt8.ofNat (stretch greatest 255 b.toNat)

/-- Samples of two bytes, stretched. -/
def stretch16 (greatest : Nat) : List UInt8 → List UInt8
  | a :: b :: rest =>
    let v := stretch greatest 65535 (Raster.sample16 a b)
    UInt8.ofNat (v / 256) :: UInt8.ofNat (v % 256) :: stretch16 greatest rest
  | _ => []

/-- The samples of an image, stretched if its greatest sample asks for it. -/
def stretched (greatest : Nat) (bytes : List UInt8) : List UInt8 :=
  if greatest = 255 ∨ greatest = 65535 then bytes
  else if greatest < 255 then stretch8 greatest bytes
  else stretch16 greatest bytes

/-- The greatest number of bytes of samples: 512 binary megabytes. -/
def maxSize : Nat := 536870912

/-- Reads an image. -/
def decode (bytes : List UInt8) : Except ImageFault Raster := do
  let (coloured, rest) ← readSignature bytes
  let (width, rest) ← readNumber rest
  let (height, rest) ← readNumber rest
  let (greatest, rest) ← readNumber rest
  if 65535 < greatest then .error (Fault.greatestTooLarge greatest).imageFault
  let format := formatOf coloured greatest
  let size := width * height * pixelSize format
  if maxSize < size then .error .tooLarge
  let samples := rest.take size
  if samples.length < size then .error Fault.tooShort.imageFault
  return ⟨format, width, height, stretched greatest samples⟩

end IdentityDocs.Pnm
