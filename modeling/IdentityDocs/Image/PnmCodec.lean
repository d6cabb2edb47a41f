import IdentityDocs.Image.Format
import IdentityDocs.Image.Pnm
import IdentityDocs.Image.Processed

/-!
# A codec for portable anymaps

A codec that reads binary portable anymaps and no other format. It tells what is wrong with any
other file by its first bytes and its name. What it writes has the frame of a JPEG file of the
image's size around the pixels as they are: enough for everybody who only asks for the size.
-/

namespace IdentityDocs.Pnm

/-- The fault of bytes that are named like a JPEG file and are none. -/
def jpegFault : List UInt8 → ImageFault
  | a :: b :: _ =>
    let digits := (Nat.toDigits 16 (a.toNat * 256 + b.toNat)).map Char.toUpper
    .malformed "Jpeg"
      s!"Error parsing image. Illegal start bytes:{String.ofList digits}"
  | _ => .malformed "Jpeg" "Error parsing image. Illegal start bytes:0"

/-- The fault of bytes that do not tell their format, in a file of the given name. -/
def unknownFault (source : Path) (bytes : List UInt8) : ImageFault :=
  match source.extension? with
  | none | some [] => .formatUnknown
  | some extension => match ImageFormat.ofExtension? extension with
    | none => .extensionUnknown (Text.decodeLossy extension)
    | some .jpeg => jpegFault bytes
    | some .png => .malformed "Png" "Invalid PNG signature."
    | some .pnm => match decode bytes with
      | .error fault => fault
      | .ok _ => .formatUnknown
    | some _ => .formatUnknown

/-- Reads a portable anymap; of an image in another format it does not make anything. -/
def decodeFile (source : Path) (bytes : List UInt8) : Except ImageFault Raster :=
  match ImageFormat.ofBytes? bytes with
  | some .pnm => decode bytes
  | some _ => .error .formatUnknown
  | none => .error (unknownFault source bytes)

/-- The longest side of a JPEG image. -/
def maxJpegSide : Nat := 65535

/-- A number of up to 16 bits as two bytes. -/
def sideBytes (n : Nat) : List UInt8 := [UInt8.ofNat (n / 256), UInt8.ofNat (n % 256)]

/-- What every JPEG file begins with. -/
def jpegStart : List UInt8 := [0xff, 0xd8, 0xff, 0xc0, 0, 11, 8]

/-- The pixels between the start with the header of a JPEG file and its end mark. -/
def frame (image : GreyImage) : Except ImageError (List UInt8) :=
  if 1 ≤ image.width ∧ image.width ≤ maxJpegSide ∧ 1 ≤ image.height ∧
      image.height ≤ maxJpegSide then
    .ok (jpegStart ++ sideBytes image.height ++ sideBytes image.width ++
      [1, 1, 0x11, 0] ++ image.pixels ++ [0xff, 0xd9])
  else .error (.cannotEncode image.width image.height)

/-- The width and the height that the header of a JPEG file tells. -/
def jpegSize? (bytes : List UInt8) : Option (Nat × Nat) :=
  if jpegStart.isPrefixOf bytes then
    match bytes.drop jpegStart.length with
    | a :: b :: c :: d :: _ => some (c.toNat * 256 + d.toNat, a.toNat * 256 + b.toNat)
    | _ => none
  else none

/-- The width and the height of an image, be it a processed copy or not. -/
def imageSize? (bytes : List UInt8) : Option (Nat × Nat) :=
  match decode bytes with
  | .ok raster => some (raster.width, raster.height)
  | .error _ => jpegSize? bytes

/-- The codec. -/
def codec : ImageCodec := { decode := decodeFile, encode := frame }

/-- Makes copies with this codec. -/
def copier : Copier := .ofCodec codec

end IdentityDocs.Pnm
