/-!
# Grey images

A raster is a grid of samples, row by row. Images come in several pixel formats; all of them become
grey images of 256 levels. Colours are weighed as the eye sees them, transparency is dropped, and
samples of 16 bits are scaled down to the nearest level.
-/

namespace IdentityDocs

/-- A grey image: its pixels row by row. -/
structure GreyImage where
  width : Nat
  height : Nat
  pixels : List UInt8
  deriving DecidableEq

/-- How the pixels of an image are stored. -/
inductive PixelFormat
  /-- Grey, without and with transparency. -/
  | grey8 | greyAlpha8 | grey16 | greyAlpha16
  /-- Red, green and blue, without and with transparency. -/
  | rgb8 | rgba8 | rgb16
  deriving DecidableEq

/-- An image as it was read: the bytes of its pixels row by row. -/
structure Raster where
  format : PixelFormat
  width : Nat
  height : Nat
  bytes : List UInt8

namespace Raster

/-- A sample of 16 bits, the more significant byte first. -/
def sample16 (high low : UInt8) : Nat := high.toNat * 256 + low.toNat

/-- A level of 65536 as the nearest of 256. -/
def level16 (v : Nat) : UInt8 := UInt8.ofNat ((v + 128) / 257)

/-- The brightness of a colour in ten thousandths, with the weights of the eye for the three
parts. -/
def luminance (r g b : Nat) : Nat := 2126 * r + 7152 * g + 722 * b

/-- The level of a colour with 256 levels a part. -/
def levelRgb8 (r g b : UInt8) : UInt8 :=
  UInt8.ofNat ((luminance r.toNat g.toNat b.toNat + 5000) / 10000)

/-- The level of a colour with 65536 levels a part. -/
def levelRgb16 (r g b : Nat) : UInt8 :=
  UInt8.ofNat ((2 * luminance r g b + 2570000) / 5140000)

/-- The bytes of grey samples with transparency, without the latter. -/
def dropAlpha8 : List UInt8 → List UInt8
  | v :: _ :: rest => v :: dropAlpha8 rest
  | _ => []

/-- The levels of grey samples of 16 bits. -/
def levels16 : List UInt8 → List UInt8
  | a :: b :: rest => level16 (sample16 a b) :: levels16 rest
  | _ => []

/-- The levels of grey samples of 16 bits with transparency. -/
def levelsAlpha16 : List UInt8 → List UInt8
  | a :: b :: _ :: _ :: rest => level16 (sample16 a b) :: levelsAlpha16 rest
  | _ => []

/-- The levels of colours. -/
def levelsRgb8 : List UInt8 → List UInt8
  | r :: g :: b :: rest => levelRgb8 r g b :: levelsRgb8 rest
  | _ => []

/-- The levels of colours with transparency. -/
def levelsRgba8 : List UInt8 → List UInt8
  | r :: g :: b :: _ :: rest => levelRgb8 r g b :: levelsRgba8 rest
  | _ => []

/-- The levels of colours of 16 bits a part. -/
def levelsRgb16 : List UInt8 → List UInt8
  | a :: b :: c :: d :: e :: f :: rest =>
    levelRgb16 (sample16 a b) (sample16 c d) (sample16 e f) :: levelsRgb16 rest
  | _ => []

/-- The grey image of a raster. -/
def grey (r : Raster) : GreyImage where
  width := r.width
  height := r.height
  pixels := match r.format with
    | .grey8 => r.bytes
    | .greyAlpha8 => dropAlpha8 r.bytes
    | .grey16 => levels16 r.bytes
    | .greyAlpha16 => levelsAlpha16 r.bytes
    | .rgb8 => levelsRgb8 r.bytes
    | .rgba8 => levelsRgba8 r.bytes
    | .rgb16 => levelsRgb16 r.bytes

end Raster

end IdentityDocs
