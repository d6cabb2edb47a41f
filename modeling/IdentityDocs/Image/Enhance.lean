import IdentityDocs.Image.Grey

/-!
# Enhancement

Print on a card is made easier to read in two steps on every pixel: the distance from the middle
level is tripled, and what is then missing to white is cut by a tenth. The levels are whole numbers,
so both steps are exact; the second rounds to the nearest level, a half upwards.
-/

namespace IdentityDocs

/-- The level with three times the distance from 128, within the range of levels. -/
def contrast (v : UInt8) : UInt8 :=
  let level : Int := 3 * ((v.toNat : Int) - 128) + 128
  if level < 0 then 0 else if 255 < level then 255 else UInt8.ofNat level.toNat

/-- The level moved a tenth of the way to white, rounded to the nearest. -/
def brighten (v : UInt8) : UInt8 := UInt8.ofNat ((9 * v.toNat + 260) / 10)

/-- The enhanced image. -/
def GreyImage.enhance (image : GreyImage) : GreyImage :=
  { image with pixels := image.pixels.map fun v => brighten (contrast v) }

end IdentityDocs
