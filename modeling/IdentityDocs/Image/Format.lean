import IdentityDocs.Files.Path

/-!
# Image formats

A format is told by the first bytes of a file, or else by the extension of its name.
-/

namespace IdentityDocs

/-- A format of image files. -/
inductive ImageFormat
  | avif | jpeg | png | gif | webp | tiff | tga | dds | bmp | ico | hdr | openExr | pnm | farbfeld
  | qoi
  deriving DecidableEq, Repr

namespace ImageFormat

/-- The extensions of file names, in lower case. -/
def extensions : List (String × ImageFormat) :=
  [("avif", avif), ("jpg", jpeg), ("jpeg", jpeg), ("jfif", jpeg), ("png", png), ("apng", png),
   ("gif", gif), ("webp", webp), ("tif", tiff), ("tiff", tiff), ("tga", tga), ("dds", dds),
   ("bmp", bmp), ("ico", ico), ("hdr", hdr), ("exr", openExr), ("pbm", pnm), ("pam", pnm),
   ("ppm", pnm), ("pgm", pnm), ("pnm", pnm), ("ff", farbfeld), ("qoi", qoi)]

/-- The MIME type of a format. -/
def mimeType : ImageFormat → String
  | avif => "image/avif"
  | jpeg => "image/jpeg"
  | png => "image/png"
  | gif => "image/gif"
  | webp => "image/webp"
  | tiff => "image/tiff"
  | tga => "image/x-targa"
  | dds => "image/vnd-ms.dds"
  | bmp => "image/bmp"
  | ico => "image/x-icon"
  | hdr => "image/vnd.radiance"
  | openExr => "image/x-exr"
  | pnm => "image/x-portable-anymap"
  | farbfeld => "application/octet-stream"
  | qoi => "image/x-qoi"

/-- The format that an extension stands for; ASCII case does not matter. -/
def ofExtension? (extension : FileName) : Option ImageFormat :=
  match Text.decode? extension with
  | some text => extensions.lookup (String.ofList (text.toList.map Char.toLower))
  | none => none

/-- The format that the name of a file stands for. -/
def ofPath? (p : Path) : Option ImageFormat := p.extension?.bind ofExtension?

/-- The first bytes of files of each format. -/
def signatures : List (List UInt8 × ImageFormat) :=
  [([0x89, 0x50, 0x4e, 0x47, 0x0d, 0x0a, 0x1a, 0x0a], png), ([0xff, 0xd8, 0xff], jpeg),
   (Text.encode "GIF89a", gif), (Text.encode "GIF87a", gif), (Text.encode "MM" ++ [0, 42], tiff),
   (Text.encode "II" ++ [42, 0], tiff), (Text.encode "DDS ", dds), (Text.encode "BM", bmp),
   ([0, 0, 1, 0], ico), (Text.encode "#?RADIANCE", hdr),
   (Text.encode "P1", pnm), (Text.encode "P2", pnm), (Text.encode "P3", pnm),
   (Text.encode "P4", pnm), (Text.encode "P5", pnm), (Text.encode "P6", pnm),
   (Text.encode "P7", pnm), (Text.encode "farbfeld", farbfeld),
   ([0x76, 0x2f, 0x31, 0x01], openExr), (Text.encode "qoif", qoi)]

/-- The format that the first bytes of a file tell. -/
def ofBytes? (bytes : List UInt8) : Option ImageFormat :=
  signatures.findSome? fun (signature, format) =>
    if signature.isPrefixOf bytes then some format else none

end ImageFormat

end IdentityDocs
