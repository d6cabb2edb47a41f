import IdentityDocs.Error.File
import IdentityDocs.Text.Quoted

/-!
# Faults of images
-/

namespace IdentityDocs

/-- Why the bytes of a file are no image. -/
inductive ImageFault
  /-- Neither the bytes nor the name of the file tell a format. -/
  | formatUnknown
  /-- The bytes tell no format and the extension of the name none that is known. -/
  | extensionUnknown (extension : String)
  /-- The bytes do not keep to their format. -/
  | malformed (format problem : String)
  /-- The bytes end inside a header. -/
  | cutOff
  /-- There are fewer bytes than every image of the format has. -/
  | unfilled
  /-- The image would take up too much memory. -/
  | tooLarge
  deriving DecidableEq

/-- The wording of a fault. -/
def ImageFault.message : ImageFault → String
  | formatUnknown => "The image format could not be determined"
  | extensionUnknown extension =>
    s!"The file extension `.{Text.quoted extension}` was not recognized as an image format"
  | malformed format problem => s!"Format error decoding {format}: {problem}"
  | cutOff => "unexpected end of file"
  | unfilled => "failed to fill whole buffer"
  | tooLarge => "Memory limit exceeded"

/-- Why an image cannot be processed. -/
inductive ImageError
  | cannotOpen (path : String) (cause : FileError)
  | cannotDecode (path : String) (cause : ImageFault)
  /-- A side is zero or too long for the format of the processed copy. -/
  | cannotEncode (width height : Nat)
  /-- A fault that somebody else worded. -/
  | reported (text : String)
  deriving DecidableEq

/-- The wording of a fault. -/
def ImageError.message : ImageError → String
  | cannotOpen path cause => s!"failed to open {path}: {cause.message}"
  | cannotDecode path cause => s!"failed to decode {path}: {cause.message}"
  | cannotEncode width height =>
    s!"JPEG encoding failed: Format error encoding Jpeg:\nInvalid image size ({width} x {height}) " ++
      "to encode as JPEG: width and height must be >= 1 and <= 65535"
  | reported text => text

end IdentityDocs
