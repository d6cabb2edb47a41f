import IdentityDocs.Error.Basic
import IdentityDocs.Files.FileSystem
import IdentityDocs.Image.Enhance

/-!
# Processed copies

Before its text is recognized, an image may be enhanced into a copy that lies beside it. The name of
the copy follows from the path of the image alone.

Which bytes denote an image, and which bytes the copy consists of, is a matter of image formats, and
a file that is being written may break off for reasons that lie outside the files. Both are left
open: a `Copier` is any way in which the content of an image is turned into that of its copy, and
anything that goes wrong when the copy is written. Every `ImageCodec` gives one, by which an image
is enhanced between decoding and encoding.
-/

namespace IdentityDocs

/-- What the path of a processed copy ends in. -/
def processedSuffix : String := "_processed.jpg"

/-- The path of the processed copy of an image. -/
def Path.processed (source : Path) : Path := source.append processedSuffix

/-- How images are read from bytes and written as bytes. -/
structure ImageCodec where
  /-- Reads the image that the content of a file denotes; the path tells its name. -/
  decode : Path → List UInt8 → Except ImageFault Raster
  encode : GreyImage → Except ImageError (List UInt8)

/-- What goes wrong when a file is written that nothing at its place stands in the way of. -/
inductive WriteFault
  /-- The file is not opened. -/
  | refused (cause : FileError)
  /-- The writing breaks off, with some of the bytes written. -/
  | brokenOff (count : Nat) (cause : FileError)

/-- How processed copies come about. -/
structure Copier where
  /-- Works out the content of the copy of an image with the given path and content. -/
  convert : Path → List UInt8 → Except ImageError (List UInt8)
  /-- What goes wrong when a copy is written to a path. -/
  fault : Path → Option WriteFault := fun _ => none

namespace Copier

/-- The copies that a codec makes of enhanced images, if nothing goes wrong. -/
def ofCodec (codec : ImageCodec) : Copier where
  convert source bytes := match codec.decode source bytes with
    | .error fault => .error (.cannotDecode source.text fault)
    | .ok raster => codec.encode raster.grey.enhance

/-- Reads an image file and works out the content of its processed copy. -/
def process (c : Copier) (files : FileSystem) (image : Path) : Except ImageError (List UInt8) :=
  match files.read image with
  | .error e => .error (.cannotOpen image.text e)
  | .ok bytes => c.convert image bytes

/-- Writes a file: the files afterwards, and what went wrong. -/
def write (c : Copier) (files : FileSystem) (path : Path) (bytes : List UInt8) :
    FileSystem × Option FileError :=
  match c.fault path with
  | none => match files.write path bytes with
    | .ok files => (files, none)
    | .error e => (files, some e)
  | some (.refused cause) => (files, some cause)
  | some (.brokenOff count cause) => match files.write path (bytes.take count) with
    | .ok files => (files, some cause)
    | .error e => (files, some e)

end Copier

end IdentityDocs
