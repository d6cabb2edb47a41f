import IdentityDocs.Files.FileSystem
import IdentityDocs.Fingerprint.Hasher

/-!
# Fingerprints of files

The fingerprint of a file is the SHA-256 digest of its content in hexadecimal. The file is read in
pieces, so that it need never be in memory as a whole.
-/

namespace IdentityDocs

/-- The greatest number of bytes that are read at once. -/
def pieceSize : Nat := 8192

/-- Bytes in pieces of `pieceSize`, the last of which may be shorter. -/
def pieces (bytes : List UInt8) : List (List UInt8) :=
  if bytes = [] then [] else bytes.take pieceSize :: pieces (bytes.drop pieceSize)
termination_by bytes.length
decreasing_by
  rename_i h
  have := List.length_pos_iff.2 h
  simp only [List.length_drop, pieceSize]
  omega

/-- Bytes in lower-case hexadecimal. -/
def hexBytes (bytes : List UInt8) : String :=
  String.ofList <| bytes.flatMap fun b =>
    [Nat.digitChar (b.toNat / 16), Nat.digitChar (b.toNat % 16)]

/-- The fingerprint of a file. -/
def fingerprint (fs : FileSystem) (p : Path) : Except FileError String :=
  match fs.read p with
  | .ok bytes => .ok (hexBytes (Sha256.digestPieces (pieces bytes)))
  | .error e => .error e

end IdentityDocs
