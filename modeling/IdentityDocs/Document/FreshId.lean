import IdentityDocs.Document.Id

/-!
# Identifiers made up at random

An identifier is made up from 128 random bits. Six of them are given up to say that it was: they
hold the version and the variant.
-/

namespace IdentityDocs.DocumentId

/-- The two digits of a byte. -/
def byteDigits (b : UInt8) : List (Fin 16) :=
  [digitOf (b.toNat / 16), digitOf b.toNat]

/-- The digits with the place of the version and that of the variant filled in. -/
def marked (digits : List (Fin 16)) : List (Fin 16) :=
  let spare := (digits[16]?.map Fin.val).getD 0
  (digits.set 12 (digitOf 4)).set 16 (digitOf (8 + spare % 4))

/-- The identifier that is made up from random bytes, if there are 16. -/
def ofRandom? (bytes : List UInt8) : Option DocumentId :=
  ofDigits? (marked (bytes.flatMap byteDigits))

end IdentityDocs.DocumentId
