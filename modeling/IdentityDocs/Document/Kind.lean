import IdentityDocs.Json.Shape

/-!
# What a submitter says was uploaded
-/

namespace IdentityDocs

/-- The purpose an upload is meant to serve. -/
inductive DocumentKind
  | idProof
  | addressProof
  | photo
  deriving DecidableEq, Repr

namespace DocumentKind

/-- The name of a kind. -/
def name : DocumentKind → String
  | idProof => "id_proof"
  | addressProof => "address_proof"
  | photo => "photo"

instance : Enumerated DocumentKind where
  all := [idProof, addressProof, photo]
  name := name
  mem_all a := by cases a <;> decide
  name_injective a b := by cases a <;> cases b <;> decide

end DocumentKind

end IdentityDocs
