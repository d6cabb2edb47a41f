import IdentityDocs.Error.Configuration
import IdentityDocs.Error.StatusChange
import IdentityDocs.Text.Blank

/-!
# Identifiers and states that a user types

Blanks around what was typed do not matter, nor does the ASCII case of a status.
-/

namespace IdentityDocs

/-- Reads an identifier. A complaint quotes what was typed, the blanks around it included. -/
def DocumentId.parse (text : String) : Except ConfigurationError DocumentId :=
  let typed := Text.trim text.toList
  match ofChars? typed with
  | some id => .ok id
  | none => .error (.invalidDocumentId text (fault typed))

/-- Reads a status. -/
def VerificationStatus.parse (text : String) : Except StatusError VerificationStatus :=
  let folded := String.ofList ((Text.trim text.toList).map Char.toLower)
  match Enumerated.ofName? folded with
  | some status => .ok status
  | none => .error (.unknownStatus folded)

end IdentityDocs
