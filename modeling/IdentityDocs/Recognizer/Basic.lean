import IdentityDocs.Error.Basic
import IdentityDocs.Files.FileSystem

/-!
# Recognizers

A recognizer reads the text off an image. It is asked for the image at a path in a language, and it
answers with a text, refuses with an error, or breaks down. It sees the files; most recognizers leave
them as they are.
-/

namespace IdentityDocs

/-- What a recognizer answers. -/
inductive Recognition
  | text (read : String)
  | failure (cause : Error)
  /-- The recognizer broke down and left a message. -/
  | breakdown (message : String)

/-- A recognizer of texts. -/
structure Recognizer where
  name : String
  ask : FileSystem → Path → (language : String) → Recognition
  /-- The files after the recognizer was asked. -/
  leaves : FileSystem → Path → (language : String) → FileSystem := fun files _ _ => files

namespace Recognizer

/-- A recognizer that gives the same answer to every question. -/
def always (name : String) (answer : Recognition) : Recognizer := { name, ask := fun _ _ _ => answer }

end Recognizer

end IdentityDocs
