import IdentityDocs.Image.Processed
import IdentityDocs.Recognizer.Command

/-!
# Platforms

A platform is what the program runs on: it launches commands, it turns images into their processed
copies, and it numbers the tasks of a worker. What it does there is left open.
-/

namespace IdentityDocs

/-- What the program runs on. -/
structure Platform where
  launch : Launcher
  copier : Copier
  /-- The numbers that are drawn for the tasks of a worker, by the places of their jobs. -/
  tickets : Nat → Nat

end IdentityDocs
