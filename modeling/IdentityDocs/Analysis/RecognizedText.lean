import IdentityDocs.Text.Blank
import IdentityDocs.Text.Lines

/-!
# Recognized texts

The text that was read off an image, as it came, and its lines as the analysis sees them: trimmed,
and without those too short to be anything but noise.
-/

namespace IdentityDocs

/-- The least number of characters of a line that is not noise. -/
def minLineLength : Nat := 3

/-- The trimmed lines of a text that are not noise. -/
def cleanLines (raw : List Char) : List (List Char) :=
  ((Text.lines raw).map Text.trim).filter fun line => minLineLength ≤ line.length

/-- A text that was read off an image. -/
structure RecognizedText where
  raw : List Char

namespace RecognizedText

/-- The text that a recognizer gave. -/
def of (raw : String) : RecognizedText := ⟨raw.toList⟩

/-- The trimmed lines that are not noise, in reading order. -/
def lines (t : RecognizedText) : List (List Char) := cleanLines t.raw

/-- Whether the text holds blanks only. -/
def isEmpty (t : RecognizedText) : Bool := (Text.trim t.raw).isEmpty

end RecognizedText

end IdentityDocs
