/-!
# Lines of a text

A line ends at a line feed, and a carriage return directly before the line feed belongs to the line
end. What follows the last line feed is a line of its own unless it is empty. No other character
ends a line.
-/

namespace IdentityDocs.Text

/-- Puts a character in front of the first line. -/
def pushFront (c : Char) : List (List Char) → List (List Char)
  | [] => [[c]]
  | line :: rest => (c :: line) :: rest

/-- The lines of a text, without their line ends. -/
def lines : List Char → List (List Char)
  | [] => []
  | '\n' :: cs => [] :: lines cs
  | '\r' :: '\n' :: cs => [] :: lines cs
  | c :: cs => pushFront c (lines cs)

end IdentityDocs.Text
