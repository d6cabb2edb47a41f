/-!
# Texts in columns

Tables are lined up by padding with blanks. A text that is longer than its column stays whole.
Widths count characters.
-/

namespace IdentityDocs.Text

/-- The text at the left of a column of the given width. -/
def padRight (width : Nat) (s : String) : String :=
  s ++ String.ofList (List.replicate (width - s.length) ' ')

/-- The text at the right of a column of the given width. -/
def padLeft (width : Nat) (s : String) : String :=
  String.ofList (List.replicate (width - s.length) ' ') ++ s

end IdentityDocs.Text
