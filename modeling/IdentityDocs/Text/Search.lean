/-!
# Occurrences of one text in another

`occursIn needle text` tells whether the needle stands somewhere in the text. `stripPrefix?` and
`stripPrefixFolded?` cut a known beginning off, the second without regard to ASCII case.
-/

namespace IdentityDocs.Text

/-- Whether `needle` stands somewhere in the text. -/
def occursIn (needle : List Char) : List Char → Bool
  | [] => needle.isEmpty
  | c :: cs => needle.isPrefixOf (c :: cs) || occursIn needle cs

theorem occursIn_iff {needle text : List Char} : occursIn needle text = true ↔ needle <:+: text := by
  induction text with
  | nil => simp [occursIn]
  | cons c cs ih => simp [occursIn, ih, List.infix_cons_iff]

/-- What follows `start`, if the text begins with it. -/
def stripPrefix? : (start text : List Char) → Option (List Char)
  | [], text => some text
  | _ :: _, [] => none
  | s :: start, c :: text => if s = c then stripPrefix? start text else none

/-- What follows `start`, if the text begins with it in any mixture of ASCII case. -/
def stripPrefixFolded? : (start text : List Char) → Option (List Char)
  | [], text => some text
  | _ :: _, [] => none
  | s :: start, c :: text =>
    if s.toLower = c.toLower then stripPrefixFolded? start text else none

end IdentityDocs.Text
