import IdentityDocs.Script.Pattern

/-!
# Fields

Once its places are filled in, a word falls apart at the separators in what filled them. White space
that separates counts once however much of it there is; any other separator ends a field, which may
be empty.
-/

namespace IdentityDocs.Script

/-- A piece of a word whose places are filled in. -/
inductive Item
  | char (c : Char) (quoted : Bool)
  /-- A quotation mark stood here. -/
  | mark
  /-- Between two arguments of a script. -/
  | boundary
  /-- Here begins what may be split; only between arguments if `whole`. -/
  | start (whole : Bool)
  /-- Here ends what may be split. -/
  | stop

/-- The characters of items. -/
def markedText (items : List Item) : List Marked :=
  items.filterMap fun item => match item with
    | .char c quoted => some (c, quoted)
    | _ => none

/-- The text of items, with a blank between two arguments. -/
def plainText (items : List Item) : Bytes :=
  items.filterMap fun item => match item with
    | .char c _ => some c
    | .boundary => some ' '
    | _ => none

/-- The text of characters some of which are quoted. -/
def bare (cs : List Marked) : Bytes := cs.map (·.1)

/-- White space that separates by default. -/
def isGap (c : Char) : Bool := c == ' ' || c == '\t' || c == '\n'

/-- A word that is being split. -/
structure Splitting where
  /-- The fields that are complete, the last one first. -/
  fields : List (List Item) := []
  /-- The field that is being put together, the last item first. -/
  field : List Item := []
  /-- Whether items may be split. -/
  splits : Bool := false
  /-- Whether only the places between arguments separate, here and in the part before. -/
  whole : Bool := false
  afterWhole : Bool := false
  /-- What ended the last field and may go on: `some true` after white space alone. -/
  ended : Option Bool := none

namespace Splitting

/-- Adds an item to the field. -/
def keep (s : Splitting) (item : Item) : Splitting :=
  { s with field := item :: s.field, ended := none }

/-- Ends the field at a separator; `gap` tells that it is white space. -/
def separate (s : Splitting) (gap : Bool) : Splitting :=
  let gap := gap && !s.afterWhole && !s.whole
  match s.ended with
  | some onlyGaps =>
    if gap then s
    else if onlyGaps then { s with ended := some false }
    else { s with fields := [] :: s.fields, ended := some gap }
  | none =>
    if s.field.isEmpty && gap then s
    else { s with
      fields := s.field.reverse :: s.fields
      field := []
      ended := if s.whole then none else some gap }

/-- Takes the next item. -/
def step (separators : Bytes) (s : Splitting) (item : Item) : Splitting :=
  match item with
  | .start whole => { s with splits := true, afterWhole := s.whole, whole, ended := none }
  | .stop => { s with splits := false, ended := none }
  | .char c _ =>
    if s.splits && !s.whole && separators.contains c then s.separate (isGap c) else s.keep item
  | .boundary => if s.splits then s.separate true else s.keep item
  | .mark => s.keep item

/-- The fields at the end. The last one may be empty only behind arguments that are kept whole. -/
def finish (s : Splitting) : List (List Item) :=
  if s.whole || !s.field.isEmpty then (s.field.reverse :: s.fields).reverse else s.fields.reverse

end Splitting

/-- The fields that items fall apart into. -/
def fieldsOf (separators : Bytes) (items : List Item) : List (List Item) :=
  (items.foldl (Splitting.step separators) {}).finish

/-! ## Fields of a line -/

/-- The first fields of a line, as many as are asked for; the last one takes what is left, without
the white space behind it, and without one separator if nothing but white space follows that. A
character that is quoted does not separate. -/
def lineFields (separators : Bytes) : (count : Nat) → List Marked → List Bytes
  | 0, _ => []
  | count + 1, cs =>
    let separates (c : Marked) : Bool := !c.2 && separators.contains c.1
    let gap (c : Marked) : Bool := separates c && isGap c.1
    let cs := cs.dropWhile gap
    if cs = [] then []
    else
      let field := cs.takeWhile fun c => !separates c
      let rest := cs.drop field.length
      if count = 0 then
        let tail := rest.dropWhile gap
        match tail with
        | [] => [bare field]
        | c :: more =>
          if separates c ∧ more.all gap then [bare field]
          else [bare (cs.reverse.dropWhile gap).reverse]
      else
        let rest := rest.dropWhile gap
        let rest := match rest with
          | c :: more => if separates c then more else rest
          | [] => []
        bare field :: lineFields separators count rest

end IdentityDocs.Script
