import IdentityDocs.Script.Reading

/-!
# Reading words

Quotes and backslashes keep characters from their meaning, and a dollar sign or a back quote begins
a place that is filled in later. Such a place can hold words and commands again, so the reader of
words is given a reader of what lies one level deeper.
-/

namespace IdentityDocs.Script

/-- The line that ends a text below. -/
structure Mark where
  text : Bytes
  /-- Whether tabs in front of lines do not count. -/
  untabbed : Bool

/-- Readers of what lies inside something else. Where that lies in a text below, the mark of the text
is given. -/
structure Reader where
  /-- Reads commands up to a token that ends them. The text can be empty if `mayBeEmpty`, and it ends
  at a line end if `oneLine`. -/
  list : (mayBeEmpty oneLine : Bool) → Reading Tree
  /-- Reads a single command, whose first word can mean something else as `allowed`. -/
  command : (allowed : Allowed) → Reading Tree
  /-- Reads the next token; the next word may not be an alias or a keyword. -/
  token : Reading Token
  /-- Reads the word behind an operator, up to the closing brace. -/
  operand : (quoted : Bool) → (below : Option Mark) → Reading Word
  /-- Reads an expression, up to two closing parentheses. -/
  sum : (below : Option Mark) → Reading Word

/-- The complaint about a token. -/
def unexpected {α : Type} (expecting : Option String) : Reading α := do
  let found := (← get).last.spelling
  match expecting with
  | some wanted => refuse s!"{found} unexpected (expecting {wanted})"
  | none => refuse s!"{found} unexpected"

/-- What to say of a quotation that is not closed. -/
def unterminated : String := "Unterminated quoted string"

/-- What to say of a brace that is not closed. -/
def missingBrace : String := "Missing '\x7d'"

/-- How the inside of quotes is read. -/
inductive Quoting
  /-- Up to the double quote; `nested` tells that it stands between braces. -/
  | double (nested : Bool) (below : Option Mark)
  /-- Up to the closing brace; `inner` tells that double quotes were opened again. -/
  | operand (inner : Bool) (below : Option Mark)
  /-- Up to the line that ends a text below. -/
  | text (mark : Mark)
  /-- Up to two closing parentheses, inside `depth` others. -/
  | sum (depth : Nat) (below : Option Mark)

/-- The text below that the inside of quotes lies in. -/
def Quoting.below : Quoting → Option Mark
  | double _ below | operand _ below | sum _ below => below
  | text mark => some mark

/-- Whether the inside of quotes stands between braces. -/
def Quoting.isNested : Quoting → Bool
  | double nested _ => nested
  | operand .. => true
  | _ => false

/-- Whether a backslash takes the meaning of a character away. -/
def Quoting.isEscapable (q : Quoting) (c : Char) : Bool :=
  c == '\\' || c == '\x60' || c == '$' || (c == '\x7d' && q.isNested) ||
    (c == '"' && match q with
      | text .. => false
      | _ => true)

/-! ## Places -/

/-- Whether a character is a variable by itself. -/
def isSpecial (c : Char) : Bool :=
  c.isDigit || c == '#' || c == '?' || c == '$' || c == '!' || c == '-' || c == '*' || c == '@'

/-- Reads commands between back quotes, the first of which was read. -/
def readBackQuoted (self : Reader) (quoted : Bool) : Reading Piece := do
  let inside ← readLoop [] fun acc => do
    match ← nextChar? with
    | none => refuse "EOF in backquote substitution"
    | some '\x60' => return .done acc.reverse
    | some '\\' => match ← rawChar? with
      | none => refuse "EOF in backquote substitution"
      | some c =>
        if c = '\\' ∨ c = '\x60' ∨ c = '$' ∨ (c = '"' ∧ quoted) then return .again (c :: acc)
        else return .again (c :: '\\' :: acc)
    | some c => return .again (c :: acc)
  let s ← get
  set { s with rest := inside, line := 1, putBack := false, awaited := [], within := [] }
  let body ← self.list true false
  modify fun inner => { inner with
    rest := s.rest, line := s.line, putBack := false, awaited := s.awaited, within := s.within }
  return .output body quoted

/-- Reads commands between parentheses, the first of which was read. -/
def readOutput (self : Reader) (quoted : Bool) : Reading Piece := do
  let awaited := (← get).awaited
  modify fun s => { s with awaited := [], putBack := false }
  let body ← self.list true false
  match ← self.token with
  | .closing => pure ()
  | _ => unexpected (some Token.closing.spelling)
  modify fun s => { s with awaited, putBack := false }
  return .output body quoted

/-- Reads the operator behind the name of a variable, and the word behind that. -/
def readForm (self : Reader) (quoted : Bool) (below : Option Mark) : Reading Form := do
  let orEmpty ← accept ':'
  match ← nextSign? with
  | none => refuse (if quoted && below.isNone then unterminated else missingBrace)
  | some c =>
    let missing (m : Missing) : Reading Form := do
      return .orElse m orEmpty (← self.operand quoted below)
    match c with
    | '\x7d' =>
      if orEmpty then
        discard (self.operand quoted below)
        return .bad
      else return .plain
    | '-' => missing .replaced
    | '=' => missing .assigned
    | '?' => missing .refused
    | '+' => missing .inverted
    | c =>
      if (c = '#' ∨ c = '%') ∧ !orEmpty then
        let longest ← accept c
        return .trimmed (c = '%') longest (← self.operand false below)
      else
        discard (self.operand quoted below)
        return .bad

/-- Reads a variable between braces, the first of which was read. -/
def readBraced (self : Reader) (quoted : Bool) (below : Option Mark) : Reading Piece := do
  let bad : Reading Piece := do
    discard (self.operand quoted below)
    return .variable [] .bad quoted
  let named (c : Char) : Reading Bytes :=
    if isNameStart c then charsWhile isNameChar else charsWhile Char.isDigit
  match ← peek? with
  | none => bad
  | some '#' =>
    discard nextChar?
    match ← peek? with
    | none => bad
    | some c =>
      if isNameChar c then
        let name ← named c
        if (← peek?) = some '\x7d' then
          discard (self.operand quoted below)
          return .variable name .length quoted
        else
          discard (self.operand quoted below)
          return .variable name .bad quoted
      else
        let before ← get
        discard nextChar?
        if c ≠ '\x7d' ∧ (← peek?) = some '\x7d' then
          if isSpecial c then
            discard (self.operand quoted below)
            return .variable [c] .length quoted
          else bad
        else
          set before
          return .variable ['#'] (← readForm self quoted below) quoted
  | some c =>
    if isNameChar c then
      let name ← named c
      return .variable name (← readForm self quoted below) quoted
    else if c ≠ '\x7d' ∧ isSpecial c then
      discard nextChar?
      return .variable [c] (← readForm self quoted below) quoted
    else
      if c ≠ '\x7d' then discard nextSign?
      bad

/-! ## Inside quotes -/

/-- Whether the text below ends here; the line that ends it is then passed over. Tabs that do not
count are passed over as well. -/
def endsText (mark : Mark) : Reading Bool := do
  if mark.untabbed then modify fun s => { s with rest := s.rest.dropWhile (· == '\t') }
  let s ← get
  let pass (rest : Bytes) : Reading Bool := do
    set { s with rest, line := s.line + 1 }
    return true
  if s.rest.isEmpty then return true
  else if mark.text.isPrefixOf s.rest then
    match s.rest.drop mark.text.length with
    | [] => pass []
    | '\n' :: rest => pass rest
    | _ => return false
  else return false

/-- Whether the text below ends here, where a backslash hides the end of a line. -/
def endsHere (mark : Mark) : Reading Bool := do
  skipHidden
  endsText mark

/-- Refuses to read on if the text below ends here. -/
def refuseEnd (below : Option Mark) (message : String) : Reading Unit := do
  match below with
  | none => pure ()
  | some mark => if ← endsHere mark then refuse message

/-- Reads a text below as it stands. -/
def readVerbatim (mark : Mark) : Reading Word :=
  readLoop [] fun acc => do
    if ← endsText mark then return .done acc.reverse
    let s ← get
    let line := s.rest.takeWhile (· ≠ '\n')
    let rest := s.rest.drop line.length
    let acc := (line.map fun c => Piece.char c true).reverse ++ acc
    match rest with
    | '\n' :: rest =>
      set { s with rest, line := s.line + 1 }
      return .again (.char '\n' true :: acc)
    | rest =>
      set { s with rest }
      return .again acc

/-- Reads what follows a dollar sign. -/
def readDollar (self : Reader) (quoted : Bool) (below : Option Mark) : Reading Piece := do
  match ← peek? with
  | some '(' =>
    discard nextChar?
    if ← accept '(' then return .sum (← self.sum below) quoted
    else readOutput self quoted
  | some '\x7b' =>
    discard nextChar?
    readBraced self quoted below
  | some c =>
    if isNameStart c then return .variable (← charsWhile isNameChar) .plain quoted
    else if isSpecial c then
      discard nextChar?
      return .variable [c] .plain quoted
    else return .char '$' quoted
  | none => return .char '$' quoted

/-- What one step inside quotes comes to. -/
abbrev QuotedTurn := Turn (Quoting × List Piece) Word

/-- What to say of a sum that is not closed. -/
def missingParentheses : String := "Missing '))'"

/-- Reads the inside of quotes of a kind. -/
def readQuoted (self : Reader) (q : Quoting) : Reading Word := do
  let start : Bool ← match q with
    | .text mark => endsHere mark
    | _ => pure false
  if start then return []
  readLoop (q, []) fun (q, acc) => do
    let go (p : Piece) : Reading QuotedTurn := return .again (q, p :: acc)
    let plain (c : Char) : Reading QuotedTurn := go (.char c true)
    match ← nextChar? with
    | none => match q with
      | .text .. => return .done acc.reverse
      | .sum .. => refuse missingParentheses
      | .operand _ (some _) => refuse missingBrace
      | _ => refuse unterminated
    | some '\\' => match ← rawChar? with
      | none => plain '\\'
      | some c =>
        if q.isEscapable c then plain c
        else return .again (q, .char c true :: .char '\\' true :: acc)
    | some '$' => go (← readDollar self true q.below)
    | some '\x60' => go (← readBackQuoted self true)
    | some '"' => match q with
      | .double .. => return .done acc.reverse
      | .operand inner below => return .again (.operand (!inner) below, acc)
      | _ => plain '"'
    | some '\x7d' => match q with
      | .operand false _ => return .done acc.reverse
      | _ => plain '\x7d'
    | some '(' => match q with
      | .sum depth below => return .again (.sum (depth + 1) below, .char '(' true :: acc)
      | _ => plain '('
    | some ')' => match q with
      | .sum (depth + 1) below => return .again (.sum depth below, .char ')' true :: acc)
      | .sum 0 _ => if ← accept ')' then return .done acc.reverse else plain ')'
      | _ => plain ')'
    | some '\n' =>
      let acc := Piece.char '\n' true :: acc
      match q with
      | .text mark => if ← endsHere mark then return .done acc.reverse else return .again (q, acc)
      | .sum _ below =>
        refuseEnd below missingParentheses
        return .again (q, acc)
      | q =>
        refuseEnd q.below missingBrace
        return .again (q, acc)
    | some c => plain c

/-- Reads single quotes, the first of which was read. -/
def readSingle : Reading Word :=
  readLoop [] fun acc => do
    match ← rawChar? with
    | none => refuse unterminated
    | some '\'' => return .done acc.reverse
    | some c => return .again (.char c true :: acc)

/-! ## Outside quotes -/

/-- Where a word that is not quoted stands. -/
inductive Place
  | command
  /-- Between braces, which may stand in a text below. -/
  | braces (below : Option Mark)
  /-- The mark that ends a text below; dollar signs and back quotes mean themselves. -/
  | mark

/-- Whether a character ends a word. -/
def endsWord (c : Char) : Bool :=
  c == ' ' || c == '\t' || c == '\n' || c == ';' || c == '&' || c == '|' || c == '<' || c == '>' ||
    c == '(' || c == ')'

/-- Reads a word up to its end, which stays unread, or up to the closing brace; also tells whether
some of it is quoted. -/
def readWord (self : Reader) (place : Place) : Reading (Word × Bool) :=
  let nested : Bool := match place with
    | .braces _ => true
    | _ => false
  let below : Option Mark := match place with
    | .braces below => below
    | _ => none
  readLoop ([], false) fun (acc, quoted) => do
    let go (p : Piece) : Reading (Turn (List Piece × Bool) (Word × Bool)) :=
      return .again (p :: acc, quoted)
    match ← peek? with
    | none => if nested then refuse missingBrace else return .done (acc.reverse, quoted)
    | some c =>
      if endsWord c && !nested then return .done (acc.reverse, quoted)
      discard nextChar?
      match c with
      | '\\' => match ← rawChar? with
        | none => return .again (.char '\\' true :: acc, quoted)
        | some c => return .again (.char c true :: acc, true)
      | '\'' =>
        let w ← readSingle
        return .again (.quote :: (w.reverse ++ .quote :: acc), true)
      | '"' =>
        let w ← readQuoted self (.double nested below)
        return .again (.quote :: (w.reverse ++ .quote :: acc), true)
      | '\x7d' => if nested then return .done (acc.reverse, quoted) else go (.char c false)
      | '$' => match place with
        | .mark => go (.char c false)
        | _ => go (← readDollar self false below)
      | '\x60' => match place with
        | .mark => go (.char c false)
        | _ => go (← readBackQuoted self false)
      | '\n' =>
        refuseEnd below missingBrace
        go (.char c false)
      | c => go (.char c false)

end IdentityDocs.Script
