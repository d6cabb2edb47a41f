import IdentityDocs.Script.Tree

/-!
# Reading a script

A script is read character by character. The reader keeps the line it is in, the last token, which
can be put back, and the texts that are still to come below the line. A word that is an alias is
replaced by its text, which is then read in its place.
-/

namespace IdentityDocs.Script

/-- The words with a meaning of their own. -/
inductive Keyword
  | bang | case | do | done | elif | else | esac | fi | for | if | in | then | until | while
  | leftBrace | rightBrace
  deriving DecidableEq

/-- The spellings of the keywords. -/
def keywords : List (String × Keyword) :=
  [("!", .bang), ("case", .case), ("do", .do), ("done", .done), ("elif", .elif), ("else", .else),
   ("esac", .esac), ("fi", .fi), ("for", .for), ("if", .if), ("in", .in), ("then", .then),
   ("until", .until), ("while", .while), ("\x7b", .leftBrace), ("\x7d", .rightBrace)]

/-- The keyword with the given spelling. -/
def keyword? (cs : Bytes) : Option Keyword :=
  (keywords.find? fun (spelling, _) => spelling.toList = cs).map (·.2)

/-- The spelling of a keyword. -/
def Keyword.spelling (k : Keyword) : String :=
  ((keywords.find? fun (_, known) => known = k).map (·.1)).getD ""

/-- The head of a redirection, before the word that follows it. -/
inductive Arrow
  | file (descriptor : Nat) (opening : Opening)
  | copy (descriptor : Nat)
  /-- The text below the line; `untabbed` tells that tabs in front of its lines do not count. -/
  | text (descriptor : Nat) (untabbed : Bool)

/-- What a script is cut into. -/
inductive Token
  | ending | newline | semicolon | ampersand | andAlso | orElse | pipe | opening | closing
  | branchEnd
  | arrow (a : Arrow)
  /-- A word, and whether some of it is quoted. -/
  | word (w : Word) (quoted : Bool)
  | keyword (k : Keyword)

/-- The kinds of words that mean something else in a place. -/
structure Allowed where
  /-- Line ends are passed over. -/
  newlines : Bool := false
  keywords : Bool := false
  aliases : Bool := false

/-- Where a command begins. -/
def Allowed.start : Allowed := ⟨true, true, true⟩

/-- What complaints call a token. -/
def Token.spelling : Token → String
  | ending => "end of file"
  | newline => "newline"
  | semicolon => "\";\""
  | ampersand => "\"&\""
  | andAlso => "\"&&\""
  | orElse => "\"||\""
  | pipe => "\"|\""
  | opening => "\"(\""
  | closing => "\")\""
  | branchEnd => "\";;\""
  | arrow _ => "redirection"
  | word .. => "word"
  | keyword k => "\"" ++ k.spelling ++ "\""

/-- Whether commands end before a token. -/
def Token.endsList : Token → Bool
  | ending | closing | branchEnd => true
  | keyword k => k ∈ [.do, .done, .elif, .else, .esac, .fi, .then, .rightBrace]
  | _ => false

/-- Why a script cannot be read on. -/
structure ReadingFault where
  line : Nat
  message : String

/-- A text that is still to come below the line. -/
structure Awaited where
  number : Nat
  untabbed : Bool
  /-- Whether places in the text stay as they are. -/
  verbatim : Bool
  mark : Bytes

/-- The state of a reader. -/
structure Source where
  rest : Bytes
  line : Nat := 1
  last : Token := .newline
  /-- Whether the last token is to be read again. -/
  putBack : Bool := false
  aliases : List (Bytes × Bytes) := []
  /-- The aliases whose texts are being read: how much is left behind the text, and whether the word
  after the text may be an alias. -/
  within : List (Bytes × Nat × Bool) := []
  /-- Whether the next word may be an alias in any place. -/
  aliasNext : Bool := false
  awaited : List Awaited := []
  /-- The texts that were read below lines, by their numbers. -/
  texts : List (Nat × Word) := []
  nextText : Nat := 0

/-- Reading a script. -/
abbrev Reading := EStateM ReadingFault Source

/-- Refuses to read on. -/
def refuse {α : Type} (message : String) : Reading α := do
  throw ⟨(← get).line, message⟩

/-- A state that is worked on, or what came of it. -/
inductive Turn (σ α : Type)
  | again (state : σ)
  | done (value : α)

/-- Repeats a step until it is done. -/
def repeatReading {σ α : Type} (step : σ → Reading (Turn σ α)) : (fuel : Nat) → σ → Reading α
  | 0, _ => refuse "too long"
  | fuel + 1, state => do
    match ← step state with
    | .again state => repeatReading step fuel state
    | .done value => return value

/-- Repeats a step on what is left of the script. -/
def readLoop {σ α : Type} (state : σ) (step : σ → Reading (Turn σ α)) : Reading α := do
  repeatReading step ((← get).rest.length + 2) state

/-! ## Characters -/

/-- Leaves the aliases whose texts have been read. -/
def leaveAliases : Reading Unit := modify fun s =>
  let left := s.within.filter fun (_, behind, _) => s.rest.length ≤ behind
  if left.isEmpty then s
  else { s with
    within := s.within.filter fun (_, behind, _) => behind < s.rest.length
    aliasNext := s.aliasNext || left.any fun (_, _, andNext) => andNext }

/-- The next character, with nothing left out. -/
def rawChar? : Reading (Option Char) := do
  let s ← get
  match s.rest with
  | [] => return none
  | c :: rest =>
    set { s with rest, line := if c = '\n' then s.line + 1 else s.line }
    return some c

/-- Passes over line ends that a backslash hides. -/
def skipHidden : Reading Unit :=
  readLoop () fun _ => do
    let s ← get
    match s.rest with
    | '\\' :: '\n' :: rest =>
      set { s with rest, line := s.line + 1 }
      return .again ()
    | _ => return .done ()

/-- The character that comes next, which stays unread. -/
def peek? : Reading (Option Char) := do
  skipHidden
  return (← get).rest.head?

/-- The next character. -/
def nextChar? : Reading (Option Char) := do
  skipHidden
  rawChar?

/-- The next character, in a place where the end of a line does not count as one. -/
def nextSign? : Reading (Option Char) := do
  let c ← nextChar?
  if c = some '\n' then modify fun s => { s with line := s.line - 1 }
  return c

/-- Passes over a character if it comes next. -/
def accept (c : Char) : Reading Bool := do
  if (← peek?) = some c then
    discard nextChar?
    return true
  else return false

/-- The characters that come next as long as they are of a kind. -/
def charsWhile (holds : Char → Bool) : Reading Bytes :=
  readLoop [] fun acc => do
    match ← peek? with
    | some c =>
      if holds c then
        discard nextChar?
        return .again (c :: acc)
      else return .done acc.reverse
    | none => return .done acc.reverse

end IdentityDocs.Script
