import IdentityDocs.Script.Word

/-!
# Reading commands

A script is read one complete command at a time, together with the texts below its lines, so that a
command can change how the next one is read. What cannot be read is complained about with the token
that stands in the way and, where only one would do, the token that is wanted.
-/

namespace IdentityDocs.Script

/-! ## Tokens -/

/-- Reads the texts below the line that are still to come. -/
def readAwaited (self : Reader) : Reading Unit := do
  let awaited := (← get).awaited
  modify fun s => { s with awaited := [] }
  for a in awaited do
    let mark : Mark := ⟨a.mark, a.untabbed⟩
    let w ← if a.verbatim then readVerbatim mark else readQuoted self (.text mark)
    modify fun s => { s with texts := (a.number, w) :: s.texts }

/-- The number of a descriptor in front of an arrow. -/
def arrowDescriptor? (w : Word) (quoted : Bool) : Option (Option Nat) :=
  if quoted then none
  else match w with
    | [] => some none
    | [.char c false] => if c.isDigit then some (some (digitValue c)) else none
    | _ => none

/-- Reads an arrow, the first character of which comes next. -/
def readArrow (descriptor : Option Nat) : Reading Token := do
  if ← accept '>' then
    let d := descriptor.getD 1
    if ← accept '>' then return .arrow (.file d .appending)
    else if ← accept '|' then return .arrow (.file d .overwriting)
    else if ← accept '&' then return .arrow (.copy d)
    else return .arrow (.file d .writing)
  else
    discard nextChar?
    let d := descriptor.getD 0
    if ← accept '<' then return .arrow (.text d (← accept '-'))
    else if ← accept '&' then return .arrow (.copy d)
    else if ← accept '>' then return .arrow (.file d .both)
    else return .arrow (.file d .reading)

/-- Passes over blanks and comments. -/
def skipBlanks : Reading Unit :=
  readLoop () fun _ => do
    match ← peek? with
    | some ' ' | some '\t' =>
      discard nextChar?
      leaveAliases
      return .again ()
    | some '#' =>
      modify fun s => { s with rest := s.rest.dropWhile (· ≠ '\n') }
      return .again ()
    | _ => return .done ()

/-- Reads a token as it stands. In front of the mark of a text below, dollar signs mean
themselves. -/
def readPlainToken (self : Reader) (isMark : Bool) : Reading Token := do
  let s ← get
  if s.putBack then
    set { s with putBack := false }
    return s.last
  leaveAliases
  skipBlanks
  leaveAliases
  let one (t : Token) : Reading Token := do
    discard nextChar?
    return t
  let two (c : Char) (twice once : Token) : Reading Token := do
    discard nextChar?
    if ← accept c then return twice else return once
  let t ← match ← peek? with
    | none => pure .ending
    | some '\n' => one .newline
    | some '&' => two '&' .andAlso .ampersand
    | some '|' => two '|' .orElse .pipe
    | some ';' => two ';' .branchEnd .semicolon
    | some '(' => one .opening
    | some ')' => one .closing
    | some _ =>
      let (w, quoted) ← readWord self (if isMark then .mark else .command)
      let arrow := (arrowDescriptor? w quoted).filter fun _ => true
      match ← peek?, arrow with
      | some '<', some descriptor => readArrow descriptor
      | some '>', some descriptor => readArrow descriptor
      | _, _ => pure (.word w quoted)
  modify fun s => { s with last := t }
  return t

/-- Puts the last token back. -/
def putBack : Reading Unit := modify fun s => { s with putBack := true }

/-- The text of an alias that is not being read already. -/
def aliasText? (s : Source) (name : Bytes) : Option Bytes :=
  if s.within.any fun (known, _) => known = name then none else s.aliases.lookup name

/-- Reads a token in a place where words can mean something else. -/
def readToken (self : Reader) (allowed : Allowed) (isMark : Bool := false) : Reading Token :=
  readLoop allowed fun allowed => do
    let t ← readPlainToken self isMark
    match t with
    | .newline =>
      if allowed.newlines then
        readAwaited self
        return .again allowed
      else return .done t
    | .word w false =>
      let aliases := allowed.aliases || (← get).aliasNext
      modify fun s => { s with aliasNext := false }
      match plainText? w with
      | none => return .done t
      | some name =>
        match (if allowed.keywords then keyword? name else none) with
        | some k =>
          modify fun s => { s with last := .keyword k }
          return .done (.keyword k)
        | none =>
          let s ← get
          match (if aliases then aliasText? s name else none) with
          | some text =>
            set { s with
              rest := text ++ s.rest
              within := (name, s.rest.length,
                text.getLast?.any fun c => c == ' ' || c == '\t') :: s.within }
            return .again allowed
          | none => return .done t
    | t =>
      modify fun s => { s with aliasNext := false }
      return .done t

/-- Reads the keyword that has to come next. -/
def expectKeyword (self : Reader) (allowed : Allowed) (k : Keyword) : Reading Unit := do
  match ← readToken self allowed with
  | .keyword found => if found = k then return () else unexpected (some (Token.keyword k).spelling)
  | _ => unexpected (some (Token.keyword k).spelling)

/-! ## Redirections -/

/-- The words of a text without its quotes. -/
def unquoted (w : Word) : Bytes :=
  w.filterMap fun piece => match piece with
    | .char c _ => some c
    | _ => none

/-- What leads to the descriptor with the given name. -/
def copyOf (descriptor : Nat) (name : Word) : Redirect :=
  match plainText? name with
  | some ['-'] => .copy descriptor none
  | some [c] => if c.isDigit then .copy descriptor (some (digitValue c)) else .copyNamed descriptor name
  | _ => .copyNamed descriptor name

/-- Reads the word behind an arrow. -/
def readTarget (self : Reader) (a : Arrow) : Reading Redirect := do
  let isMark : Bool := match a with
    | .text .. => true
    | _ => false
  match ← readToken self {} isMark with
  | .word w quoted => match a with
    | .file descriptor opening => return .file descriptor opening w
    | .copy descriptor => return copyOf descriptor w
    | .text descriptor untabbed =>
      let s ← get
      let awaited : Awaited :=
        { number := s.nextText, untabbed, verbatim := quoted, mark := unquoted w }
      set { s with nextText := s.nextText + 1, awaited := s.awaited ++ [awaited] }
      return .text descriptor s.nextText
  | _ => unexpected none

/-- Reads the redirections behind commands. -/
def readRedirects (self : Reader) : Reading (List Redirect) :=
  readLoop [] fun acc => do
    match ← readToken self { keywords := true, aliases := true } with
    | .arrow a => return .again ((← readTarget self a) :: acc)
    | _ =>
      putBack
      return .done acc.reverse

/-! ## Commands -/

/-- The names of the commands that no function can replace. -/
def reservedNames : List String :=
  [".", ":", "break", "continue", "eval", "exec", "exit", "export", "local", "readonly", "return",
   "set", "shift", "times", "trap", "unset"]

/-- Reads the definition of a function, whose name and opening parenthesis were read. -/
def readFunction (self : Reader) (name : Word) (quoted : Bool) : Reading Tree := do
  match ← readToken self {} with
  | .closing => pure ()
  | _ => unexpected (some Token.closing.spelling)
  let some text := (if quoted then none else plainText? name) | refuse "Bad function name"
  if !isName text || reservedNames.any (·.toList = text) then refuse "Bad function name"
  return .define text (← self.command .start)

/-- A command of words that has been read so far; what came last is first. -/
structure Simple where
  settings : List (Bytes × Word) := []
  words : List (Word × Bool) := []
  redirects : List Redirect := []

/-- Reads a command of words. -/
def readSimple (self : Reader) (line : Nat) : Reading Tree :=
  readLoop ({} : Simple) fun c => do
    let finish : Reading (Turn Simple Tree) := do
      putBack
      return .done (.simple line c.settings.reverse (c.words.reverse.map (·.1)) c.redirects.reverse)
    match ← readToken self { aliases := c.words.isEmpty } with
    | .word w quoted =>
      match (if c.words.isEmpty then assignment? w else none) with
      | some setting => return .again { c with settings := setting :: c.settings }
      | none => return .again { c with words := (w, quoted) :: c.words }
    | .arrow a => return .again { c with redirects := (← readTarget self a) :: c.redirects }
    | .opening => match c with
      | { settings := [], words := [(name, quoted)], redirects := [] } =>
        return .done (← readFunction self name quoted)
      | _ => finish
    | _ => finish

/-- Reads the branches of a choice behind its condition. -/
def readChoice (self : Reader) : Reading Tree := do
  let first ← readBranch
  let branches ← readLoop [first] fun acc => do
    match ← readToken self {} with
    | .keyword .elif => return .again ((← readBranch) :: acc)
    | _ =>
      putBack
      return .done acc
  let no ← match (← readToken self {}) with
    | .keyword .else => self.list false false
    | _ =>
      putBack
      pure .nothing
  return branches.foldl (fun no (condition, yes) => .choice condition yes no) no
where
  /-- Reads a condition and what is done if it holds. -/
  readBranch : Reading (Tree × Tree) := do
    let condition ← self.list false false
    expectKeyword self {} .then
    return (condition, ← self.list false false)

/-- Reads the words of a repetition, and the token that ends them. -/
def readItems (self : Reader) : Reading (List Word) := do
  let words ← readLoop [] fun acc => do
    match ← readToken self {} with
    | .word w _ => return .again (w :: acc)
    | .newline | .semicolon => return .done acc.reverse
    | _ => unexpected none
  return words

/-- The words of a repetition that names none: all arguments. -/
def allArguments : List Word := [[.quote, .variable ['@'] .plain true, .quote]]

/-- Reads a repetition over words. -/
def readForEach (self : Reader) (line : Nat) : Reading Tree := do
  let .word w false ← readToken self {} | refuse "Bad for loop variable"
  let some name := (plainText? w).filter isName | refuse "Bad for loop variable"
  let words ← match ← readToken self .start with
    | .keyword .in => readItems self
    | .semicolon => pure allArguments
    | _ =>
      putBack
      pure allArguments
  expectKeyword self .start .do
  return .forEach line name words (← self.list false false)

/-- The characters of a text as a word. -/
def wordOf (text : String) : Word := text.toList.map fun c => .char c false

/-- Reads the patterns of a branch, the first token of which was read, up to the parenthesis. What
is no word repeats the word before it. -/
def readPatterns (self : Reader) (first : Token) : Reading (List Word) :=
  readLoop (first, []) fun (t, acc) => do
    let w : Word := match t with
      | .word w _ => w
      | .keyword k => wordOf k.spelling
      | _ => acc.headD (wordOf Keyword.in.spelling)
    match ← readToken self {} with
    | .pipe => return .again (← readToken self {}, w :: acc)
    | .closing => return .done (w :: acc).reverse
    | _ => unexpected (some Token.closing.spelling)

/-- Reads a choice by patterns. -/
def readSelect (self : Reader) (line : Nat) : Reading Tree := do
  let .word subject _ ← readToken self {} | unexpected (some (Token.word [] false).spelling)
  expectKeyword self .start .in
  let between : Allowed := { newlines := true, keywords := true }
  let branches ← readLoop [] fun acc => do
    match ← readToken self between with
    | .keyword .esac => return .done acc.reverse
    | t =>
      let first ← match t with
        | .opening => readToken self {}
        | t => pure t
      let patterns ← readPatterns self first
      let body ← self.list true false
      let acc := (patterns, body) :: acc
      match ← readToken self between with
      | .keyword .esac => return .done acc.reverse
      | .branchEnd => return .again acc
      | _ => unexpected (some Token.branchEnd.spelling)
  return .select line subject branches

/-- Reads a single command. -/
def readCommand (self : Reader) (allowed : Allowed) : Reading Tree := do
  let line := (← get).line
  let closed (t : Tree) (k : Keyword) : Reading Tree := do
    expectKeyword self {} k
    return t
  let body ← match ← readToken self allowed with
    | .keyword .if => closed (← readChoice self) .fi
    | .keyword .while => readRepetition true
    | .keyword .until => readRepetition false
    | .keyword .for => closed (← readForEach self line) .done
    | .keyword .case => readSelect self line
    | .keyword .leftBrace => closed (← self.list false false) .rightBrace
    | .opening => do
      let body ← self.list false false
      match ← readToken self {} with
      | .closing => pure (.inner line body [])
      | _ => unexpected (some Token.closing.spelling)
    | .word .. | .arrow _ => do
      putBack
      return ← readSimple self (← get).line
    | _ => unexpected none
  match ← readRedirects self with
  | [] => return body
  | redirects => match body with
    | .inner line body _ => return .inner line body redirects
    | body => return .redirected line body redirects
where
  /-- Reads a repetition with a condition. -/
  readRepetition (succeeds : Bool) : Reading Tree := do
    let condition ← self.list false false
    expectKeyword self {} .do
    let body ← self.list false false
    expectKeyword self {} .done
    return .loop succeeds condition body

/-- Reads commands that read what others write. -/
def readPipeline (self : Reader) : Reading Tree := do
  let negated ← match ← readToken self {} with
    | .keyword .bang => pure true
    | _ =>
      putBack
      pure false
  let first ← self.command (if negated then { keywords := true, aliases := true } else {})
  let commands ← readLoop [first] fun acc => do
    match ← readToken self {} with
    | .pipe => return .again ((← self.command .start) :: acc)
    | _ =>
      putBack
      return .done acc
  let body : Tree := match commands with
    | [command] => command
    | commands => .pipeline commands.reverse
  return if negated then .negated body else body

/-- Reads commands that run if others succeed or fail. -/
def readAndOr (self : Reader) : Reading Tree := do
  let first ← readPipeline self
  readLoop first fun first => do
    let second : Reading Tree := do
      let _ ← readToken self .start
      putBack
      readPipeline self
    match ← readToken self {} with
    | .andAlso => return .again (.andAlso first (← second))
    | .orElse => return .again (.orElse first (← second))
    | _ =>
      putBack
      return .done first

/-- Commands one after the other; what came last is first. -/
def inOrder : List Tree → Tree
  | [] => .nothing
  | [t] => t
  | ts => .sequence ts.reverse

/-- Reads commands one after the other. -/
def readList (self : Reader) (mayBeEmpty oneLine : Bool) : Reading Tree :=
  readLoop ([], mayBeEmpty) fun (acc, mayEnd) => do
    let allowed : Allowed := { newlines := !oneLine, keywords := true, aliases := true }
    match ← readToken self allowed with
    | .newline =>
      readAwaited self
      return .done (inOrder acc)
    | .ending =>
      readAwaited self
      putBack
      return .done (inOrder acc)
    | t =>
      putBack
      if mayEnd && !oneLine && t.endsList then return .done (inOrder acc)
      let body ← readAndOr self
      match ← readToken self {} with
      | .ampersand => return .again (.aside body :: acc, true)
      | .semicolon => return .again (body :: acc, true)
      | .newline =>
        putBack
        return .again (body :: acc, true)
      | .ending =>
        readAwaited self
        putBack
        return .done (inOrder (body :: acc))
      | _ =>
        if oneLine then unexpected none
        putBack
        return .done (inOrder (body :: acc))

/-! ## Scripts -/

/-- Readers for so many levels of words and commands inside each other. -/
def reader : (depth : Nat) → Reader
  | 0 =>
    { list := fun _ _ => refuse "too deep"
      command := fun _ => refuse "too deep"
      token := refuse "too deep"
      operand := fun _ _ => refuse "too deep"
      sum := fun _ => refuse "too deep" }
  | depth + 1 =>
    { list := fun mayBeEmpty oneLine => readList (reader depth) mayBeEmpty oneLine
      command := fun allowed => readCommand (reader depth) allowed
      token := fun s => readToken (reader depth) {} false s
      operand := fun quoted below =>
        if quoted then readQuoted (reader depth) (.operand false below)
        else do
          let (w, _) ← readWord (reader depth) (.braces below)
          return w
      sum := fun below => readQuoted (reader depth) (.sum 0 below) }

/-- How deep commands may lie inside each other. -/
def maxDepth : Nat := 1000

/-- The word of a text whose places are to be filled in, and which is quoted as a whole. -/
def textWord? (cs : Bytes) : Option Word :=
  match (readQuoted (reader maxDepth) (.text ⟨['\x00'], false⟩)).run { rest := cs } with
  | .ok w _ => some w
  | .error _ _ => none

/-- Reads the next complete command; `none` at the end of the script. -/
def readComplete : Reading (Option Tree) := do
  modify fun s => { s with putBack := false, awaited := [], aliasNext := false }
  let tree ← readList (reader maxDepth) false true
  match tree, (← get).last, (← get).putBack with
  | .nothing, .ending, true => return none
  | tree, _, _ => return some tree

end IdentityDocs.Script
