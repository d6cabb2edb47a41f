import IdentityDocs.Script.Child
import IdentityDocs.Script.Expression
import IdentityDocs.Script.Field
import IdentityDocs.Script.Options

/-!
# Filling in words

The places of a word are filled in from left to right: home directories, variables, what commands
write, and the values of expressions. What fills a place outside quotes may be split into fields.
-/

namespace IdentityDocs.Script

/-- Where a word stands. -/
structure Setting where
  /-- The word may become several fields. -/
  splits : Bool := false
  /-- A tilde at the beginning stands for a home directory. -/
  tilde : Bool := false
  /-- So does one behind a colon. -/
  tildes : Bool := false
  /-- The characters of the word itself may be separators. -/
  inner : Bool := false

/-- What separates fields. -/
def separators : Exec Bytes := valueOr "IFS" [' ', '\t', '\n']

/-! ## Home directories -/

/-- The home directories of users. -/
def homes : List (String × String) :=
  [("root", "/root"), ("daemon", "/usr/sbin"), ("bin", "/bin"), ("sys", "/dev"), ("sync", "/bin"),
   ("games", "/usr/games"), ("man", "/var/cache/man"), ("lp", "/var/spool/lpd"),
   ("mail", "/var/mail"), ("news", "/var/spool/news"), ("uucp", "/var/spool/uucp"),
   ("proxy", "/bin"), ("www-data", "/var/www"), ("backup", "/var/backups"), ("list", "/var/list"),
   ("irc", "/run/ircd"), ("nobody", "/nonexistent")]

/-- The home directory that a word begins with, and what follows it. -/
def homeAt? (setting : Setting) (w : Word) : Exec (Option (Bytes × Word)) := do
  match w with
  | .char '~' false :: rest =>
    let ends (c : Char) : Bool := c == '/' || (c == ':' && setting.tildes)
    let user := rest.takeWhile fun piece => match piece with
      | .char c false => !ends c
      | _ => false
    let after := rest.drop user.length
    let isWhole : Bool := match after with
      | [] => true
      | .char c false :: _ => ends c
      | _ => false
    match isWhole, plainText? user with
    | true, some [] => return (← value? "HOME".toList).map fun home => (home, after)
    | true, some name =>
      return (homes.find? fun (user, _) => user.toList = name).map fun (_, home) =>
        (ofText home, after)
    | _, _ => return none
  | _ => return none

/-! ## Variables -/

/-- What a name stands for. -/
def held? (setting : Setting) (quoted : Bool) (name : Bytes) : Exec (Option (List Item)) := do
  let s ← get
  let text (cs : Bytes) : Option (List Item) := some (cs.map (Item.char · quoted))
  let arguments : Exec (Option (List Item)) := do
    let parts := s.arguments.map fun arg => arg.map (Item.char · quoted)
    if setting.splits && (!quoted || name = ['@']) then
      return some (List.intercalate [.boundary] parts)
    else
      let between := match ← value? "IFS".toList with
        | none => [' ']
        | some ifs => ifs.take 1
      return some (List.intercalate (between.map (Item.char · quoted)) parts)
  match name with
  | ['@'] | ['*'] => arguments
  | ['#'] => return text (decimal s.arguments.length)
  | ['?'] => return text (decimal s.status)
  | ['$'] => return text (decimal s.main)
  | ['!'] => return s.lastAside.bind fun process => text (decimal process)
  | ['-'] => return text (shownSwitches s)
  | name => match number? name with
    | some 0 => return text s.name
    | some n => return s.arguments[n - 1]?.bind text
    | none => return (← value? name).bind text

/-- Whether a name stands for nothing, where an empty text counts as nothing if `orEmpty`. -/
def isMissing (orEmpty : Bool) : Option (List Item) → Bool
  | none => true
  | some items => orEmpty && items.isEmpty

/-- Marks what may be split: all that is not quoted and, of what is quoted, the places between all
arguments. -/
def region (quoted wholeArguments : Bool) (items : List Item) : List Item :=
  if !quoted then .start false :: items ++ [.stop]
  else if wholeArguments then .start true :: items ++ [.stop]
  else items

/-! ## Words -/

/-- The characters at the beginning of a word that are not quoted. -/
def plainRun (setting : Setting) (w : Word) : Word :=
  w.takeWhile fun piece => match piece with
    | .char c false => !(c == ':' && setting.tildes)
    | _ => false

/-- What commands write, without the line ends behind it. -/
def outputOf (self : Engine) (body : Tree) : Exec Bytes := do
  match body with
  | .nothing => return []
  | body =>
    let stream ← addStream (.gathered [])
    let (_, ending) ← inChild self do
      modify fun s => { s with
        handles := (1, ⟨stream, false, true⟩) :: s.handles.filter (·.1 != 1) }
      discard (self.run { last := true } body)
    let status ← await ending
    modify fun s => { s with outputStatus := status }
    let cs := (← get).machine.gathered stream
    return trimLineEnds (cs.filter (· ≠ '\x00'))

/-- Items of a text. -/
def itemsOf (quoted : Bool) (cs : Bytes) : List Item := cs.map (Item.char · quoted)

/-- Complains about a variable without a value. -/
def failMissing {α : Type} (name : Bytes) (orEmpty : Bool) (message : Option Bytes) : Exec α :=
  let why := message.getD (ofText ("parameter not set" ++ if orEmpty then " or null" else ""))
  fail (name ++ ofText ": " ++ why)

mutual

/-- Fills the places of a word in. -/
def fillWord (self : Engine) (setting : Setting) : (fuel : Nat) → Word → Exec (List Item)
  | 0, _ => throw .endless
  | fuel + 1, w => do
    match ← if setting.tilde then homeAt? setting w else pure none with
    | some (home, rest) => return itemsOf true home ++ (← fillRest self setting fuel rest [])
    | none => fillRest self setting fuel w []

/-- Fills the places of a word in from its middle on; what came before is kept in turned order. -/
def fillRest (self : Engine) (setting : Setting) :
    (fuel : Nat) → Word → (before : List Item) → Exec (List Item)
  | 0, _, _ => throw .endless
  | fuel + 1, w, before => match w with
    | [] => return before.reverse
    | .quote :: .variable ['@'] .plain true :: .quote :: rest => do
      let items ← fillVariable self setting fuel ['@'] .plain true
      fillRest self setting fuel rest (items.reverse ++ before)
    | .quote :: rest => fillRest self setting fuel rest (.mark :: before)
    | .char ':' false :: rest => do
      let before := (if setting.inner && setting.splits then
        [.stop, .char ':' false, .start false] else [.char ':' false]) ++ before
      match ← if setting.tildes then homeAt? setting rest else pure none with
      | some (home, rest) =>
        fillRest self setting fuel rest ((itemsOf true home).reverse ++ before)
      | none => fillRest self setting fuel rest before
    | .char c false :: rest =>
      let run := plainRun setting (.char c false :: rest)
      let items := itemsOf false ((plainText? run).getD [])
      let items := if setting.inner && setting.splits then region false false items else items
      fillRest self setting fuel ((Piece.char c false :: rest).drop run.length)
        (items.reverse ++ before)
    | .char c true :: rest => fillRest self setting fuel rest (.char c true :: before)
    | .variable name form quoted :: rest => do
      let items ← fillVariable self setting fuel name form quoted
      fillRest self setting fuel rest (items.reverse ++ before)
    | .output body quoted :: rest => do
      let items := region quoted false (itemsOf quoted (← outputOf self body))
      fillRest self setting fuel rest (items.reverse ++ before)
    | .sum expression quoted :: rest => do
      let n ← calculate (plainText (← fillWord self {} fuel expression))
      let items := region quoted false (itemsOf quoted (signed n))
      fillRest self setting fuel rest (items.reverse ++ before)

/-- Fills the place of a variable in. -/
def fillVariable (self : Engine) (setting : Setting) :
    (fuel : Nat) → (name : Bytes) → Form → (quoted : Bool) → Exec (List Item)
  | 0, _, _, _ => throw .endless
  | fuel + 1, name, form, quoted => do
    let held ← held? setting quoted name
    let whole := name = ['@'] && !(← get).arguments.isEmpty && setting.splits
    let shown (items : List Item) : List Item := region quoted whole items
    let substitute (w : Word) : Exec (List Item) :=
      fillWord self { setting with tilde := true, inner := !quoted } fuel w
    let needed : Exec (List Item) := do
      match held with
      | some items => return items
      | none => if ← isOn 'u' then failMissing name false none else return []
    match form with
    | .bad => fail (ofText "Bad substitution")
    | .plain => return shown (← needed)
    | .length =>
      discard needed
      let joined ← held? { setting with splits := false } quoted name
      let count := (plainText (joined.getD [])).length
      return region quoted false (itemsOf quoted (decimal count))
    | .orElse .replaced orEmpty w =>
      if isMissing orEmpty held then substitute w else return shown (held.getD [])
    | .orElse .inverted orEmpty w =>
      if isMissing orEmpty held then return shown [] else substitute w
    | .orElse .assigned orEmpty w =>
      if isMissing orEmpty held then
        let value := plainText (← fillWord self { tilde := true } fuel w)
        assign name value
        return shown (itemsOf quoted value)
      else return shown (held.getD [])
    | .orElse .refused orEmpty w =>
      if isMissing orEmpty held then
        let message ← if w.isEmpty then pure none
          else do pure (some (plainText (← fillWord self { tilde := true } fuel w)))
        failMissing name orEmpty message
      else return shown (held.getD [])
    | .trimmed atEnd longest pattern =>
      let value := plainText (← needed)
      if held.isNone then return shown []
      else
        let marked := markedText (← fillWord self { tilde := true } fuel pattern)
        let trim := if atEnd then trimEnd else trimStart
        return region quoted false (itemsOf quoted (trim longest (patternOf marked) value))

end

/-- How much fuel the filling of a word takes. -/
def wordFuel : Nat := 1000000

/-- The text that a word stands for. -/
def textOf (self : Engine) (setting : Setting) (w : Word) : Exec Bytes := do
  return plainText (← fillWord self setting wordFuel w)

/-- The pattern that a word stands for. -/
def patternIn (self : Engine) (w : Word) : Exec (List PatternPart) := do
  return patternOf (markedText (← fillWord self { tilde := true } wordFuel w))

end IdentityDocs.Script
