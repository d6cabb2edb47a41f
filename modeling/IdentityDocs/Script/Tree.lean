import IdentityDocs.Script.Bytes

/-!
# The structure of a script

A script is made of commands, and commands are made of words. A word is put together from
characters and from places that are filled in when the script runs; such a place can hold words and
commands again.
-/

namespace IdentityDocs.Script

/-- What happens where a variable has no value. -/
inductive Missing
  /-- The word takes its place. -/
  | replaced
  /-- The word becomes the value. -/
  | assigned
  /-- The script complains, in the words given. -/
  | refused
  /-- The word takes the place of a value that is there. -/
  | inverted
  deriving DecidableEq

/-- What a redirection opens a file for. -/
inductive Opening
  | reading
  | writing
  /-- Writing, even where files that are there are protected. -/
  | overwriting
  | appending
  | both
  deriving DecidableEq

mutual

/-- A piece of a word. What is quoted is not split and holds no patterns. -/
inductive Piece
  | char (c : Char) (quoted : Bool)
  /-- A quotation mark stood here. -/
  | quote
  /-- The value of a variable. -/
  | variable (name : Bytes) (form : Form) (quoted : Bool)
  /-- What commands write. -/
  | output (body : Tree) (quoted : Bool)
  /-- The value of an expression. -/
  | sum (expression : List Piece) (quoted : Bool)

/-- How the value of a variable is used. -/
inductive Form
  | plain
  | length
  /-- What happens if there is none; an empty one counts as none if `orEmpty`. -/
  | orElse (missing : Missing) (orEmpty : Bool) (word : List Piece)
  /-- Without what a pattern matches at the beginning or at the end. -/
  | trimmed (atEnd longest : Bool) (pattern : List Piece)
  /-- The form is not understood. -/
  | bad

/-- Where a descriptor leads. -/
inductive Redirect
  | file (descriptor : Nat) (opening : Opening) (name : List Piece)
  /-- Where another one leads, or nowhere. -/
  | copy (descriptor : Nat) (source : Option Nat)
  /-- Where the descriptor of the given name leads. -/
  | copyNamed (descriptor : Nat) (name : List Piece)
  /-- To the text below the line, by its number. -/
  | text (descriptor number : Nat)

/-- Commands. A line is the one on which the command begins. -/
inductive Tree
  | nothing
  | simple (line : Nat) (settings : List (Bytes × List Piece)) (words : List (List Piece))
      (redirects : List Redirect)
  | sequence (commands : List Tree)
  | andAlso (first second : Tree)
  | orElse (first second : Tree)
  | negated (body : Tree)
  /-- Each command reads what the one before it writes. -/
  | pipeline (commands : List Tree)
  /-- Commands whose variables are their own. -/
  | inner (line : Nat) (body : Tree) (redirects : List Redirect)
  /-- Commands that nobody waits for. -/
  | aside (body : Tree)
  | redirected (line : Nat) (body : Tree) (redirects : List Redirect)
  | choice (condition yes no : Tree)
  /-- Repeats as long as the condition succeeds, or as long as it fails. -/
  | loop (succeeds : Bool) (condition body : Tree)
  | forEach (line : Nat) (name : Bytes) (words : List (List Piece)) (body : Tree)
  /-- Chooses the first branch with a pattern that the subject matches. -/
  | select (line : Nat) (subject : List Piece) (branches : List (List (List Piece) × Tree))
  /-- Calls the commands by a name from then on. -/
  | define (name : Bytes) (body : Tree)

end

/-- A word. -/
abbrev Word := List Piece

instance : Inhabited Tree := ⟨.nothing⟩

/-- The text of a word without places and quotes. -/
def plainText? (w : Word) : Option Bytes :=
  w.mapM fun piece => match piece with
    | .char c false => some c
    | _ => none

/-- The name and the value of an assignment. -/
def assignment? (w : Word) : Option (Bytes × Word) :=
  let name := w.takeWhile fun piece => match piece with
    | .char c false => isNameChar c
    | _ => false
  match plainText? name, w.drop name.length with
  | some name, .char '=' false :: value => if isName name then some (name, value) else none
  | _, _ => none

end IdentityDocs.Script
