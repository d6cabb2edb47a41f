/-!
# Words of a command line

What a word of a command line looks like, before anybody asks what it means there. Two hyphens
alone end the options; a single hyphen is a word like any other.
-/

namespace IdentityDocs.CommandLine

/-- The look of a word. -/
inductive Word
  | plain (text : String)
  /-- Two hyphens: all that follows is plain. -/
  | endOfOptions
  /-- A name after two hyphens; the value that may follow an equals sign. -/
  | long (name : String) (value : Option String)
  /-- A letter after one hyphen; the value that may follow it at once. -/
  | short (letter : Char) (value : Option String)
  deriving DecidableEq, Repr

namespace Word

/-- A name, and the value after the first equals sign. -/
def named (cs : List Char) : Word :=
  let name := String.ofList (cs.takeWhile (· ≠ '='))
  match cs.dropWhile (· ≠ '=') with
  | [] => .long name none
  | _ :: value => .long name (some (String.ofList value))

/-- A letter, and the value that is attached to it, with an equals sign or without. -/
def lettered (letter : Char) : List Char → Word
  | [] => .short letter none
  | '=' :: value => .short letter (some (String.ofList value))
  | value => .short letter (some (String.ofList value))

/-- The look of a text. -/
def ofText (text : String) : Word :=
  match text.toList with
  | ['-', '-'] => .endOfOptions
  | '-' :: '-' :: name => named name
  | '-' :: letter :: value => lettered letter value
  | _ => .plain text

end Word

end IdentityDocs.CommandLine
