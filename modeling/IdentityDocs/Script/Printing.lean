import IdentityDocs.Script.Layout
import IdentityDocs.Script.Variable

/-!
# Writing arguments

`echo` writes its arguments on a line, and `printf` writes them into a format, which is used again
until no arguments are left. Both know escapes: a backslash with a letter or with octal digits.
-/

namespace IdentityDocs.Script

/-! ## Escapes -/

/-- The letters of escapes and what they stand for. -/
def letterEscapes : List (Char × Char) :=
  [('\\', '\\'), ('a', '\x07'), ('b', '\x08'), ('e', '\x1b'), ('f', '\x0c'), ('n', '\n'),
   ('r', '\r'), ('t', '\t'), ('v', '\x0b')]

/-- The byte that octal digits denote. -/
def octalByte (digits : Bytes) : Char := Char.ofNat (valueOf 8 digits % 256)

/-- What an escape stands for whose backslash was read, and what follows it. -/
def readEscape (cs : Bytes) : Char × Bytes :=
  match cs with
  | [] => ('\\', [])
  | c :: rest =>
    if isOctal c then
      let digits := (cs.take 3).takeWhile isOctal
      (octalByte digits, cs.drop digits.length)
    else match letterEscapes.lookup c with
      | some d => (d, rest)
      | none => ('\\', cs)

/-- A text with its escapes replaced, and whether output goes on after it: `\c` ends it. A zero may
stand in front of octal digits. -/
def unescape (cs : Bytes) : Bytes × Bool := go (cs.length + 1) [] cs
where
  /-- Replaces the escapes of the rest. -/
  go : (fuel : Nat) → (before : Bytes) → Bytes → Bytes × Bool
    | 0, before, _ => (before.reverse, true)
    | fuel + 1, before, cs => match cs with
      | [] => (before.reverse, true)
      | '\\' :: 'c' :: _ => (before.reverse, false)
      | '\\' :: rest =>
        let rest := match rest with
          | '0' :: d :: more => if isOctal d then d :: more else rest
          | rest => rest
        let (c, rest) := readEscape rest
        go fuel (c :: before) rest
      | c :: rest => go fuel (c :: before) rest

/-! ## Lines -/

/-- Arguments with their escapes replaced, and blanks between them; `\c` ends all. -/
def echoed : List Bytes → Bytes × Bool
  | [] => ([], true)
  | [arg] => unescape arg
  | arg :: args =>
    match unescape arg with
    | (cs, false) => (cs, false)
    | (cs, true) =>
      let (rest, more) := echoed args
      (cs ++ ' ' :: rest, more)

/-- Writes the arguments on a line; `-n` at the front switches the line end off. -/
def echo (args : List Bytes) : Exec Nat := do
  let (args, newline) : List Bytes × Bool := match args with
    | ['-', 'n'] :: args => (args, false)
    | args => (args, true)
  let (cs, more) := echoed args
  say (if newline && more then cs ++ ['\n'] else cs)
  return 0

/-! ## Formats -/

/-- What is left to do of a format. -/
structure Printing where
  args : List Bytes
  status : Nat := 0

/-- Reads the flags of a layout. -/
def readFlags (cs : Bytes) : Layout × Bytes :=
  let flags := cs.takeWhile fun c => c == '#' || c == '-' || c == '+' || c == ' ' || c == '0'
  ({ left := flags.contains '-', zeros := flags.contains '0', plus := flags.contains '+'
     blank := flags.contains ' ', alternate := flags.contains '#' }, cs.drop flags.length)

/-- What the first argument is as a number, with a complaint if that is not all there is to it. -/
def Printing.convert {α : Type} (p : Printing) (zero : α) (ofChar : Char → α)
    (scan : Bytes → Option (α × Bytes × Bool)) : Exec (α × Printing) := do
  match p.args with
  | [] => return (zero, p)
  | arg :: args =>
    let p := { p with args }
    let doubt (n : α) (why : String) : Exec (α × Printing) := do
      warn (arg ++ ofText (": " ++ why))
      return (n, { p with status := 1 })
    match arg with
    | [] => return (zero, p)
    | c :: rest =>
      if c = '\'' ∨ c = '"' then return (ofChar (rest.headD '\x00'), p)
      else match scan arg with
        | none => doubt zero "expected numeric value"
        | some (n, [], tooLarge) =>
          if tooLarge then doubt n "Numerical result out of range" else return (n, p)
        | some (n, _ :: _, _) => doubt n "not completely converted"

/-- The first argument as a whole number with a sign. -/
def Printing.integer (p : Printing) : Exec (Int × Printing) :=
  p.convert 0 (fun c => (c.toNat : Int)) fun arg =>
    (scanInteger none arg).map fun (n, rest) => (saturated n, rest, saturated n != n)

/-- The first argument as a whole number without a sign. -/
def Printing.natural (p : Printing) : Exec (Nat × Printing) :=
  p.convert 0 Char.toNat fun arg =>
    (scanInteger none arg).map fun (n, rest) =>
      let most := 18446744073709551615
      if most < n.natAbs then (most, rest, true)
      else ((n % 18446744073709551616).toNat, rest, false)

/-- The first argument as a double. -/
def Printing.double (p : Printing) : Exec (Float × Printing) :=
  p.convert 0.0 (fun c => Float.ofNat c.toNat) fun arg =>
    (scanDouble arg).map fun (x, rest) =>
      (x, rest, x.isInf && arg.any Char.isDigit)

/-- The first argument as a text. -/
def Printing.text (p : Printing) : Bytes × Printing := (p.args.headD [], { p with args := p.args.tail })

/-- Reads a width or a precision, which an argument can give. -/
def Printing.readSize (p : Printing) (cs : Bytes) : Exec (Int × Bytes × Printing) := do
  match cs with
  | '*' :: rest =>
    let (n, p) ← p.integer
    return (n, rest, p)
  | cs =>
    let digits := cs.takeWhile fun c => c.isDigit || c == '*'
    return ((valueOf 10 (digits.filter Char.isDigit) : Nat), cs.drop digits.length, p)

/-- Writes what a letter of a format asks for; also tells whether output goes on after it. -/
def Printing.show (p : Printing) (layout : Layout) (letter : Char) (spelling : Bytes) :
    Exec (Printing × Bool) := do
  match letter with
  | 's' =>
    let (cs, p) := p.text
    say (layout.text cs)
    return (p, true)
  | 'b' =>
    let (cs, p) := p.text
    let (cs, more) := unescape cs
    say (layout.text cs)
    return (p, more)
  | 'c' =>
    let (cs, p) := p.text
    say ({ layout with precision := none }.text [cs.headD '\x00'])
    return (p, true)
  | 'd' | 'i' =>
    let (n, p) ← p.integer
    say (layout.integer n)
    return (p, true)
  | 'u' | 'o' | 'x' | 'X' =>
    let (n, p) ← p.natural
    let base := if letter = 'u' then 10 else if letter = 'o' then 8 else 16
    say (layout.unsigned base (letter = 'X') n)
    return (p, true)
  | 'a' | 'A' | 'e' | 'E' | 'f' | 'F' | 'g' | 'G' =>
    let (x, p) ← p.double
    say (layout.double letter x)
    return (p, true)
  | _ => fail (spelling ++ ofText ": invalid directive")

/-- Uses a format once; also tells whether output goes on after it. -/
def Printing.once : (fuel : Nat) → Printing → Bytes → Exec (Printing × Bool)
  | 0, p, _ => return (p, false)
  | fuel + 1, p, cs => do
    match cs with
    | [] => return (p, true)
    | '\\' :: rest =>
      let (c, rest) := readEscape rest
      say [c]
      once fuel p rest
    | '%' :: '%' :: rest =>
      say ['%']
      once fuel p rest
    | '%' :: rest =>
      let (layout, after) := readFlags rest
      let (width, after, p) ← p.readSize after
      let layout := { layout with width := width.natAbs, left := layout.left || decide (width < 0) }
      let (layout, after, p) ← match after with
        | '.' :: after => do
          let (precision, after, p) ← p.readSize after
          let precision := if precision < 0 then none else some precision.toNat
          pure ({ layout with precision }, after, p)
        | after => pure (layout, after, p)
      match after with
      | [] => fail (ofText "missing format character")
      | letter :: after =>
        let spelling := '%' :: rest.take (rest.length - after.length)
        match ← p.show layout letter spelling with
        | (p, true) => once fuel p after
        | (p, false) => return (p, false)
    | cs =>
      let plain := cs.takeWhile fun c => c != '%' && c != '\\'
      say plain
      once fuel p (cs.drop plain.length)

/-- Writes the arguments into a format. -/
def print (args : List Bytes) : Exec Nat := do
  let args ← match args with
    | ['-', '-'] :: args => pure args
    | ('-' :: c :: _) :: _ => fail (ofText "Illegal option -" ++ [c])
    | args => pure args
  match args with
  | [] => fail (ofText "usage: printf format [arg ...]")
  | format :: args =>
    repeatExec (fun (p : Printing) => do
      let (after, more) ← p.once (format.length + 1) format
      if more && !after.args.isEmpty && after.args.length < p.args.length then return .again after
      else return .done after.status) maxTurns { args }

end IdentityDocs.Script
