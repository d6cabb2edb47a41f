import IdentityDocs.Text.Blank
import IdentityDocs.Time.Instant

/-!
# Reading instants

Two grammars. `Instant.ofStamp?` reads what is stored: a full date and time in fields of fixed
width. `Instant.ofLooseStamp?` reads what other programs wrote into JSON: fields may be shorter, a
year may have a sign and more digits, blanks may stand between the fields, and universal time may
be called `UTC`. Both require an offset, and both drop digits of the fraction beyond the ninth.
-/

namespace IdentityDocs.Time

/-- The number that decimal digits denote. -/
def digitsValue (ds : List Char) : Nat := ds.foldl (fun n d => n * 10 + (d.toNat - 48)) 0

/-- Reads exactly `width` digits. -/
def readFixed (width : Nat) (cs : List Char) : Option (Nat × List Char) :=
  let ds := cs.take width
  if ds.length = width ∧ ds.all Char.isDigit then some (digitsValue ds, cs.drop width) else none

/-- Reads one digit or more, at most `width`. -/
def readUpTo (width : Nat) (cs : List Char) : Option (Nat × List Char) :=
  let ds := (cs.take width).takeWhile Char.isDigit
  if ds = [] then none else some (digitsValue ds, cs.drop ds.length)

/-- Reads one digit or more. -/
def readNumber (cs : List Char) : Option (Nat × List Char) :=
  let ds := cs.takeWhile Char.isDigit
  if ds = [] then none else some (digitsValue ds, cs.dropWhile Char.isDigit)

/-- Reads a given character. -/
def readChar (c : Char) : List Char → Option (List Char)
  | d :: cs => if d = c then some cs else none
  | [] => none

/-- Reads what stands between date and time. -/
def readSeparator : List Char → Option (List Char)
  | c :: cs => if c = 'T' ∨ c = 't' ∨ c = ' ' then some cs else none
  | [] => none

/-- Reads the fraction of a second, if there is one, in nanoseconds. -/
def readFraction : List Char → Option (Nat × List Char)
  | '.' :: cs =>
    let ds := cs.takeWhile Char.isDigit
    if ds = [] then none
    else
      let kept := ds.take 9
      some (digitsValue kept * Nat.pow 10 (9 - kept.length), cs.dropWhile Char.isDigit)
  | cs => some (0, cs)

/-- Reads the sign of an offset; a true minus sign may stand for the hyphen. -/
def readSign : List Char → Option (Bool × List Char)
  | '+' :: cs => some (false, cs)
  | '-' :: cs => some (true, cs)
  | '\u2212' :: cs => some (true, cs)
  | _ => none

/-- Reads an offset in seconds. `between` passes over what separates hours from minutes. -/
def readOffset (between : List Char → Option (List Char)) : List Char → Option (Int × List Char)
  | [] => none
  | c :: cs =>
    if c = 'Z' ∨ c = 'z' then some (0, cs)
    else do
      let (negative, cs) ← readSign (c :: cs)
      let (hours, cs) ← readFixed 2 cs
      let cs ← between cs
      let (minutes, cs) ← readFixed 2 cs
      if 59 < minutes then none
      else
        let size : Int := hours * 3600 + minutes * 60
        return (if negative then -size else size, cs)

/-- A date and time as it was read, before it is known to exist. -/
structure Reading where
  date : Date
  hour : Nat
  minute : Nat
  second : Nat
  fraction : Nat
  /-- Seconds by which the clock that was read is ahead of universal time. -/
  offset : Int

/-- The years that instants may lie in. -/
def isKnownYear (year : Int) : Bool := -262143 ≤ year && year ≤ 262142

/-- The instant of a reading, if there is one. Second 60 is a leap second. -/
def Reading.instant? (r : Reading) : Option Instant :=
  if r.date.exists? ∧ isKnownYear r.date.year ∧ r.hour ≤ 23 ∧ r.minute ≤ 59 ∧ r.second ≤ 60 then
    let leap := r.second = 60
    let second := if leap then 59 else r.second
    let seconds := (r.date.toDay - epochDay) * 86400 + (r.hour * 3600 + r.minute * 60 + second : Nat)
      - r.offset
    let t : Instant := ⟨seconds, r.fraction + if leap then Instant.nanosPerSecond else 0⟩
    if isKnownYear t.date.year then some t else none
  else none

/-- Reads a date and time in fields of fixed width. -/
def readStrict (cs : List Char) : Option (Reading × List Char) := do
  let (year, cs) ← readFixed 4 cs
  let cs ← readChar '-' cs
  let (month, cs) ← readFixed 2 cs
  let cs ← readChar '-' cs
  let (day, cs) ← readFixed 2 cs
  let cs ← readSeparator cs
  let (hour, cs) ← readFixed 2 cs
  let cs ← readChar ':' cs
  let (minute, cs) ← readFixed 2 cs
  let cs ← readChar ':' cs
  let (second, cs) ← readFixed 2 cs
  let (fraction, cs) ← readFraction cs
  let (offset, cs) ← readOffset (readChar ':') cs
  if 86340 < offset.natAbs then none
  else return (⟨⟨year, month, day⟩, hour, minute, second, fraction, offset⟩, cs)

/-- Reads a year with an optional sign; only a signed year may have more than four digits. -/
def readYear (cs : List Char) : Option (Int × List Char) :=
  match Text.trimStart cs with
  | '-' :: cs => (readNumber cs).map fun (n, cs) => (-(n : Int), cs)
  | '+' :: cs => (readNumber cs).map fun (n, cs) => ((n : Int), cs)
  | cs => (readUpTo 4 cs).map fun (n, cs) => ((n : Int), cs)

/-- Reads a field of one or two digits with the blanks in front of it. -/
def readField (cs : List Char) : Option (Nat × List Char) := readUpTo 2 (Text.trimStart cs)

/-- Reads a character with the blanks in front of it. -/
def readMark (c : Char) (cs : List Char) : Option (List Char) := readChar c (Text.trimStart cs)

/-- Reads the offset after a loosely written time. -/
def readLooseOffset (cs : List Char) : Option (Int × List Char) :=
  match cs with
  | a :: b :: c :: rest =>
    if a.toLower = 'u' ∧ b.toLower = 't' ∧ c.toLower = 'c' then some (0, rest)
    else readOffset between cs
  | _ => readOffset between cs
where
  /-- Passes over colons and blanks. -/
  between (cs : List Char) : Option (List Char) :=
    some (cs.dropWhile fun c => c == ':' || Text.isBlank c)

/-- Reads a loosely written date and time. -/
def readLoose (cs : List Char) : Option (Reading × List Char) := do
  let (year, cs) ← readYear cs
  let cs ← readMark '-' cs
  let (month, cs) ← readField cs
  let cs ← readMark '-' cs
  let (day, cs) ← readField cs
  let cs ← readSeparator cs
  let (hour, cs) ← readField cs
  let cs ← readMark ':' cs
  let (minute, cs) ← readField cs
  let cs ← readMark ':' cs
  let (second, cs) ← readField cs
  let (fraction, cs) ← readFraction cs
  let (offset, cs) ← readLooseOffset (Text.trimStart cs)
  if 86400 ≤ offset.natAbs then none
  else return (⟨⟨year, month, day⟩, hour, minute, second, fraction, offset⟩, cs)

end IdentityDocs.Time

namespace IdentityDocs.Instant

open Time

/-- Reads the stored form of an instant. -/
def ofStamp? (s : String) : Option Instant := do
  let (reading, rest) ← readStrict s.toList
  if rest = [] then reading.instant? else none

/-- Reads the form of an instant in JSON. -/
def ofLooseStamp? (s : String) : Option Instant := do
  let (reading, rest) ← readLoose s.toList
  if Text.trimStart rest = [] then reading.instant? else none

end IdentityDocs.Instant
