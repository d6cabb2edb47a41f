import IdentityDocs.Text.Utf8

/-!
# Database files in pages

A database that another program made lies in a file of pages of one size, numbered from one. The
first page begins with a header of 100 bytes. A table is a tree of pages: a leaf holds rows in the
order of their numbers, and an inner page holds the numbers of the pages below it. What is too long
for the page of a row goes on in other pages. The tables themselves are the rows of a table whose
tree begins in the first page. All numbers are stored with the most significant byte first.
-/

namespace IdentityDocs

namespace Pages

/-- What a row holds in a column. -/
inductive Value
  | null
  | whole (n : Int)
  | double (x : Float)
  | text (s : String)
  | blob (bytes : List UInt8)

namespace Value

/-- The text in a column. -/
def text? : Value → Option String
  | text s => some s
  | _ => none

/-- The text in a column that may be empty. -/
def optionalText? : Value → Option (Option String)
  | null => some none
  | text s => some (some s)
  | _ => none

/-- The number in a column of doubles. A double without a fraction is stored as a whole number. -/
def double? : Value → Option Float
  | double x => some x
  | whole n => some (Float.ofInt n)
  | _ => none

end Value

/-- A row with its number. -/
structure Entry where
  number : Nat
  values : List Value

/-- A file of pages. -/
structure File where
  bytes : Array UInt8
  pageSize : Nat
  /-- The bytes at the end of each page that hold nothing. -/
  reserved : Nat

/-! ## Numbers -/

/-- The number that bytes hold. -/
def natural (bytes : List UInt8) : Nat := bytes.foldl (fun n b => n * 256 + b.toNat) 0

/-- The number that bytes hold in two's complement. -/
def integer (bytes : List UInt8) : Int :=
  let n := natural bytes
  let span := 1 <<< (8 * bytes.length)
  if 2 * n < span then n else Int.subNatNat n span

/-- Reads a number of as many bytes as it needs: seven bits in each byte, the first of which says
whether there is another, up to a ninth byte with eight bits. -/
def readVarying (more value : Nat) : List UInt8 → Option (Nat × List UInt8)
  | [] => none
  | b :: rest => match more with
    | 0 => some (value * 256 + b.toNat, rest)
    | more + 1 =>
      if b < 128 then some (value * 128 + b.toNat, rest)
      else readVarying more (value * 128 + b.toNat % 128) rest

/-- Reads the next number of varying length. -/
def readNumber : List UInt8 → Option (Nat × List UInt8) := readVarying 8 0

/-- Reads numbers of varying length up to the end. -/
def readNumbers : (fuel : Nat) → List UInt8 → Option (List Nat)
  | _, [] => some []
  | 0, _ => none
  | fuel + 1, bytes => do
    let (n, rest) ← readNumber bytes
    let others ← readNumbers fuel rest
    return n :: others

/-! ## Rows -/

/-- The number of bytes of a value of a type. -/
def valueSize : Nat → Nat
  | 5 => 6
  | 6 | 7 => 8
  | 8 | 9 => 0
  | type => if type < 12 then type else (type - 12) / 2

/-- The value of a type that bytes hold. -/
def value? (bytes : List UInt8) : Nat → Option Value
  | 0 => some .null
  | 1 | 2 | 3 | 4 | 5 | 6 => some (.whole (integer bytes))
  | 7 => some (.double (Float.ofBits (UInt64.ofNat (natural bytes))))
  | 8 => some (.whole 0)
  | 9 => some (.whole 1)
  | 10 | 11 => none
  | type => if type % 2 = 0 then some (.blob bytes) else (Text.decode? bytes).map .text

/-- The values of types, one after the other. -/
def readValues : List Nat → List UInt8 → Option (List Value)
  | [], _ => some []
  | type :: types, bytes =>
    let size := valueSize type
    if size ≤ bytes.length then do
      let value ← value? (bytes.take size) type
      let others ← readValues types (bytes.drop size)
      return value :: others
    else none

/-- The values of a row: the types of all of them, and then what they are. -/
def readRow (bytes : List UInt8) : Option (List Value) := do
  let (headerSize, rest) ← readNumber bytes
  let typesSize := headerSize - (bytes.length - rest.length)
  let types ← readNumbers typesSize (rest.take typesSize)
  readValues types (rest.drop typesSize)

namespace File

/-! ## Pages -/

/-- The place at which a page begins. -/
def start (f : File) (page : Nat) : Nat := (page - 1) * f.pageSize

/-- The bytes of a page that hold something. -/
def usable (f : File) : Nat := f.pageSize - f.reserved

/-- Bytes of the file. -/
def slice? (f : File) (place count : Nat) : Option (List UInt8) :=
  if place + count ≤ f.bytes.size then some (f.bytes.extract place (place + count)).toList
  else none

/-- The number that some bytes of the file hold. -/
def number? (f : File) (place count : Nat) : Option Nat := (f.slice? place count).map natural

/-- How much of a row of some size is in its own page. -/
def localSize (f : File) (size : Nat) : Nat :=
  let most := f.usable - 35
  let least := (f.usable - 12) * 32 / 255 - 23
  if size ≤ most then size
  else
    let fitting := least + (size - least) % (f.usable - 4)
    if fitting ≤ most then fitting else least

/-- What goes on in a page and the pages after it. -/
def rest? (f : File) : (fuel : Nat) → (page size : Nat) → Option (List UInt8)
  | _, _, 0 => some []
  | 0, _, _ => none
  | fuel + 1, page, size => do
    let next ← f.number? (f.start page) 4
    let here ← f.slice? (f.start page + 4) (min size (f.usable - 4))
    let others ← f.rest? fuel next (size - here.length)
    return here ++ others

/-- The row at a place in a page. -/
def entry? (f : File) (page place : Nat) : Option Entry := do
  let bytes ← f.slice? (f.start page + place) (f.usable - place)
  let (size, bytes) ← readNumber bytes
  let (number, bytes) ← readNumber bytes
  let localSize := f.localSize size
  if bytes.length < localSize then none
  else
    let others ←
      if localSize = size then some []
      else f.rest? size (natural ((bytes.drop localSize).take 4)) (size - localSize)
    let values ← readRow (bytes.take localSize ++ others)
    return { number, values }

/-- The numbers of all places in a page, which are listed from another place on. -/
def places? (f : File) (place count : Nat) : Option (List Nat) :=
  (List.range count).mapM fun i => f.number? (place + 2 * i) 2

/-- The greatest number of pages from the top of a tree to a leaf. -/
def maxDepth : Nat := 20

/-- The rows in the tree of a page. -/
def entries? (f : File) : (depth : Nat) → (page : Nat) → Option (List Entry)
  | 0, _ => none
  | depth + 1, page => do
    let top := f.start page + if page = 1 then 100 else 0
    let type ← f.number? top 1
    let count ← f.number? (top + 3) 2
    if type = 13 then
      let places ← f.places? (top + 8) count
      places.mapM (f.entry? page)
    else if type = 5 then
      let places ← f.places? (top + 12) count
      let below ← places.mapM fun place => f.number? (f.start page + place) 4
      let last ← f.number? (top + 8) 4
      let parts ← (below ++ [last]).mapM (f.entries? depth)
      return parts.flatten
    else none

/-! ## Tables -/

/-- The first bytes of a file of pages. -/
def signature : List UInt8 := Text.encode "SQLite format 3\u0000"

/-- The file of pages that bytes are, if its texts are in UTF-8. -/
def ofBytes? (bytes : List UInt8) : Option File :=
  let header (place count : Nat) : Nat := natural ((bytes.drop place).take count)
  let pageSize := if header 16 2 = 1 then 65536 else header 16 2
  if signature.isPrefixOf bytes ∧ 512 ≤ pageSize ∧ header 56 4 = 1 then
    some { bytes := bytes.toArray, pageSize, reserved := header 20 1 }
  else none

/-- What the first page tells of the parts of a database. -/
structure Part where
  type : String
  name : String
  /-- The page in which the tree of the part begins. -/
  page : Nat
  /-- The words in which the part was made, if somebody made it. -/
  words : Option String

/-- The part that a row of the first tree describes. -/
def part? (entry : Entry) : Option Part :=
  match entry.values with
  | [.text type, .text name, .text _, .whole page, words] => do
    return { type, name, page := page.toNat, words := ← words.optionalText? }
  | _ => none

/-- The rows of a table that was made in the given words, or `none` if there is no such table.
Nothing is known of a file in which the table was made in other words, or in which there are other
parts than tables and their indices. -/
def table? (f : File) (name words : String) : Option (Option (List Entry)) := do
  let parts ← (← f.entries? maxDepth 1).mapM part?
  if parts.any fun part => part.type ≠ "table" ∧ part.type ≠ "index" then none
  else match parts.find? fun part => part.type = "table" ∧ part.name = name with
    | none => some none
    | some part =>
      if part.words = some ("CREATE TABLE " ++ words) then (f.entries? maxDepth part.page).map some
      else none

/-- What is read from the rows of a table; nothing if there is no such table. -/
def rows? {α : Type} (f : File) (name words : String) (read? : Entry → Option α) :
    Option (List α) := do
  match ← f.table? name words with
  | some entries => entries.mapM read?
  | none => some []

end File

end Pages

end IdentityDocs
