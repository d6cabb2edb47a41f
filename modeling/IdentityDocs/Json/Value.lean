/-!
# JSON values

The value type that JSON texts denote. A number keeps what its literal says: whole numbers are
apart from decimals, because a whole-number field takes only the former, and nothing is rounded
before a field asks for a double. An object keeps its members in order, duplicates included,
because what a duplicate means depends on who reads it. Escapes can name half of a surrogate pair,
which is no character; a string that does so is broken.
-/

namespace IdentityDocs

/-- A JSON number. -/
inductive Json.Number
  /-- A literal without fraction and exponent. The literal `-0` is not one. -/
  | whole (value : Int)
  /-- The digits before and after the point, and the exponent of ten; negated if `negative`. -/
  | decimal (negative : Bool) (integral fraction : List Char) (exponent : Int)
  deriving DecidableEq

/-- A JSON value. -/
inductive Json
  | null
  | bool (value : Bool)
  | number (value : Json.Number)
  | string (value : String)
  | array (items : List Json)
  | object (members : List (String × Json))
  /-- A broken string, or an object with a broken key. It stands for nothing, but a value that
  nobody asks for may be broken. -/
  | broken

namespace Json

/-- The text, if the value is one. -/
def string? : Json → Option String
  | string s => some s
  | _ => none

/-- The truth value, if the value is one. -/
def bool? : Json → Option Bool
  | bool b => some b
  | _ => none

/-- Reads a value that may be `null`. -/
def optional {α : Type} (read : Json → Option α) : Json → Option (Option α)
  | null => some none
  | value => (read value).map some

end Json

end IdentityDocs
