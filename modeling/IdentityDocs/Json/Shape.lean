import IdentityDocs.Json.Value
import IdentityDocs.TextMap

/-!
# The shapes in which domain values are written

A choice from a closed list is written as its name, or as an object with the name as the only key
and `null` as its value. A structure is written as an object, or as the array of its fields in
order. In an object, keys that the structure does not know are passed over, and a known key may
stand only once. A map of texts is an object of strings, and of equal keys the last one counts.
-/

namespace IdentityDocs

/-- A type with finitely many values, each of which has a name. -/
class Enumerated (α : Type) where
  /-- All values. -/
  all : List α
  /-- The name of a value in JSON. -/
  name : α → String
  mem_all : ∀ a, a ∈ all
  name_injective : ∀ a b, name a = name b → a = b

namespace Enumerated

variable {α : Type} [Enumerated α]

/-- The value with the given name. -/
def ofName? (s : String) : Option α := (all : List α).find? (name · == s)

@[simp] theorem ofName?_name (a : α) : ofName? (name a) = some a := by
  cases h : (all : List α).find? (name · == name a) with
  | none => simpa using List.find?_eq_none.1 h a (mem_all a)
  | some b =>
    have hb : name b = name a := by simpa using List.find?_some h
    simp [ofName?, h, name_injective _ _ hb]

end Enumerated

namespace Json

/-- Writes a choice from a closed list. -/
def ofChoice {α : Type} [Enumerated α] (a : α) : Json := string (Enumerated.name a)

/-- Reads a choice from a closed list. -/
def choice? {α : Type} [Enumerated α] : Json → Option α
  | string s => Enumerated.ofName? s
  | object [(s, null)] => Enumerated.ofName? s
  | _ => none

/-- The value that a field has in an object; `none` if the key stands there twice. -/
def member? (members : List (String × Json)) (key : String) : Option (Option Json) :=
  match members.filter (·.1 = key) with
  | [] => some none
  | [(_, value)] => some (some value)
  | _ => none

/-- The values of the fields of a structure; an object may leave fields out, an array may not. -/
def fields? (keys : List String) : Json → Option (List (Option Json))
  | object members => keys.mapM (member? members)
  | array items => if items.length = keys.length then some (items.map some) else none
  | _ => none

/-- The values of the fields of a structure whose fields all have defaults: an array may leave the
last fields out, too. -/
def fieldsOrDefaults? (keys : List String) : Json → Option (List (Option Json))
  | object members => keys.mapM (member? members)
  | array items =>
    if items.length ≤ keys.length then
      some (items.map some ++ List.replicate (keys.length - items.length) none)
    else none
  | _ => none

/-- Writes a map of texts. -/
def ofTextMap (m : TextMap) : Json := object (m.entries.map fun e => (e.1, string e.2))

/-- Reads a map of texts. -/
def textMap? : Json → Option TextMap
  | object members =>
    (members.mapM fun m => (string? m.2).map fun s => (m.1, s)).map TextMap.ofList
  | _ => none

end Json

end IdentityDocs
