import IdentityDocs.Script.Process

/-!
# Variables

A variable holds a text. It can be passed on to the programs that a script starts, and it can be
read-only. A function keeps the variables that it makes its own, and puts them back when it is left.
-/

namespace IdentityDocs.Script

/-- The entries of a list of pairs with a new value for a name. -/
def bind {α : Type} (entries : List (Bytes × α)) (name : Bytes) (value : α) : List (Bytes × α) :=
  if entries.any (·.1 == name) then
    entries.map fun entry => if entry.1 = name then (name, value) else entry
  else entries ++ [(name, value)]

/-- The entries of a list of pairs without a name. -/
def unbind {α : Type} (entries : List (Bytes × α)) (name : Bytes) : List (Bytes × α) :=
  entries.filter fun entry => entry.1 ≠ name

/-- The variable with a name. -/
def variableNamed? (name : Bytes) : Exec (Option Variable) := do return (← get).bindings.lookup name

/-- The value of a variable. -/
def value? (name : Bytes) : Exec (Option Bytes) := do
  return (← variableNamed? name).bind Variable.value

/-- The value of a variable with the given name, or an empty text. -/
def valueOr (name : String) (otherwise : Bytes) : Exec Bytes := do
  return (← value? name.toList).getD otherwise

/-- Puts a variable in the place of the one with the same name. -/
def putVariable (name : Bytes) (v : Variable) : Exec Unit := do
  let s ← get
  let s := { s with bindings := bind s.bindings name v }
  let s := if name = "PATH".toList then { s with known := [] } else s
  set s
  if name = "OPTIND".toList then
    let index ← countOf (v.value.getD [])
    modify fun s => { s with optionIndex := max index 1, optionPlace := none }

/-- Gives a variable a value; it is passed on from then on if `passedOn`. -/
def assign (name value : Bytes) (passedOn : Bool := false) : Exec Unit := do
  if !isName name then fail (name ++ ofText ": bad variable name")
  let old := (← variableNamed? name).getD { value := none }
  if old.readOnly then fail (name ++ ofText ": is read only")
  let passedOn := passedOn || old.passedOn || (← isOn 'a')
  putVariable name { old with value := some value, passedOn }

/-- Takes the value of a variable away. -/
def unassign (name : Bytes) : Exec Unit := do
  if !isName name then fail (name ++ ofText ": bad variable name")
  match ← variableNamed? name with
  | none => pure ()
  | some old =>
    if old.readOnly then fail (name ++ ofText ": is read only")
    if name = "OPTIND".toList || name = "PATH".toList then
      putVariable name { value := none }
    else modify fun s => { s with bindings := unbind s.bindings name }

/-! ## Variables of functions -/

/-- Begins to keep what is changed. -/
def beginKeeping : Exec Unit := modify fun s => { s with kept := [] :: s.kept }

/-- Keeps a thing that is about to be changed. -/
def keep (k : Kept) : Exec Unit := modify fun s =>
  match s.kept with
  | frame :: frames => { s with kept := (k :: frame) :: frames }
  | [] => s

/-- Puts the things back that were kept last. -/
def endKeeping : Exec Unit := modify fun s =>
  match s.kept with
  | [] => s
  | frame :: frames =>
    frame.foldl (fun s k => match k with
      | .switches was => { s with switches := was }
      | .variable name none => { s with bindings := unbind s.bindings name }
      | .variable name (some was) =>
        { s with
          bindings := bind s.bindings name was
          known := if name = "PATH".toList then [] else s.known })
      { s with kept := frames }

/-- Makes a variable the own one of what keeps changes, with a value if there is one. -/
def makeOwn (name : Bytes) (value : Option Bytes) (passedOn : Bool := false) : Exec Unit := do
  if name = ['-'] && value.isNone then keep (.switches (← get).switches)
  else
    if !isName name then fail (name ++ ofText ": bad variable name")
    keep (.variable name (← variableNamed? name))
    match value with
    | some value => assign name value passedOn
    | none =>
      if (← variableNamed? name).isNone then putVariable name { value := none, passedOn }

/-! ## Listing variables -/

/-- A text between quotes, so that a script reads it as it is. -/
def quotedText (cs : Bytes) : Bytes := go (cs.length + 1) cs
where
  /-- Quotes as far as the next single quotes, which stand between double ones. -/
  go : (fuel : Nat) → Bytes → Bytes
    | 0, _ => []
    | fuel + 1, cs =>
      let plain := cs.takeWhile (· ≠ '\'')
      let rest := cs.drop plain.length
      let marks := rest.takeWhile (· = '\'')
      '\'' :: plain ++ '\'' ::
        if marks = [] then []
        else '"' :: marks ++ '"' ::
          (if rest.drop marks.length = [] then [] else go fuel (rest.drop marks.length))

/-- Whether a text comes before another one, or is the same. -/
def isBefore (a b : Bytes) : Bool := !decide (b < a)

/-- Lists the variables of a kind, each behind a word. -/
def listVariables (word : String) (holds : Variable → Bool) : Exec Unit := do
  let entries := (← get).bindings.filter fun (_, v) => holds v
  for (name, v) in entries.mergeSort fun a b => isBefore a.1 b.1 do
    let value := match v.value with
      | some value => '=' :: quotedText value
      | none => []
    say (ofText word ++ (if word = "" then [] else [' ']) ++ name ++ value ++ ['\n'])

/-- The variables that are passed on to programs. -/
def passedOn (s : Shell) : List (Bytes × Bytes) :=
  s.bindings.filterMap fun (name, v) =>
    if v.passedOn then v.value.map fun value => (name, value) else none

end IdentityDocs.Script
