import IdentityDocs.CommandLine.Fault
import IdentityDocs.Document.Category
import IdentityDocs.Document.Kind
import IdentityDocs.Document.Typed
import IdentityDocs.Error.Basic
import IdentityDocs.Files.Path

/-!
# Arguments that were given

A draft holds the values that were given on one level of the command line, each checked when it was
put in. An argument can be given once.
-/

namespace IdentityDocs.CommandLine

/-- The values that were given on a level. -/
structure Draft where
  directory : Option Path := none
  image : Option Path := none
  claimed : Option Category := none
  owner : Option String := none
  kind : Option DocumentKind := none
  document : Option DocumentId := none
  withText : Bool := false
  status : Option VerificationStatus := none
  comment : Option String := none
  limit : Option Nat := none
  ofDocument : Option DocumentId := none
  key : Option String := none
  value : Option String := none

/-! ## Values -/

/-- Reads one of a few words. -/
def readChoice {α : Type} (argument : Argument) (choices : List (String × α)) (text : String) :
    Except Fault α :=
  match choices.lookup text with
  | some a => .ok a
  | none => .error (.notAChoice argument text (choices.map (·.1)))

/-- The words for the kinds of uploads. -/
def kindChoices : List (String × DocumentKind) :=
  [("id-proof", .idProof), ("address-proof", .addressProof), ("photo", .photo)]

/-- The words for the decisions of a reviewer. -/
def decisionChoices : List (String × VerificationStatus) :=
  [("verified", .verified), ("rejected", .rejected)]

/-- Reads a path, which must not be empty. -/
def readPath (argument : Argument) (text : String) : Except Fault Path :=
  if text = "" then .error (.missingValue argument) else .ok (.ofText text)

/-- Reads what the user typed by a rule of its own, and passes its complaint on. -/
def readTyped {α : Type} (argument : Argument) (parse : String → Except ConfigurationError α)
    (text : String) : Except Fault α :=
  (parse text).mapError fun e => .refused argument text (Error.configuration e).message

/-- The number that decimal digits stand for. -/
def decimal? (cs : List Char) : Option Nat :=
  if cs ≠ [] ∧ cs.all Char.isDigit then
    some (cs.foldl (fun n c => 10 * n + (c.toNat - '0'.toNat)) 0)
  else none

/-- The number of a text of decimal digits, which may have a sign; no number is below zero. -/
def naturalNumber? (text : String) : Option Nat :=
  match text.toList with
  | '+' :: digits => decimal? digits
  | '-' :: digits => (decimal? digits).filter (· = 0)
  | digits => decimal? digits

/-- The least number that is too large for a limit. -/
def limitBound : Nat := 4294967296

/-- Reads a limit. -/
def readLimit (text : String) : Except Fault Nat :=
  match naturalNumber? text with
  | some n => if n < limitBound then .ok n else .error (.refused .limit text "number too large")
  | none => .error (.refused .limit text "not a whole number from zero on")

/-! ## Putting values in -/

namespace Draft

/-- Whether an argument was given. -/
def has (d : Draft) : Argument → Bool
  | .directory => d.directory.isSome
  | .image => d.image.isSome
  | .claimed => d.claimed.isSome
  | .owner => d.owner.isSome
  | .kind => d.kind.isSome
  | .document => d.document.isSome
  | .withText => d.withText
  | .status => d.status.isSome
  | .comment => d.comment.isSome
  | .limit => d.limit.isSome
  | .ofDocument => d.ofDocument.isSome
  | .key => d.key.isSome
  | .value => d.value.isSome

/-- The draft with one more value, which is checked. -/
def set (d : Draft) (argument : Argument) (text : String) : Except Fault Draft :=
  match argument with
  | .directory => (readPath .directory text).map fun p => { d with directory := some p }
  | .image => (readPath .image text).map fun p => { d with image := some p }
  | .claimed => (readTyped .claimed Category.parse text).map fun c => { d with claimed := some c }
  | .owner => .ok { d with owner := some text }
  | .kind => (readChoice .kind kindChoices text).map fun k => { d with kind := some k }
  | .document =>
    (readTyped .document DocumentId.parse text).map fun id => { d with document := some id }
  | .withText => .ok { d with withText := true }
  | .status => (readChoice .status decisionChoices text).map fun s => { d with status := some s }
  | .comment => .ok { d with comment := some text }
  | .limit => (readLimit text).map fun n => { d with limit := some n }
  | .ofDocument =>
    (readTyped .ofDocument DocumentId.parse text).map fun id => { d with ofDocument := some id }
  | .key => .ok { d with key := some text }
  | .value => .ok { d with value := some text }

/-- The draft with one more value; an argument cannot be given again. -/
def give (d : Draft) (argument : Argument) (text : String) : Except Fault Draft :=
  if d.has argument then .error (.repeated argument) else d.set argument text

end Draft

end IdentityDocs.CommandLine
