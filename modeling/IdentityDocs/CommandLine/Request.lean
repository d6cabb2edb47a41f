import IdentityDocs.CommandLine.Draft

/-!
# Requests

A request is what an understood command line asks for: a command, and the data directory if it is
named.
-/

namespace IdentityDocs.CommandLine

/-- What to do to the settings. -/
inductive SettingsChange
  | nothing
  | set (key value : String)
  | reset
  deriving DecidableEq, Repr

/-- What to do. -/
inductive Command
  | analyze (image : Path) (claimed : Option Category) (owner : String) (kind : DocumentKind)
  | record (document : DocumentId) (withText : Bool)
  | list (owner : Option String)
  | queue
  | review (document : DocumentId) (status : VerificationStatus) (comment : Option String)
  | audit (limit : Nat) (document : Option DocumentId)
  | settings (change : SettingsChange)

/-- What a command line asks for. -/
structure Request where
  directory : Option Path
  command : Command

/-- The owner of an upload, if the submitter does not say. -/
def defaultOwner : String := "local"

/-- How many entries of the audit log are shown, if the user does not say. -/
def defaultLimit : Nat := 20

/-- The complaint that some of the arguments of a level are missing. -/
def Draft.missing (d : Draft) (needed : List Argument) : Fault :=
  .missingArguments (needed.filter fun argument => !d.has argument)

/-- The command of a level at which the command line ends. -/
def Level.command (level : Level) (d : Draft) : Except Fault Command :=
  match level with
  | .top | .help => .error .missingSubcommand
  | .analyze => match d.image with
    | some image =>
      .ok (.analyze image d.claimed (d.owner.getD defaultOwner) (d.kind.getD .idProof))
    | none => .error (d.missing [.image])
  | .record => match d.document with
    | some id => .ok (.record id d.withText)
    | none => .error (d.missing [.document])
  | .list => .ok (.list d.owner)
  | .queue => .ok .queue
  | .review => match d.document, d.status with
    | some id, some status => .ok (.review id status d.comment)
    | _, _ => .error (d.missing [.document, .status])
  | .audit => .ok (.audit (d.limit.getD defaultLimit) d.ofDocument)
  | .settings | .printSettings => .ok (.settings .nothing)
  | .setSetting => match d.key, d.value with
    | some key, some value => .ok (.settings (.set key value))
    | _, _ => .error (d.missing [.key, .value])
  | .resetSettings => .ok (.settings .reset)

end IdentityDocs.CommandLine
