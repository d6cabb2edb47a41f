import IdentityDocs.CommandLine.Level

/-!
# Why a command line is not carried out

Either it asks for help or for the version, or it is not understood.
-/

namespace IdentityDocs.CommandLine

/-- Why a command line is not carried out. -/
inductive Fault
  /-- Help on a level was asked for. -/
  | help (level : Level)
  | version
  /-- Nothing was said at all. -/
  | nothingSaid
  | missingSubcommand
  | unknownSubcommand (word : String)
  | unknownArgument (word : String)
  | missingArguments (arguments : List Argument)
  | repeated (argument : Argument)
  | missingValue (argument : Argument)
  /-- An option that takes no value has one. -/
  | surplusValue (name value : String)
  /-- A value that is not one of those that the argument admits. -/
  | notAChoice (argument : Argument) (value : String) (choices : List String)
  /-- A value that cannot be read. -/
  | refused (argument : Argument) (value reason : String)
  deriving DecidableEq, Repr

namespace Fault

/-- Whether the command line asked for what it gets. -/
def isAnswer : Fault → Bool
  | help _ | version => true
  | _ => false

/-- The wording of a fault. -/
def message : Fault → String
  | help level => level.about
  | version => "docverify"
  | nothingSaid => "a subcommand is required"
  | missingSubcommand => "a subcommand is required but none was given"
  | unknownSubcommand word => s!"unrecognized subcommand '{word}'"
  | unknownArgument word => s!"unexpected argument '{word}' found"
  | missingArguments arguments =>
    let labels := String.intercalate ", " (arguments.map Argument.label)
    s!"the following required arguments were not given: {labels}"
  | repeated argument => s!"the argument '{argument.label}' cannot be used more than once"
  | missingValue argument => s!"a value is required for '{argument.label}' but none was given"
  | surplusValue name value => s!"unexpected value '{value}' for '--{name}'"
  | notAChoice argument value choices =>
    let names := String.intercalate ", " choices
    s!"invalid value '{value}' for '{argument.label}' (possible values: {names})"
  | refused argument value reason => s!"invalid value '{value}' for '{argument.label}': {reason}"

end Fault

end IdentityDocs.CommandLine
