import IdentityDocs.CommandLine.Fault
import IdentityDocs.Text.Column

/-!
# Help

What is printed for a command line that asks for help or for the version, or that is not understood.
-/

namespace IdentityDocs.CommandLine

/-- The name of the program. -/
def programName : String := "docverify"

/-- The version of the program. -/
def programVersion : String := "0.3.0"

namespace Level

/-- The words that lead to a level. -/
def path : Level → List String
  | top => []
  | analyze => ["analyze"]
  | record => ["show"]
  | list => ["list"]
  | queue => ["queue"]
  | review => ["review"]
  | audit => ["audit"]
  | settings => ["config"]
  | printSettings => ["config", "show"]
  | setSetting => ["config", "set"]
  | resetSettings => ["config", "reset"]
  | help => ["help"]

/-- How the words of a level follow each other. -/
def usage (level : Level) : String :=
  let places := level.places.map Argument.label
  let next := if level.below = [] then [] else ["<COMMAND>"]
  "Usage: " ++ String.intercalate " " (programName :: level.path ++ ["[OPTIONS]"] ++ places ++ next)

/-- The levels below a level, one on a line. -/
def belowLines (level : Level) : List String :=
  if level.below = [] then []
  else "" :: "Commands:" :: level.below.map fun (word, next) =>
    "  " ++ Text.padRight 9 word ++ next.about

end Level

/-- How an option is written. -/
def Switch.spelling (switch : Switch) : String :=
  let letter := match switch.letter with
    | some c => s!"-{c}, "
    | none => "    "
  match switch.effect with
  | .give argument => letter ++ argument.label
  | _ => letter ++ s!"--{switch.name}"

/-- The help on a level. -/
def Level.helpLines (level : Level) : List String :=
  [level.about, "", level.usage] ++ level.belowLines ++ ["", "Options:"] ++
    level.switches.map fun switch => "  " ++ Text.padRight 30 switch.spelling ++ switch.about

namespace Fault

/-- What is printed if the command line gets what it asks for. -/
def answerLines : Fault → List String
  | help level => level.helpLines
  | version => [programName ++ " " ++ programVersion]
  | _ => []

/-- What is printed if the command line is not understood. -/
def complaintLines : Fault → List String
  | nothingSaid => Level.top.helpLines
  | fault => [s!"error: {fault.message}", "", "For more information, try '--help'."]

end Fault

end IdentityDocs.CommandLine
