/-!
# Levels of the command line

The command line is a tree: a level has options, arguments that are told by their place, and levels
below it, each of which begins with a word of its own.
-/

namespace IdentityDocs.CommandLine

/-- What can be said on the command line. -/
inductive Argument
  | directory
  | image
  | claimed
  | owner
  | kind
  | document
  | withText
  | status
  | comment
  | limit
  | ofDocument
  | key
  | value
  deriving DecidableEq, Repr

/-- How an argument is shown in messages. -/
def Argument.label : Argument → String
  | directory => "--data-dir <DATA_DIR>"
  | image => "<IMAGE>"
  | claimed => "--claimed <CLAIMED>"
  | owner => "--owner <OWNER>"
  | kind => "--kind <KIND>"
  | document => "<ID>"
  | withText => "--raw"
  | status => "--status <STATUS>"
  | comment => "--comment <COMMENT>"
  | limit => "--limit <LIMIT>"
  | ofDocument => "--document <DOCUMENT>"
  | key => "<KEY>"
  | value => "<VALUE>"

/-- What an option does. -/
inductive Effect
  /-- Takes a value. -/
  | give (argument : Argument)
  /-- Says something without a value. -/
  | mark (argument : Argument)
  | help
  | version
  deriving DecidableEq, Repr

/-- An option. -/
structure Switch where
  name : String
  letter : Option Char := none
  effect : Effect
  /-- What the help says of it. -/
  about : String

/-- A level of the command line. -/
inductive Level
  | top
  | analyze
  | record
  | list
  | queue
  | review
  | audit
  | settings
  | printSettings
  | setSetting
  | resetSettings
  /-- The help on a level; it is told by words and reads no options. -/
  | help
  deriving DecidableEq, Repr

namespace Level

/-- The words that lead from a level to those below it. -/
def below : Level → List (String × Level)
  | top =>
    [("analyze", analyze), ("show", record), ("list", list), ("queue", queue), ("review", review),
     ("audit", audit), ("config", settings), ("help", help)]
  | settings =>
    [("show", printSettings), ("set", setSetting), ("reset", resetSettings), ("help", help)]
  | _ => []

/-- The level below a level that a word leads to. -/
def below? (level : Level) (word : String) : Option Level := level.below.lookup word

/-- What the help says of a level. -/
def about : Level → String
  | top => "Automated identity document verification"
  | analyze => "Register an uploaded image and analyse it"
  | record => "Show one document record"
  | list => "List document records, newest first"
  | queue => "Documents waiting on a reviewer"
  | review => "Record a reviewer decision"
  | audit => "Show the audit trail"
  | settings => "Show or change analysis settings"
  | printSettings => "Print the current settings as JSON"
  | setSetting => "Change one setting"
  | resetSettings => "Restore default settings"
  | help => "Print this message or the help of the given subcommand(s)"

/-- The options that a level has of its own. -/
def ownSwitches : Level → List Switch
  | top => [{ name := "version", letter := some 'V', effect := .version, about := "Print version" }]
  | analyze =>
    [{ name := "claimed", effect := .give .claimed
       about := "Category the submitter claims (tax-id, national-id, voter-id, driving-license)" },
     { name := "owner", effect := .give .owner, about := "Submitting account [default: local]" },
     { name := "kind", effect := .give .kind
       about := "What the submitter says the upload is [default: id-proof]" }]
  | record => [{ name := "raw", effect := .mark .withText, about := "Also print the recognized text" }]
  | list => [{ name := "owner", effect := .give .owner, about := "Only this owner's documents" }]
  | review =>
    [{ name := "status", effect := .give .status, about := "The decision" },
     { name := "comment", effect := .give .comment, about := "What the reviewer notes" }]
  | audit =>
    [{ name := "limit", letter := some 'l', effect := .give .limit
       about := "At most this many entries [default: 20]" },
     { name := "document", effect := .give .ofDocument, about := "Only entries for this document" }]
  | _ => []

/-- The options of a level. The data directory can be named on every level. -/
def switches (level : Level) : List Switch :=
  level.ownSwitches ++
    [{ name := "data-dir", effect := .give .directory
       about := "Data directory holding the databases and config [env: DOCVERIFY_DATA_DIR]" },
     { name := "help", letter := some 'h', effect := .help, about := "Print help" }]

/-- The option of a level with the given name. -/
def named? (level : Level) (name : String) : Option Switch :=
  level.switches.find? (·.name = name)

/-- The option of a level with the given letter. -/
def lettered? (level : Level) (letter : Char) : Option Switch :=
  level.switches.find? (·.letter = some letter)

/-- The arguments of a level that are told by their place. All of them are required. -/
def places : Level → List Argument
  | analyze => [.image]
  | record => [.document]
  | review => [.document]
  | setSetting => [.key, .value]
  | _ => []

end Level

end IdentityDocs.CommandLine
