import IdentityDocs.Document.Settings
import IdentityDocs.Recognizer.Basic

/-!
# Recognizers that are commands

A command is given the path of the image, the word `stdout`, and the language after `-l`. What it
writes is the text. A command that fails is asked why on its standard error. How a command is
launched, and what it then does, is left open: a `Launcher` is any answer to that.
-/

namespace IdentityDocs

/-- What a launched command came to. -/
structure Launched where
  /-- What it wrote to the standard output. -/
  output : List UInt8
  /-- What it wrote to the standard error. -/
  complaint : List UInt8
  ending : Ending
  /-- The files after it ended. -/
  files : FileSystem

/-- Launches a command with arguments and nothing to read, and gathers what it writes. -/
abbrev Launcher :=
  FileSystem → (command : String) → (arguments : List (List UInt8)) → Except FileError Launched

namespace Recognizer

/-- The arguments of a command. -/
def commandArguments (image : Path) (language : String) : List (List UInt8) :=
  [image.bytes, Text.encode "stdout", Text.encode "-l", Text.encode language]

/-- Launches a command to have the text of an image. -/
def launchCommand (launch : Launcher) (command : String) (files : FileSystem) (image : Path)
    (language : String) : Except FileError Launched :=
  launch files command (commandArguments image language)

/-- Asks a command for the text of an image. -/
def askCommand (launch : Launcher) (command : String) (files : FileSystem) (image : Path)
    (language : String) : Recognition :=
  match launchCommand launch command files image language with
  | .error .notFound => .failure (.recognizerUnavailable (.commandNotFound command))
  | .error e => .failure (.file e)
  | .ok launched =>
    if launched.ending = .exited 0 then .text (Text.decodeLossy launched.output)
    else .failure (.recognition (.failed command launched.ending
      (Text.trimmed (Text.decodeLossy launched.complaint))))

/-- The files after a command was asked for the text of an image. -/
def filesAfterCommand (launch : Launcher) (command : String) (files : FileSystem) (image : Path)
    (language : String) : FileSystem :=
  match launchCommand launch command files image language with
  | .error _ => files
  | .ok launched => launched.files

/-- The recognizer that runs a command. -/
def command (launch : Launcher) (command : String) : Recognizer where
  name := "tesseract"
  ask := askCommand launch command
  leaves := filesAfterCommand launch command

/-- The recognizer that the settings choose. -/
def ofSettings (launch : Launcher) (s : Settings) : Except Error Recognizer :=
  match s.recognizer with
  | .tesseract => .ok (command launch s.command)
  | .ocrs => .error (.recognizerUnavailable .notBuilt)

end Recognizer

end IdentityDocs
