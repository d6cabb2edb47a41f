import IdentityDocs.Error.Configuration
import IdentityDocs.Json.Printer
import IdentityDocs.Json.Reader
import IdentityDocs.Json.Shape
import IdentityDocs.Text.Blank

/-!
# Settings of the analysis

The settings that a user may change, one at a time and by name. Blanks around a value do not count.
Settings are kept as a JSON object; what it leaves out has its default.
-/

namespace IdentityDocs

/-- The programs that can read the text of an image. -/
inductive Backend
  | tesseract
  | ocrs
  deriving DecidableEq, Repr

namespace Backend

/-- The name of a backend. -/
def name : Backend → String
  | tesseract => "tesseract"
  | ocrs => "ocrs"

instance : Enumerated Backend where
  all := [tesseract, ocrs]
  name := name
  mem_all a := by cases a <;> decide
  name_injective a b := by cases a <;> cases b <;> decide

/-- Reads what a user typed. Blanks around it and ASCII case do not matter. -/
def parse (text : String) : Except ConfigurationError Backend :=
  let folded := String.ofList ((Text.trim text.toList).map Char.toLower)
  match Enumerated.ofName? folded with
  | some backend => .ok backend
  | none => .error (.unknownRecognizer folded)

end Backend

/-- The language that a recognizer expects unless told otherwise. -/
def defaultLanguage : String := "eng"

/-- The settings of the analysis. -/
structure Settings where
  /-- The language of the documents, in the code of the recognizer. -/
  language : String := defaultLanguage
  recognizer : Backend := .tesseract
  /-- The command that runs the recognizer. -/
  command : String := "tesseract"
  /-- Where the recognizer finds its models, if not at its own place. -/
  modelDirectory : Option String := none
  /-- Whether images are enhanced before recognition. -/
  enhanceImages : Bool := true
  /-- Whether analyses and reviews are recorded in the audit log. -/
  auditEnabled : Bool := true
  deriving DecidableEq

namespace Settings

/-- The names of the settings, in the order in which they are written. -/
def keys : List String :=
  ["language", "recognizer", "tesseract_command", "model_dir", "enhance_images", "audit_enabled"]

/-- The spellings of a flag, in lower case. -/
def flags : List (String × Bool) :=
  [("true", true), ("yes", true), ("on", true), ("1", true),
   ("false", false), ("no", false), ("off", false), ("0", false)]

/-- Reads a flag; ASCII case does not matter. -/
def parseFlag (key value : String) : Except ConfigurationError Bool :=
  match flags.lookup (String.ofList (value.toList.map Char.toLower)) with
  | some flag => .ok flag
  | none => .error (.notAFlag key value)

/-- A value that must not be empty. -/
def nonEmpty (key value : String) : Except ConfigurationError String :=
  if value = "" then .error (.emptySetting key) else .ok value

/-- Changes the setting of the given name. -/
def set (s : Settings) (key text : String) : Except ConfigurationError Settings :=
  let value := Text.trimmed text
  match key with
  | "language" => (nonEmpty key value).map fun v => { s with language := v }
  | "recognizer" => (Backend.parse value).map fun v => { s with recognizer := v }
  | "tesseract_command" => (nonEmpty key value).map fun v => { s with command := v }
  | "model_dir" => .ok { s with modelDirectory := if value = "" then none else some value }
  | "enhance_images" => (parseFlag key value).map fun v => { s with enhanceImages := v }
  | "audit_enabled" => (parseFlag key value).map fun v => { s with auditEnabled := v }
  | _ => .error (.unknownSetting key keys)

/-- Writes the settings. -/
def toJson (s : Settings) : Json :=
  .object [("language", .string s.language), ("recognizer", .ofChoice s.recognizer),
    ("tesseract_command", .string s.command),
    ("model_dir", s.modelDirectory.elim .null .string),
    ("enhance_images", .bool s.enhanceImages), ("audit_enabled", .bool s.auditEnabled)]

/-- The value of a field that may be left out. -/
def fieldOr {α : Type} (read : Json → Option α) (default : α) : Option Json → Option α
  | none => some default
  | some value => read value

/-- Reads settings; what is left out has its default. -/
def ofJson? (j : Json) : Option Settings := do
  let [language, recognizer, command, modelDirectory, enhanceImages, auditEnabled] ←
    j.fieldsOrDefaults? keys | none
  let default : Settings := {}
  return {
    language := ← fieldOr Json.string? default.language language
    recognizer := ← fieldOr Json.choice? default.recognizer recognizer
    command := ← fieldOr Json.string? default.command command
    modelDirectory := ← fieldOr (Json.optional Json.string?) default.modelDirectory modelDirectory
    enhanceImages := ← fieldOr Json.bool? default.enhanceImages enhanceImages
    auditEnabled := ← fieldOr Json.bool? default.auditEnabled auditEnabled }

/-- The text of settings, as it is stored and shown. -/
def text (s : Settings) : String := s.toJson.pretty

/-- Reads the text of settings. -/
def ofText? (text : String) : Option Settings := (Json.parse? text).bind ofJson?

end Settings

end IdentityDocs
