import IdentityDocs.Analysis.TextAnalysis
import IdentityDocs.Pipeline.Stage
import IdentityDocs.Platform

/-!
# What an analysis comes to

From the answer of the recognizer follows the result of the analysis, together with notes on how it
came about. An error of the recognizer gives a failed result whose notes say nothing else. Only a
breakdown of the recognizer leaves the analysis without a result.
-/

namespace IdentityDocs

/-- The note on the enhancement of the image. -/
def Preparation.note : Preparation → String
  | disabled => "Image enhancement disabled"
  | skipped cause => s!"Image enhancement skipped ({cause.message})"
  | enhanced => "Processed with image enhancement"

/-- The note on a claim that the detected category contradicts. -/
def claimNote (claimed : Option Category) (detected : Category) : List String :=
  match claimed with
  | some claim =>
    if claim ≠ detected ∧ detected ≠ .unknown then
      [s!"Claimed {claim.label} but detected {detected.label}"]
    else []
  | none => []

/-- The notes on an analysis of a text, in their order. -/
def notesOn (preparation : Preparation) (t : RecognizedText) (a : TextAnalysis) : List String :=
  [preparation.note] ++ (if t.isEmpty then ["No text recognized"] else []) ++
    [s!"Type: {a.classification.category.label}"] ++
    (if a.inferred then ["Type inferred from identifier format only"] else [])

/-- Notes as one text. -/
def joinNotes (notes : List String) : String := String.intercalate ". " notes

/-- The result of an analysis whose recognizer gave a text. -/
def concludeText (claimed : Option Category) (preparation : Preparation) (text : String) :
    AnalysisResult :=
  let t := RecognizedText.of text
  let a := analyze t
  .completed a.classification a.fields a.confidence a.verdict.status text
    (joinNotes (notesOn preparation t a ++ claimNote claimed a.classification.category))

/-- The result of an analysis, or the message of a breakdown. -/
def conclude (claimed : Option Category) (preparation : Preparation) :
    Recognition → Except String AnalysisResult
  | .text text => .ok (concludeText claimed preparation text)
  | .failure cause => .ok (.failed cause.message)
  | .breakdown message => .error message

namespace Stage

/-- What an analysis comes to, once it is over. -/
def conclusion? (claimed : Option Category) : Stage → Option (Except String AnalysisResult)
  | finished preparation _ answer => some (conclude claimed preparation answer)
  | _ => none

/-- The question that was put to the recognizer, once it was. -/
def inquiry? : Stage → Option Inquiry
  | answered _ inquiry _ => some inquiry
  | finished _ inquiry _ => some inquiry
  | _ => none

end Stage

namespace Pipeline

/-- The pipeline that the settings ask for. -/
def ofSettings (platform : Platform) (s : Settings) : Except Error Pipeline :=
  match Recognizer.ofSettings platform.launch s with
  | .ok recognizer => .ok ⟨recognizer, s.enhanceImages, platform.copier⟩
  | .error e => .error e

/-- Analyses a document: the files afterwards, the last stage, and what the analysis came to. -/
def run (p : Pipeline) (job : Job) (files : FileSystem) :
    FileSystem × Option Inquiry × Option (Except String AnalysisResult) :=
  let (files, stage) := p.finish job files
  (files, stage.inquiry?, stage.conclusion? job.claimed)

end Pipeline

end IdentityDocs
