import IdentityDocs.Image.Processed
import IdentityDocs.Pipeline.Job
import IdentityDocs.Recognizer.Basic

/-!
# The stages of an analysis

An analysis touches the files one step at a time: it reads the image, writes the processed copy,
asks the recognizer, and removes the copy. Between two steps others may touch the files, so the
stage that an analysis has reached is a value of its own, and `Pipeline.step` takes it one further.
An image that cannot be enhanced is recognized as it is. What was written, or was only begun to be
written, is removed again.
-/

namespace IdentityDocs

/-- How images are analysed. -/
structure Pipeline where
  recognizer : Recognizer
  /-- Whether images are enhanced before recognition. -/
  enhances : Bool
  copier : Copier

/-- What became of the enhancement of an image. -/
inductive Preparation
  | disabled
  | skipped (cause : Error)
  /-- The processed copy is there. -/
  | enhanced

/-- The path of the image that the recognizer is asked about. -/
def Preparation.path (job : Job) : Preparation → Path
  | enhanced => job.image.processed
  | _ => job.image

/-- A question that was put to a recognizer. -/
structure Inquiry where
  path : Path
  language : String
  /-- The files as the recognizer saw them. -/
  files : FileSystem

/-- The stage that an analysis has reached. -/
inductive Stage
  | begun
  /-- The image was read, and the content of its processed copy is worked out. -/
  | decoded (copy : List UInt8)
  /-- The copy could not be written. -/
  | unwritten (cause : FileError)
  | ready (preparation : Preparation)
  | answered (preparation : Preparation) (inquiry : Inquiry) (answer : Recognition)
  /-- The copy is removed, and the files are no longer touched. -/
  | finished (preparation : Preparation) (inquiry : Inquiry) (answer : Recognition)

/-- The files without the one at a path; what cannot be removed stays. -/
def FileSystem.discard (files : FileSystem) (p : Path) : FileSystem :=
  match files.remove p with
  | .ok files => files
  | .error _ => files

namespace Pipeline

/-- The inquiry that an analysis makes, and its answer. -/
def inquire (p : Pipeline) (job : Job) (files : FileSystem) (preparation : Preparation) :
    Inquiry × Recognition :=
  let path := preparation.path job
  (⟨path, job.language, files⟩, p.recognizer.ask files path job.language)

/-- Takes an analysis one stage further. -/
def step (p : Pipeline) (job : Job) (files : FileSystem) : Stage → FileSystem × Stage
  | .begun =>
    if p.enhances then
      match p.copier.process files job.image with
      | .ok copy => (files, .decoded copy)
      | .error e => (files, .ready (.skipped (.image e)))
    else (files, .ready .disabled)
  | .decoded copy => match p.copier.write files job.image.processed copy with
    | (files, none) => (files, .ready .enhanced)
    | (files, some e) => (files, .unwritten e)
  | .unwritten e => (files.discard job.image.processed, .ready (.skipped (.file e)))
  | .ready preparation =>
    let (inquiry, answer) := p.inquire job files preparation
    (p.recognizer.leaves files inquiry.path job.language, .answered preparation inquiry answer)
  | .answered .enhanced inquiry answer =>
    (files.discard job.image.processed, .finished .enhanced inquiry answer)
  | .answered preparation inquiry answer => (files, .finished preparation inquiry answer)
  | .finished preparation inquiry answer => (files, .finished preparation inquiry answer)

/-- Takes an analysis a number of stages further, with nobody else at the files. -/
def advance (p : Pipeline) (job : Job) : (steps : Nat) → FileSystem × Stage → FileSystem × Stage
  | 0, state => state
  | n + 1, (files, stage) => advance p job n (p.step job files stage)

/-- The number of stages after which every analysis is over. -/
def stageCount : Nat := 5

/-- Takes an analysis from its beginning to its end. -/
def finish (p : Pipeline) (job : Job) (files : FileSystem) : FileSystem × Stage :=
  p.advance job stageCount (files, .begun)

end Pipeline

end IdentityDocs
