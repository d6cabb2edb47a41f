/-!
# Faults of text recognizers
-/

namespace IdentityDocs

/-- How a command ended. -/
inductive Ending
  | exited (status : Nat)
  | killed (signal : Nat)
  deriving DecidableEq

namespace Ending

/-- The names of the signals that end a command. -/
def signalNames : List (Nat × String) :=
  [(1, "SIGHUP"), (2, "SIGINT"), (3, "SIGQUIT"), (4, "SIGILL"), (5, "SIGTRAP"), (6, "SIGABRT"),
   (7, "SIGBUS"), (8, "SIGFPE"), (9, "SIGKILL"), (10, "SIGUSR1"), (11, "SIGSEGV"),
   (12, "SIGUSR2"), (13, "SIGPIPE"), (14, "SIGALRM"), (15, "SIGTERM"), (16, "SIGSTKFLT"),
   (24, "SIGXCPU"), (25, "SIGXFSZ"), (26, "SIGVTALRM"), (27, "SIGPROF"), (29, "SIGIO"),
   (30, "SIGPWR"), (31, "SIGSYS")]

/-- The wording of an ending. -/
def message : Ending → String
  | exited status => s!"exit status: {status}"
  | killed signal => match signalNames.lookup signal with
    | some name => s!"signal: {signal} ({name})"
    | none => s!"signal: {signal}"

end Ending

/-- Why a recognizer that was asked has no text to give. -/
inductive RecognitionError
  /-- The command failed; `complaint` is what it wrote to standard error. -/
  | failed (command : String) (ending : Ending) (complaint : String)
  /-- A fault that somebody else worded. -/
  | reported (text : String)
  deriving DecidableEq

/-- The wording of a fault. -/
def RecognitionError.message : RecognitionError → String
  | failed command ending complaint => s!"{command} exited with {ending.message}: {complaint}"
  | reported text => text

/-- Why no recognizer can be asked. -/
inductive UnavailableError
  | commandNotFound (command : String)
  /-- The chosen recognizer is not part of this build. -/
  | notBuilt
  /-- A fault that somebody else worded. -/
  | reported (text : String)
  deriving DecidableEq

/-- The wording of a fault. -/
def UnavailableError.message : UnavailableError → String
  | commandNotFound command => s!"{command} not found (install tesseract-ocr)"
  | notBuilt => "the ocrs backend requires building with the `ocr` feature"
  | reported text => text

end IdentityDocs
