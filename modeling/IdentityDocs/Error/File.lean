/-!
# Refusals of the file system
-/

namespace IdentityDocs

/-- Why the file system refuses an operation. -/
inductive FileError
  | notFound
  | permissionDenied
  | alreadyExists
  | notADirectory
  | isADirectory
  | nameTooLong
  /-- A file that is to be run is neither a program nor a script. -/
  | notAProgram
  /-- A path holds a NUL byte. -/
  | nulInPath
  /-- An argument of a command holds a NUL byte. -/
  | nulInArgument
  /-- A refusal that somebody else worded. -/
  | reported (text : String)
  deriving DecidableEq

/-- The wording of a refusal. -/
def FileError.message : FileError → String
  | notFound => "No such file or directory (os error 2)"
  | permissionDenied => "Permission denied (os error 13)"
  | alreadyExists => "File exists (os error 17)"
  | notADirectory => "Not a directory (os error 20)"
  | isADirectory => "Is a directory (os error 21)"
  | nameTooLong => "File name too long (os error 36)"
  | notAProgram => "Exec format error (os error 8)"
  | nulInPath => "file name contained an unexpected NUL byte"
  | nulInArgument => "nul byte found in provided data"
  | reported text => text

end IdentityDocs
