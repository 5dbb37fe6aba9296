/-!
What can go wrong with a file, and how it is said.
-/

namespace QualityGate

/-- Why a file operation failed. -/
inductive FileError where
  | notFound
  | permissionDenied
  | alreadyExists
  | notADirectory
  | isADirectory
  | invalidArgument
  | nameTooLong
  /-- The path holds a NUL character. -/
  | nulInPath
  /-- The content is no text. -/
  | invalidText
  deriving DecidableEq, Repr, Inhabited

namespace FileError

/-- The wording of an error, with its number if the system gives one. -/
def message : FileError → String
  | notFound => "No such file or directory (os error 2)"
  | permissionDenied => "Permission denied (os error 13)"
  | alreadyExists => "File exists (os error 17)"
  | notADirectory => "Not a directory (os error 20)"
  | isADirectory => "Is a directory (os error 21)"
  | invalidArgument => "Invalid argument (os error 22)"
  | nameTooLong => "File name too long (os error 36)"
  | nulInPath => "file name contained an unexpected NUL byte"
  | invalidText => "stream did not contain valid UTF-8"

end FileError

end QualityGate
