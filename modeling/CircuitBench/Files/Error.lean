/-!
# Faults of file operations

A `FileError` is one of the few faults that the operations of this library can meet, with the
wording that POSIX systems give it.
-/

namespace CircuitBench

/-- Why an operation on a file fails. -/
inductive FileError where
  | notFound
  | permissionDenied
  | alreadyExists
  | notAFolder
  | isAFolder
  | nameTooLong
  | tooManyLinks
  | nulByte
  | notText
deriving DecidableEq, Repr

/-- The wording of a fault, as POSIX systems give it. -/
def FileError.message : FileError → String
  | .notFound => "No such file or directory (os error 2)"
  | .permissionDenied => "Permission denied (os error 13)"
  | .alreadyExists => "File exists (os error 17)"
  | .notAFolder => "Not a directory (os error 20)"
  | .isAFolder => "Is a directory (os error 21)"
  | .nameTooLong => "File name too long (os error 36)"
  | .tooManyLinks => "Too many levels of symbolic links (os error 40)"
  | .nulByte => "file name contained an unexpected NUL byte"
  | .notText => "stream did not contain valid UTF-8"

end CircuitBench
