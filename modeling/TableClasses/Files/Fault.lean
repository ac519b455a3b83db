/-!
# Faults of file operations

Why a file operation fails, with the sentence and number by which the operating system reports it.
-/

namespace TableClasses.Files

inductive Fault where
  | notFound
  | alreadyExists
  | notADirectory
  | isADirectory
  | nameTooLong
  /-- The path holds the character that ends a path. -/
  | nulInPath
  /-- The file is not a text. -/
  | notText
  /-- Any other fault, in the system's words. -/
  | other (description : String)
  deriving DecidableEq, Repr

def Fault.message : Fault → String
  | notFound => "No such file or directory (os error 2)"
  | alreadyExists => "File exists (os error 17)"
  | notADirectory => "Not a directory (os error 20)"
  | isADirectory => "Is a directory (os error 21)"
  | nameTooLong => "File name too long (os error 36)"
  | nulInPath => "file name contained an unexpected NUL byte"
  | notText => "stream did not contain valid UTF-8"
  | other description => description

end TableClasses.Files
