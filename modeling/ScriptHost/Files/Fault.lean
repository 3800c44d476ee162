/-!
# Why a file cannot be reached

The faults of a file system that reach diagnostics, with the number the
operating system gives each.
-/

namespace ScriptHost

/-- A fault of the file system. -/
inductive FileFault where
  | notFound
  | notADirectory
  | isADirectory
  | alreadyExists
  | tooManyLinks
  /-- A name, or a path as a whole, has too many bytes. -/
  | nameTooLong
  /-- The contents of a file are not text. -/
  | notText
deriving DecidableEq, Repr

/-- The text of a fault. -/
def FileFault.message : FileFault → String
  | .notFound => "No such file or directory (os error 2)"
  | .notADirectory => "Not a directory (os error 20)"
  | .alreadyExists => "File exists (os error 17)"
  | .isADirectory => "Is a directory (os error 21)"
  | .tooManyLinks => "Too many levels of symbolic links (os error 40)"
  | .nameTooLong => "File name too long (os error 36)"
  | .notText => "stream did not contain valid UTF-8"

end ScriptHost
