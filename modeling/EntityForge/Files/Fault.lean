/-!
# Why a file operation fails

The reasons for which reading, writing or making a directory is refused, with the words and the
numbers that the operating system has for them.
-/

set_option autoImplicit false

namespace EntityForge

/-- Why a file operation fails. -/
inductive FileFault where
  | notFound
  | alreadyExists
  | notDirectory
  | isDirectory
  | nameTooLong
  | tooManyLinks
  | notText
  | nulInName
deriving DecidableEq, Repr, Inhabited

/-- A diagnostic's words for a reason. -/
def FileFault.describe : FileFault → String
  | .notFound => "No such file or directory (os error 2)"
  | .alreadyExists => "File exists (os error 17)"
  | .notDirectory => "Not a directory (os error 20)"
  | .isDirectory => "Is a directory (os error 21)"
  | .nameTooLong => "File name too long (os error 36)"
  | .tooManyLinks => "Too many levels of symbolic links (os error 40)"
  | .notText => "stream did not contain valid UTF-8"
  | .nulInName => "file name contained an unexpected NUL byte"

end EntityForge
