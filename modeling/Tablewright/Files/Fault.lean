/-!
# Faults of files

Why a file was not read, written or made.
-/

namespace Tablewright

/-- Why a file was not read, written or made. -/
inductive FileFault
  | notFound
  | taken
  | isDirectory
  | notDirectory
  | tooManyLinks
  /-- The file is not UTF-8 text. -/
  | notText
  /-- Another fault, by its description. -/
  | other (description : String)
  deriving DecidableEq, Repr

/-- The diagnostic for a fault. -/
def FileFault.message : FileFault → String
  | notFound => "No such file or directory (os error 2)"
  | taken => "File exists (os error 17)"
  | isDirectory => "Is a directory (os error 21)"
  | notDirectory => "Not a directory (os error 20)"
  | tooManyLinks => "Too many levels of symbolic links (os error 40)"
  | notText => "stream did not contain valid UTF-8"
  | other description => description

end Tablewright
