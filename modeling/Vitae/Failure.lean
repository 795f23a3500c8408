import Vitae.Text.Utf8

/-!
What can go wrong around a conversion: reading input and choosing options. Markup itself never fails.
-/

namespace Vitae

/-- Why a file could not be read or written. -/
inductive FileFault where
  | notFound
  | notDirectory
  | isDirectory
  | exists
  | nameTooLong
  | notText
  /-- A reason that only the system knows, in its words. -/
  | other (reason : String)
deriving DecidableEq

namespace FileFault

def message : FileFault → String
  | .notFound => "No such file or directory (os error 2)"
  | .notDirectory => "Not a directory (os error 20)"
  | .isDirectory => "Is a directory (os error 21)"
  | .exists => "File exists (os error 17)"
  | .nameTooLong => "File name too long (os error 36)"
  | .notText => "stream did not contain valid UTF-8"
  | .other reason => reason

end FileFault

inductive Failure where
  | file (fault : FileFault)
  | encoding (fault : Text.Utf8.Fault)
  | unknownPageSize (given : String)
  | unknownFormat (given : String)
deriving DecidableEq

namespace Failure

def message : Failure → String
  | .file fault => "I/O error: " ++ fault.message
  | .encoding fault => "Encoding error: " ++ fault.message
  | .unknownPageSize given => "Invalid option: unknown page size '" ++ given ++ "' (expected letter or a4)"
  | .unknownFormat given => "Invalid option: unknown output format '" ++ given ++ "'"

end Failure

end Vitae
