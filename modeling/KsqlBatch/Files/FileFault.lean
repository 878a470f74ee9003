/-
  This file defines why a file or directory cannot be used.

  Key definitions include:
    * `FileFault`
    * `FileFault.message`
-/

------------------------------------------------------------
-- Faults
------------------------------------------------------------

namespace KsqlBatch

/- Why a file or a directory cannot be used. -/
inductive FileFault where
| notFound
| notDirectory
| isDirectory
| nameTooLong
| tooManyLinks
| alreadyExists
| nulInPath
| notUtf8
| other (text : String)
deriving DecidableEq, Repr, Inhabited

/- The wording of a fault. -/
def FileFault.message : FileFault → String
| .notFound => "No such file or directory (os error 2)"
| .notDirectory => "Not a directory (os error 20)"
| .isDirectory => "Is a directory (os error 21)"
| .nameTooLong => "File name too long (os error 36)"
| .tooManyLinks =>
    "Too many levels of symbolic links (os error 40)"
| .alreadyExists => "File exists (os error 17)"
| .nulInPath =>
    "file name contained an unexpected NUL byte"
| .notUtf8 => "stream did not contain valid UTF-8"
| .other text => text

end KsqlBatch
