import KsqlBatch.Files.FileFault

/-
  This file defines what the program needs of the files
  around it.

  Key definitions include:
    * `DirectoryEntry`
    * `ListingFault`
    * `FileSystem`
    * `FileSystem.readText`
-/

------------------------------------------------------------
-- File Systems
------------------------------------------------------------

namespace KsqlBatch

/-
  An entry of a directory. A link is no directory, whatever
  it leads to.
-/
structure DirectoryEntry where
  name : String
  isDirectory : Bool
deriving DecidableEq, Repr, Inhabited

/-
  Why a directory is not listed: it cannot be read to its
  end, or it is not known what an entry of it is.
-/
inductive ListingFault where
| directory (fault : FileFault)
| entry (name : String) (fault : FileFault)
deriving DecidableEq, Repr, Inhabited

/-
  Access to files. The entries of a directory come in any
  order, and the first fault among them ends the listing.
-/
structure FileSystem (m : Type → Type) where
  readBytes : String → m (Except FileFault ByteArray)
  isRegularFile : String → m Bool
  listDirectory :
    String → m (Except ListingFault (List DirectoryEntry))

namespace FileSystem

variable {m : Type → Type}
variable [Monad m]

/- The text of bytes, which have to be UTF-8. -/
def textOf
    (bytes : ByteArray) : Except FileFault String :=
  match String.fromUTF8? bytes with
  | some text => .ok text
  | none => .error .notUtf8

/- The text of a file. -/
def readText
    (files : FileSystem m)
    (path : String) : m (Except FileFault String) := do
  match ← files.readBytes path with
  | .error fault => return .error fault
  | .ok bytes => return textOf bytes

end FileSystem

end KsqlBatch
