import KsqlBatch.Files.FileSystem
import KsqlBatch.Files.Path
import KsqlBatch.Keyed
import KsqlBatch.RunError

/-
  This file finds the files of a batch. Those of a directory
  come in ascending order of their names.

  Key definitions include:
    * `BatchInput`
    * `ListingPolicy`
    * `BatchInput.paths`
    * `BatchInput.listingError`
    * `BatchInput.resolve`
-/

------------------------------------------------------------
-- Inputs
------------------------------------------------------------

namespace KsqlBatch

/- What a batch consists of. -/
inductive BatchInput where
| file (path : String)
| directory (path : String)
deriving DecidableEq, Repr, Inhabited

namespace BatchInput

/-
  The paths of the entries of a directory that are not
  directories themselves.
-/
def paths
    (directory : String)
    (entries : List DirectoryEntry) : List String :=
  let names :=
    (entries.filter (! ·.isDirectory)).map (·.name, ())
  (Keyed.ofList names).map fun (name, _) =>
    Path.join directory name

/-
  The error of a directory that is not listed. It names the
  entry whose fault this is, if it is not the directory's.
-/
def listingError
    (directory : String) :
    ListingFault → RunError
| .directory fault => .file directory fault
| .entry name fault =>
    .file (Path.join directory name) fault

variable {m : Type → Type}
variable [Monad m]

/- The files of a batch, in order. -/
def resolve
    (files : FileSystem m) :
    BatchInput → m (Except RunError (List String))
| .file path => pure (.ok [path])
| .directory path => do
    match ← files.listDirectory path with
    | .error fault => return .error (listingError path fault)
    | .ok entries => return .ok (paths path entries)

/- The text of a script. -/
def readScript
    (files : FileSystem m)
    (path : String) : m (Except RunError String) := do
  match ← files.readText path with
  | .error fault => return .error (.file path fault)
  | .ok text => return .ok text

end BatchInput

end KsqlBatch

------------------------------------------------------------
-- Listing
------------------------------------------------------------

namespace KsqlBatch

/- When the streams of the engine are listed. -/
inductive ListingPolicy where
| never
| before
| after
| both
deriving DecidableEq, Repr, Inhabited

namespace ListingPolicy

/- The streams are listed before the first file. -/
def includesBefore : ListingPolicy → Bool
| .before => true
| .both => true
| _ => false

/- The streams are listed after the last file. -/
def includesAfter : ListingPolicy → Bool
| .after => true
| .both => true
| _ => false

end ListingPolicy

end KsqlBatch
