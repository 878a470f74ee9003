import KsqlBatch.CommandLine.Program

/-
  This file runs the program on a computer.

  Key definitions include:
    * `main`
-/

------------------------------------------------------------
-- Files
------------------------------------------------------------

namespace KsqlBatch

namespace Main

/- The fault that an error of the system stands for. -/
def faultOf
    (error : IO.Error) : FileFault :=
  match error with
  | .noFileOrDirectory _ _ _ => .notFound
  | .inappropriateType _ code text =>
      if code = 20 then .notDirectory
      else if code = 21 then .isDirectory
      else .other text
  | other => .other (toString other)

/- Run an action and turn its error into a fault. -/
def attempt
    {α : Type}
    (action : IO α) : IO (Except FileFault α) := do
  try
    return .ok (← action)
  catch error =>
    return .error (faultOf error)

/- Run an action whose error is a fault of a listing. -/
def attemptListing
    {α : Type}
    (listingFault : FileFault → ListingFault)
    (action : IO α) : ExceptT ListingFault IO α := do
  match ← attempt action with
  | .error fault => throw (listingFault fault)
  | .ok a => return a

/- The entries of a directory. -/
def entries
    (path : String) :
    ExceptT ListingFault IO (List DirectoryEntry) := do
  let found ←
    attemptListing .directory do
      ((← IO.currentDir) / path).readDir
  found.toList.mapM fun entry => do
    let data ←
      attemptListing (.entry entry.fileName)
        entry.path.symlinkMetadata
    return {
      name := entry.fileName
      isDirectory := data.type == .dir }

/- A path leads to a file. -/
def isFile
    (path : String) : IO Bool := do
  let data ← attempt ((← IO.currentDir) / path).metadata
  match data with
  | .ok data => return data.type == .file
  | .error _ => return false

/- The files of the computer. -/
def files : FileSystem IO where
  readBytes path := attempt (IO.FS.readBinFile path)
  isRegularFile := isFile
  listDirectory path := (entries path).run

end Main

end KsqlBatch

------------------------------------------------------------
-- Program
------------------------------------------------------------

namespace KsqlBatch

namespace Main

/- The variable in one part of the environment. -/
def pairIn
    (part : List Char) : Option (String × String) :=
  let name := part.takeWhile (· != '=')
  match part.drop name.length with
  | [] => none
  | _ :: value =>
      some (String.ofList name, String.ofList value)

/- The parts of a text between zero characters. -/
def parts
    (cs : List Char) : List (List Char) :=
  cs.foldr
    (fun c parts =>
      if c.toNat = 0 then [] :: parts
      else
        match parts with
        | [] => [[c]]
        | part :: parts => (c :: part) :: parts)
    []

/- The environment of the program. -/
def environment : IO (List (String × String)) := do
  match ← files.readText "/proc/self/environ" with
  | .ok text => return (parts text.toList).filterMap pairIn
  | .error _ => return []

/- Print the lines of an event. -/
def report
    (event : Event) : IO Unit := do
  for line in event.lines do
    IO.println line

/- There is no network. -/
def transport : Transport IO :=
  fun request => return .error (.unanswered request.url)

end Main

end KsqlBatch

/- Run the program with the arguments that are given. -/
def main
    (arguments : List String) : IO UInt32 := do
  let host : KsqlBatch.Host IO :=
    { files := KsqlBatch.Main.files
      environment := ← KsqlBatch.Main.environment
      transport := KsqlBatch.Main.transport
      report := KsqlBatch.Main.report }
  let ending ← KsqlBatch.Program.run host arguments
  IO.print ending.output
  IO.eprint ending.errorOutput
  return ending.exitCode.toUInt32
