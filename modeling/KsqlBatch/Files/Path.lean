/-
  This file takes paths apart at their slashes and puts them
  together.

  Key definitions include:
    * `Path.names`
    * `Path.steps`
    * `Path.join`
    * `Path.withoutDots`
    * `Path.withExtension?`
-/

------------------------------------------------------------
-- Taking Apart
------------------------------------------------------------

namespace KsqlBatch

namespace Path

/- The parts of a text between slashes, also empty ones. -/
def splitAtSlashes :
    List Char → List (List Char)
| [] => [[]]
| c :: cs =>
    if c = '/' then [] :: splitAtSlashes cs
    else
      match splitAtSlashes cs with
      | [] => [[c]]
      | part :: parts => (c :: part) :: parts

/- The names in a path, without the empty ones. -/
def names
    (path : String) : List String :=
  ((splitAtSlashes path.toList).filter (! ·.isEmpty)).map
    String.ofList

/- The path starts at the root of all files. -/
def isAbsolute
    (path : String) : Bool :=
  path.toList.head? == some '/'

/- The path ends with a slash. -/
def endsWithSlash
    (path : String) : Bool :=
  path.toList.getLast? == some '/'

/-
  The names to follow one by one. A slash at the end asks
  for a directory, like a dot after it.
-/
def steps
    (path : String) : List String :=
  if endsWithSlash path then names path ++ ["."]
  else names path

end Path

end KsqlBatch

------------------------------------------------------------
-- Putting Together
------------------------------------------------------------

namespace KsqlBatch

namespace Path

/- The path of an entry of a directory. -/
def join
    (directory name : String) : String :=
  if directory = "" ∨ endsWithSlash directory then
    directory ++ name
  else directory ++ "/" ++ name

/- The names in a path that are not just a dot. -/
def significantNames
    (path : String) : List String :=
  (names path).filter (· ≠ ".")

/- A path from names, absolute if another path is. -/
def ofNamesLike
    (path : String)
    (names : List String) : String :=
  (if isAbsolute path then "/" else "") ++
    "/".intercalate names

/- The path without dots and without doubled slashes. -/
def withoutDots
    (path : String) : String :=
  ofNamesLike path (significantNames path)

/- The path with an ending added to its last name. -/
def withExtension?
    (path ending : String) : Option String :=
  match (significantNames path).reverse with
  | [] => none
  | last :: before =>
      if last = ".." then none
      else
        some (ofNamesLike path
          (before.reverse ++ [last ++ ending]))

end Path

end KsqlBatch
