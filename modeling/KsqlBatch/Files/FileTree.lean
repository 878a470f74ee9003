import KsqlBatch.Files.FileSystem
import KsqlBatch.Files.Path

/-
  This file defines a tree of files that is held in memory.
  Paths are followed from its top: dots, double dots, links
  and slashes at the end work as in a real file system. The
  directories above the top hold nothing that has a name.

  Key definitions include:
    * `FileNode`
    * `Place`
    * `FileTree`
    * `FileTree.locate`
    * `FileTree.read`
    * `FileTree.list`
    * `FileTree.add`
    * `FileTree.fileSystem`
-/

------------------------------------------------------------
-- Trees
------------------------------------------------------------

namespace KsqlBatch

/- What stands under a name. -/
inductive FileNode where
| file (content : ByteArray)
| directory
| link (target : String)
deriving Inhabited

/- A directory stands there. -/
def FileNode.isDirectory : FileNode → Bool
| .directory => true
| _ => false

/-
  A place: somewhere above the top, or the chain of names
  that leads to it from the top.
-/
inductive Place where
| above
| within (names : List String)
deriving DecidableEq, Repr, Inhabited

namespace Place

/- The top of a tree. -/
def top : Place :=
  .within []

/- The directory in which a place is. -/
def parent : Place → Place
| .above => .above
| .within names =>
    if names = [] then .above else .within names.dropLast

/- The place of an entry. Nothing above the top has a name. -/
def child?
    (place : Place)
    (name : String) : Option Place :=
  match place with
  | .above => none
  | .within names => some (.within (names ++ [name]))

/- The place from which a path is followed. -/
def start
    (place : Place)
    (path : String) : Place :=
  if Path.isAbsolute path then .above else place

end Place

/-
  A tree of files: what stands under each chain of names.
  The top itself is a directory.
-/
structure FileTree where
  nodes : List (List String × FileNode)
deriving Inhabited

namespace FileTree

/- The tree without files. -/
def empty : FileTree where
  nodes := []

/- What stands at a place. -/
def node?
    (tree : FileTree) :
    Place → Option FileNode
| .above => some .directory
| .within names =>
    if names = [] then some .directory
    else (tree.nodes.find? (·.1 = names)).map (·.2)

/- Put something at a place; nothing is put above the top. -/
def put
    (tree : FileTree)
    (node : FileNode) :
    Place → FileTree
| .above => tree
| .within names =>
    { nodes :=
        tree.nodes.filter (·.1 ≠ names) ++ [(names, node)] }

end FileTree

end KsqlBatch

------------------------------------------------------------
-- Following Paths
------------------------------------------------------------

namespace KsqlBatch

namespace FileTree

/- The greatest length of a name in bytes. -/
def nameLimit : Nat := 255

/- The length in bytes from which on a path is too long. -/
def pathLimit : Nat := 4096

/- The number of links that may be followed. -/
def linkLimit : Nat := 40

/- What becomes of a place where nothing stands. -/
abbrev AtMissing := Place → Except FileFault Place

/- A place where something has to stand. -/
def existing : AtMissing :=
  fun _ => .error .notFound

/- A place where something is to be put. -/
def wanted : AtMissing :=
  fun place => .ok place

/-
  Follow names from a directory. A link is handed on together
  with the directory in which it stands and its target in
  front of the names that are left. Only under the last name
  may there be nothing.
-/
def follow
    (tree : FileTree)
    (atMissing : AtMissing)
    (followLink :
      Place → String → List String → Except FileFault Place)
    (place : Place) :
    List String → Except FileFault Place
| [] => .ok place
| name :: rest =>
    match tree.node? place with
    | some .directory =>
        if name = "." then
          tree.follow atMissing followLink place rest
        else if name = ".." then
          tree.follow atMissing followLink place.parent rest
        else if nameLimit < name.utf8ByteSize then
          .error .nameTooLong
        else
          match place.child? name with
          | none => .error .notFound
          | some next =>
              match tree.node? next with
              | none =>
                  if rest = [] then atMissing next
                  else .error .notFound
              | some (.link target) =>
                  followLink place target rest
              | some _ =>
                  tree.follow atMissing followLink next rest
    | some _ => .error .notDirectory
    | none => .error .notFound

/- Follow names and a number of links. -/
def followLinks
    (tree : FileTree)
    (atMissing : AtMissing) :
    Nat → Place → String → List String →
      Except FileFault Place
| 0 => fun _ _ _ => .error .tooManyLinks
| links + 1 => fun place target rest =>
    tree.follow atMissing (tree.followLinks atMissing links)
      (place.start target) (Path.steps target ++ rest)

/- Follow names and links from a directory. -/
def walk
    (tree : FileTree)
    (atMissing : AtMissing) :
    Place → List String → Except FileFault Place :=
  tree.follow atMissing (tree.followLinks atMissing linkLimit)

/- A path that no file can have, and why. -/
def pathFault?
    (path : String) : Option FileFault :=
  if path.toList.contains (Char.ofNat 0) then
    some .nulInPath
  else if path = "" then some .notFound
  else if pathLimit ≤ path.utf8ByteSize then
    some .nameTooLong
  else none

/- The place that a path leads to. -/
def locate
    (tree : FileTree)
    (path : String) : Except FileFault Place :=
  match pathFault? path with
  | some fault => .error fault
  | none =>
      tree.walk existing (Place.top.start path)
        (Path.steps path)

end FileTree

end KsqlBatch

------------------------------------------------------------
-- Reading
------------------------------------------------------------

namespace KsqlBatch

namespace FileTree

/- The content of a file. -/
def read
    (tree : FileTree)
    (path : String) : Except FileFault ByteArray :=
  match tree.locate path with
  | .error fault => .error fault
  | .ok place =>
      match tree.node? place with
      | some (.file content) => .ok content
      | some .directory => .error .isDirectory
      | _ => .error .notFound

/- A path leads to a file. -/
def isRegularFile
    (tree : FileTree)
    (path : String) : Bool :=
  match tree.read path with
  | .ok _ => true
  | .error _ => false

/- The entry that a node is in a directory, if it is in it. -/
def entryIn?
    (place : Place)
    (node : List String × FileNode) :
    Option DirectoryEntry :=
  match node.1.getLast? with
  | none => none
  | some name =>
      if Place.within node.1.dropLast = place then
        some
          { name
            isDirectory := node.2.isDirectory }
      else none

/- The entries of a directory, in no particular order. -/
def list
    (tree : FileTree)
    (path : String) :
    Except ListingFault (List DirectoryEntry) :=
  match tree.locate path with
  | .error fault => .error (.directory fault)
  | .ok place =>
      match tree.node? place with
      | some .directory =>
          .ok (tree.nodes.filterMap (entryIn? place))
      | _ => .error (.directory .notDirectory)

/- The tree as a file system. -/
def fileSystem
    {m : Type → Type}
    [Monad m]
    (tree : FileTree) : FileSystem m where
  readBytes path := pure (tree.read path)
  isRegularFile path := pure (tree.isRegularFile path)
  listDirectory path := pure (tree.list path)

end FileTree

end KsqlBatch

------------------------------------------------------------
-- Writing
------------------------------------------------------------

namespace KsqlBatch

namespace FileTree

/-
  Enter the directory under a name. It is made if nothing
  has the name; a link that leads nowhere has it.
-/
def enter
    (tree : FileTree)
    (place : Place)
    (name : String) : Except FileFault (FileTree × Place) :=
  match tree.walk existing place [name] with
  | .ok next =>
      match tree.node? next with
      | some .directory => .ok (tree, next)
      | _ => .error .notDirectory
  | .error .notFound =>
      match place.child? name with
      | none => .error .notFound
      | some next =>
          match tree.node? next with
          | none => .ok (tree.put .directory next, next)
          | some _ => .error .alreadyExists
  | .error fault => .error fault

/- Enter directories one after the other. -/
def enterAll
    (tree : FileTree)
    (place : Place) :
    List String → Except FileFault (FileTree × Place)
| [] => .ok (tree, place)
| name :: rest =>
    match tree.enter place name with
    | .error fault => .error fault
    | .ok (tree, place) => tree.enterAll place rest

/- Write a file in a directory, through links. -/
def write
    (tree : FileTree)
    (place : Place)
    (name : String)
    (content : ByteArray) : Except FileFault FileTree :=
  match tree.walk wanted place [name] with
  | .error fault => .error fault
  | .ok next =>
      match tree.node? next with
      | some .directory => .error .isDirectory
      | _ => .ok (tree.put (.file content) next)

/- Make a link in a directory, under a new name. -/
def link
    (tree : FileTree)
    (place : Place)
    (name target : String) : Except FileFault FileTree :=
  match place.child? name with
  | none => .error .notFound
  | some next =>
      if (tree.node? next).isSome then .error .alreadyExists
      else .ok (tree.put (.link target) next)

/-
  Put something at a path. The directories above it are made
  where they are missing.
-/
def add
    (tree : FileTree)
    (path : String)
    (node : FileNode) : Except FileFault FileTree :=
  let names := Path.names path
  match pathFault? path, names.getLast? with
  | some fault, _ => .error fault
  | none, none => .error .isDirectory
  | none, some name =>
      match tree.enterAll (Place.top.start path)
          names.dropLast with
      | .error fault => .error fault
      | .ok (tree, place) =>
          match node with
          | .file content => tree.write place name content
          | .link target => tree.link place name target
          | .directory =>
              match tree.enter place name with
              | .error fault => .error fault
              | .ok (tree, _) => .ok tree

end FileTree

end KsqlBatch
