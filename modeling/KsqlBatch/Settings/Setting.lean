import KsqlBatch.Decimal.Binary64
import KsqlBatch.Keyed
import KsqlBatch.Settings.KeyPath

/-
  This file defines the tree in which settings are gathered
  and the rules by which later settings replace earlier
  ones. Tables are merged, everything else is replaced.

  Key definitions include:
    * `Scalar`
    * `Setting`
    * `Setting.merge`
    * `Setting.alter`
    * `Setting.set`
-/

------------------------------------------------------------
-- Trees
------------------------------------------------------------

namespace KsqlBatch

/- A single value. -/
inductive Scalar where
| nil
| bool (b : Bool)
| signed (n : Int)
| unsigned (n : Nat)
| real (x : Binary64)
| text (s : String)
deriving DecidableEq, Repr, Inhabited

/-
  A tree of values. A value knows where it came from, if
  that has a name; so does a table that was given as a whole.
  The names in a table ascend.
-/
inductive Setting where
| scalar (origin : Option String) (value : Scalar)
| table (origin : Option String)
    (entries : List (String × Setting))
| list (elements : List Setting)
deriving Inhabited

namespace Setting

/- A place that holds nothing. -/
def nil : Setting :=
  .scalar none .nil

/- A table without entries that was not given as a whole. -/
def emptyTable : Setting :=
  .table none []

/- The entries of a table; anything else has none. -/
def entries : Setting → List (String × Setting)
| .table _ entries => entries
| _ => []

/- Where a table came from; anything else goes with it. -/
def tableOrigin? : Setting → Option String
| .table origin _ => origin
| _ => none

/- The elements of a list; anything else has none. -/
def elements : Setting → List Setting
| .list elements => elements
| _ => []

/- The value under a name. -/
def get?
    (setting : Setting)
    (name : String) : Option Setting :=
  Keyed.find? name setting.entries

/- Put a value under a name; anything but a table goes. -/
def put
    (name : String)
    (value target : Setting) : Setting :=
  .table target.tableOrigin?
    (Keyed.insert name value target.entries)

end Setting

end KsqlBatch

------------------------------------------------------------
-- Merging
------------------------------------------------------------

namespace KsqlBatch

namespace Setting

mutual

/-
  Merge a value into what stands at its place. The entries of
  a table join those of the table that stands there.
-/
def merge
    (existing : Option Setting) :
    Setting → Setting
| .table _ entries =>
    mergeEntries (existing.getD emptyTable) entries
| value => value

/- Merge the entries of a table into another tree. -/
def mergeEntries
    (target : Setting) :
    List (String × Setting) → Setting
| [] => target
| (name, value) :: rest =>
    let name := Text.lowercase name
    mergeEntries
      (put name (merge (target.get? name) value) target) rest

end

/- Merge a value into the place under a name. -/
def mergeAt
    (name : String)
    (value target : Setting) : Setting :=
  put name (merge (target.get? name) value) target

end Setting

end KsqlBatch

------------------------------------------------------------
-- Paths
------------------------------------------------------------

namespace KsqlBatch

namespace Setting

/-
  The position of an element. Negative numbers count from
  the end.
-/
def position
    (number : Int)
    (length : Nat) : Nat :=
  if number < 0 then length - number.natAbs
  else number.toNat

/- A list with at least a number of elements. -/
def padded
    (elements : List Setting)
    (length : Nat) : List Setting :=
  elements ++ List.replicate (length - elements.length) nil

/- Change the place under a path. -/
def alter
    (change : Setting → Setting) :
    List KeyStep → Setting → Setting
| [], target => change target
| .name name :: steps, target =>
    put name
      (alter change steps ((target.get? name).getD nil))
      target
| .index number :: steps, target =>
    let i := position number target.elements.length
    let elements := padded target.elements (i + 1)
    .list
      (elements.set i
        (alter change steps (elements[i]?.getD nil)))

/-
  Set the value that a last step leads to. An element of a
  list is replaced as a whole.
-/
def setLast
    (step : KeyStep)
    (value target : Setting) : Setting :=
  match step with
  | .name name => mergeAt name value target
  | .index number =>
      let i := position number target.elements.length
      .list ((padded target.elements (i + 1)).set i value)

/- Set the value under a path. -/
def set
    (path : KeyPath)
    (value target : Setting) : Setting :=
  let steps := .name path.first :: path.steps
  match steps.getLast? with
  | none => target
  | some last =>
      alter (setLast last value) steps.dropLast target

/- Set the values under a number of keys. -/
def setAll
    (target : Setting)
    (values : List (String × Setting)) : Setting :=
  values.foldl
    (fun target (key, value) =>
      set (KeyPath.ofText key) value target)
    target

end Setting

end KsqlBatch
