import KsqlBatch.Json.Value
import KsqlBatch.Keyed

/-
  This file defines the session properties, a map from keys
  to values that is listed in ascending order of the keys.

  Key definitions include:
    * `PropertyMap`
    * `PropertyMap.insert`
    * `PropertyMap.exchange`
    * `PropertyMap.get?`
    * `PropertyMap.ofList`
    * `PropertyMap.toJson`
-/

------------------------------------------------------------
-- Property Maps
------------------------------------------------------------

namespace KsqlBatch

/- Session properties, with their keys in ascending order. -/
@[ext]
structure PropertyMap where
  entries : List (String × String)
  sorted : Keyed.Sorted entries
deriving DecidableEq

namespace PropertyMap

/- The map without properties. -/
def empty : PropertyMap where
  entries := []
  sorted := List.Pairwise.nil

instance : Inhabited PropertyMap where
  default := empty

/- Set a property, in place of an earlier value. -/
def insert
    (properties : PropertyMap)
    (key value : String) : PropertyMap where
  entries := Keyed.insert key value properties.entries
  sorted := Keyed.sorted_insert properties.sorted

/- Set a property and give back its earlier value. -/
def exchange
    (properties : PropertyMap)
    (key value : String) : Option String × PropertyMap where
  fst := (Keyed.exchange key value properties.entries).1
  snd :=
    { entries :=
        (Keyed.exchange key value properties.entries).2
      sorted := by
        rw [Keyed.snd_exchange]
        exact Keyed.sorted_insert properties.sorted }

/- The value of a property. -/
def get?
    (properties : PropertyMap)
    (key : String) : Option String :=
  Keyed.find? key properties.entries

/- The number of properties. -/
def size
    (properties : PropertyMap) : Nat :=
  properties.entries.length

/- No property is set. -/
def isEmpty
    (properties : PropertyMap) : Bool :=
  properties.entries.isEmpty

/- The properties in a list of pairs; later pairs win. -/
def ofList
    (pairs : List (String × String)) : PropertyMap :=
  pairs.foldl
    (fun properties p => properties.insert p.1 p.2) empty

/- The properties as a JSON object. -/
def toJson
    (properties : PropertyMap) : Json :=
  .object
    (properties.entries.map fun (key, value) =>
      (key, .string value))

end PropertyMap

end KsqlBatch
