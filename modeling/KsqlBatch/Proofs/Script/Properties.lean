import KsqlBatch.Script.Directive
import KsqlBatch.Script.PropertyMap
import KsqlBatch.Proofs.Keyed

/-
  This file says which value a property has after some
  directives: the one of the last directive for its key.
  Properties are equal if all their values are.

  Key definitions include:
    * `PropertyMap.apply`
    * `PropertyMap.applyAll`
    * `PropertyMap.overwrite`
    * `PropertyMap.KeysIn`

  Key theorems include:
    * `PropertyMap.get?_insert`
    * `PropertyMap.ext_get?`
    * `PropertyMap.get?_applyAll`
    * `PropertyMap.get?_overwrite`
-/

------------------------------------------------------------
-- Values
------------------------------------------------------------

namespace KsqlBatch

namespace PropertyMap

theorem get?_insert
    (properties : PropertyMap)
    (key other value : String) :
    (properties.insert key value).get? other =
      if other = key then some value
      else properties.get? other :=
  Keyed.find?_insert key other value properties.entries

/- Properties with the same values are the same. -/
theorem ext_get?
    {properties others : PropertyMap}
    (hSame :
      ∀ key, properties.get? key = others.get? key) :
    properties = others := by
  apply PropertyMap.ext
  exact properties.sorted.eq_of_find?_eq others.sorted hSame

end PropertyMap

end KsqlBatch

------------------------------------------------------------
-- Directives
------------------------------------------------------------

namespace KsqlBatch

namespace PropertyMap

/- Set the property of a directive. -/
def apply
    (properties : PropertyMap)
    (directive : Script.Directive) : PropertyMap :=
  properties.insert directive.key directive.value

/- Set the properties of directives one after the other. -/
def applyAll
    (properties : PropertyMap)
    (directives : List Script.Directive) : PropertyMap :=
  directives.foldl apply properties

@[simp] theorem applyAll_nil
    (properties : PropertyMap) :
    properties.applyAll [] = properties := rfl

@[simp] theorem applyAll_cons
    (properties : PropertyMap)
    (directive : Script.Directive)
    (directives : List Script.Directive) :
    properties.applyAll (directive :: directives) =
      (properties.insert directive.key
        directive.value).applyAll directives := rfl

@[simp] theorem applyAll_append
    (properties : PropertyMap)
    (directives later : List Script.Directive) :
    properties.applyAll (directives ++ later) =
      (properties.applyAll directives).applyAll later :=
  List.foldl_append

/- The last directive for a key decides about its value. -/
theorem get?_applyAll
    (properties : PropertyMap)
    (directives : List Script.Directive)
    (key : String) :
    (properties.applyAll directives).get? key =
      match directives.reverse.find? (·.key = key) with
      | some directive => some directive.value
      | none => properties.get? key := by
  induction directives generalizing properties with
  | nil => rfl
  | cons directive directives ih =>
      rw [applyAll_cons, ih, List.reverse_cons,
        List.find?_append]
      cases directives.reverse.find? (·.key = key) with
      | some found => rfl
      | none =>
          by_cases hKey : directive.key = key
          · simp [get?_insert, hKey]
          · simp [get?_insert, hKey, Ne.symm hKey]

end PropertyMap

end KsqlBatch

------------------------------------------------------------
-- Layers
------------------------------------------------------------

namespace KsqlBatch

namespace PropertyMap

/- Set the properties of a second map over those of a first. -/
def overwrite
    (below above : PropertyMap) : PropertyMap :=
  above.entries.foldl
    (fun properties entry =>
      properties.insert entry.1 entry.2)
    below

/- Entries that are set in order are found before others. -/
theorem get?_foldl_insert
    {entries : List (String × String)}
    (hSorted : Keyed.Sorted entries)
    (below : PropertyMap)
    (key : String) :
    (entries.foldl
      (fun properties entry =>
        properties.insert entry.1 entry.2)
      below).get? key =
      (Keyed.find? key entries).or (below.get? key) := by
  induction entries generalizing below with
  | nil => rfl
  | cons entry rest ih =>
      rcases List.pairwise_cons.mp hSorted with
        ⟨hAhead, hRest⟩
      rw [List.foldl_cons, ih hRest, get?_insert]
      by_cases hFirst : key = entry.1
      · rw [← hFirst] at hAhead
        simp [Keyed.find?, hFirst,
          hFirst ▸ Keyed.find?_eq_none_of_lt hAhead]
      · simp [Keyed.find?, hFirst]

/- A value comes from the upper map if it has one. -/
theorem get?_overwrite
    (below above : PropertyMap)
    (key : String) :
    (below.overwrite above).get? key =
      (above.get? key).or (below.get? key) :=
  get?_foldl_insert above.sorted below key

@[simp] theorem overwrite_empty
    (below : PropertyMap) :
    below.overwrite empty = below := rfl

@[simp] theorem empty_overwrite
    (above : PropertyMap) :
    empty.overwrite above = above := by
  apply ext_get?
  intro key
  rw [get?_overwrite]
  exact Option.or_none

/- A property may as well be set on top of both maps. -/
theorem overwrite_insert
    (below above : PropertyMap)
    (key value : String) :
    below.overwrite (above.insert key value) =
      (below.overwrite above).insert key value := by
  apply ext_get?
  intro other
  rw [get?_overwrite, get?_insert, get?_insert,
    get?_overwrite]
  by_cases hSame : other = key
  · simp [hSame]
  · simp [hSame]

end PropertyMap

end KsqlBatch

------------------------------------------------------------
-- Keys
------------------------------------------------------------

namespace KsqlBatch

namespace PropertyMap

/- Each property that is set is set in the others too. -/
def KeysIn
    (properties others : PropertyMap) : Prop :=
  ∀ key,
    (properties.get? key).isSome = true →
    (others.get? key).isSome = true

variable {properties others last : PropertyMap}

theorem KeysIn.refl
    (properties : PropertyMap) :
    properties.KeysIn properties :=
  fun _ hSet => hSet

theorem KeysIn.trans
    (hFirst : properties.KeysIn others)
    (hSecond : others.KeysIn last) :
    properties.KeysIn last :=
  fun key hSet => hSecond key (hFirst key hSet)

/- Setting a property does not unset another one. -/
theorem keysIn_insert
    (properties : PropertyMap)
    (key value : String) :
    properties.KeysIn (properties.insert key value) := by
  intro other hSet
  rw [get?_insert]
  by_cases hSame : other = key
  · simp [hSame]
  · simpa [hSame] using hSet

end PropertyMap

end KsqlBatch
