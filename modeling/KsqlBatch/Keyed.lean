/-
  This file defines association lists that are kept in
  strictly ascending order of their string keys. Strings are
  compared character by character, which is also the order
  of their UTF-8 bytes.

  Key definitions include:
    * `Keyed.insert`
    * `Keyed.find?`
    * `Keyed.Sorted`
    * `Keyed.sorted_insert`
-/

------------------------------------------------------------
-- Operations
------------------------------------------------------------

namespace KsqlBatch

namespace Keyed

variable {β : Type}

/- Put a value under a key, in place of an earlier one. -/
def insert
    (key : String)
    (value : β) :
    List (String × β) → List (String × β)
| [] => [(key, value)]
| (k, v) :: rest =>
    if key < k then (key, value) :: (k, v) :: rest
    else if key = k then (key, value) :: rest
    else (k, v) :: insert key value rest

/- The value under a key. -/
def find?
    (key : String) :
    List (String × β) → Option β
| [] => none
| (k, v) :: rest =>
    if key = k then some v else find? key rest

/- The entries of a list of pairs; later pairs win. -/
def ofList
    (pairs : List (String × β)) : List (String × β) :=
  pairs.foldl (fun entries p => insert p.1 p.2 entries) []

/- The keys ascend strictly. -/
def Sorted
    (entries : List (String × β)) : Prop :=
  entries.Pairwise (fun a b => a.1 < b.1)

end Keyed

end KsqlBatch

------------------------------------------------------------
-- Order
------------------------------------------------------------

namespace KsqlBatch

namespace Keyed

variable {β : Type}

/- Two keys that are not ordered either way are equal. -/
theorem eq_of_not_lt
    {a b : String}
    (hNotLess : ¬ a < b)
    (hNotMore : ¬ b < a) :
    a = b :=
  String.le_antisymm
    (String.not_lt.mp hNotMore) (String.not_lt.mp hNotLess)

/- An entry after an insertion is the new one or an old one. -/
theorem eq_or_mem_of_mem_insert
    {key : String}
    {value : β}
    {entries : List (String × β)}
    {entry : String × β}
    (hMember : entry ∈ insert key value entries) :
    entry = (key, value) ∨ entry ∈ entries := by
  induction entries with
  | nil => exact Or.inl (List.mem_singleton.mp hMember)
  | cons head rest ih =>
      rcases head with ⟨k, v⟩
      simp only [insert] at hMember
      split at hMember
      · exact List.mem_cons.mp hMember
      · split at hMember
        · rcases List.mem_cons.mp hMember with hNew | hOld
          · exact Or.inl hNew
          · exact Or.inr (List.mem_cons_of_mem _ hOld)
        · rcases List.mem_cons.mp hMember with rfl | hRest
          · exact Or.inr List.mem_cons_self
          · rcases ih hRest with hNew | hOld
            · exact Or.inl hNew
            · exact Or.inr (List.mem_cons_of_mem _ hOld)

/- Insertion keeps the keys in order. -/
theorem sorted_insert
    {key : String}
    {value : β}
    {entries : List (String × β)}
    (hSorted : Sorted entries) :
    Sorted (insert key value entries) := by
  induction entries with
  | nil => exact List.pairwise_singleton _ _
  | cons head rest ih =>
      rcases head with ⟨k, v⟩
      rcases List.pairwise_cons.mp hSorted with
        ⟨hHead, hRest⟩
      simp only [insert]
      split
      · rename_i hLess
        refine List.pairwise_cons.mpr ⟨?_, hSorted⟩
        intro entry hEntry
        rcases List.mem_cons.mp hEntry with rfl | hEntry
        · exact hLess
        · exact String.lt_trans hLess (hHead entry hEntry)
      · rename_i hNotLess
        split
        · rename_i hEqual
          subst hEqual
          exact List.pairwise_cons.mpr ⟨hHead, hRest⟩
        · rename_i hNotEqual
          refine List.pairwise_cons.mpr ⟨?_, ih hRest⟩
          intro entry hEntry
          rcases eq_or_mem_of_mem_insert hEntry with
            rfl | hOld
          · by_cases hMore : k < key
            · exact hMore
            · exact absurd
                (eq_of_not_lt hNotLess hMore) hNotEqual
          · exact hHead entry hOld

end Keyed

end KsqlBatch

------------------------------------------------------------
-- Exchange
------------------------------------------------------------

namespace KsqlBatch

namespace Keyed

variable {β : Type}

/-
  Put a value under a key and give back the one that it
  replaces.
-/
def exchange
    (key : String)
    (value : β) :
    List (String × β) → Option β × List (String × β)
| [] => (none, [(key, value)])
| (k, v) :: rest =>
    if key < k then (none, (key, value) :: (k, v) :: rest)
    else if key = k then (some v, (key, value) :: rest)
    else
      match exchange key value rest with
      | (previous, rest) => (previous, (k, v) :: rest)

/- An exchange puts the value in its place. -/
theorem snd_exchange
    (key : String)
    (value : β)
    (entries : List (String × β)) :
    (exchange key value entries).2 =
      insert key value entries := by
  induction entries with
  | nil => rfl
  | cons head rest ih =>
      rcases head with ⟨k, v⟩
      simp only [exchange, insert]
      split
      · rfl
      · split
        · rfl
        · rw [ih]

end Keyed

end KsqlBatch
