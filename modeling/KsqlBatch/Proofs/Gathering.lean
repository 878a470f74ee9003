import Mathlib.Data.List.Basic
import KsqlBatch.Proofs.Keyed

/-
  This file gathers pairs in bulk: they are sorted by their
  keys, and of neighbours with the same key the last one is
  kept. This comes to the same as putting the pairs in one by
  one.

  Key definitions include:
    * `Keyed.keepLast`
    * `Keyed.gather`

  Key theorems include:
    * `Keyed.find?_ofList`
    * `Keyed.find?_reverse_eq_some_iff`
    * `Keyed.gather_eq_ofList`
-/

------------------------------------------------------------
-- Finding in Parts
------------------------------------------------------------

namespace KsqlBatch

namespace Keyed

variable {β : Type}

/- What is in front is found first. -/
theorem find?_append
    (key : String)
    (entries others : List (String × β)) :
    find? key (entries ++ others) =
      (find? key entries).or (find? key others) := by
  induction entries with
  | nil => rfl
  | cons head rest ih =>
      rw [List.cons_append, find?, find?]
      by_cases hKey : key = head.1
      · rw [if_pos hKey, if_pos hKey]
        rfl
      · rw [if_neg hKey, if_neg hKey, ih]

/- A key is found unless no entry has it. -/
theorem find?_eq_none_iff
    {key : String}
    {entries : List (String × β)} :
    find? key entries = none ↔
      key ∉ entries.map Prod.fst := by
  constructor
  · intro hNone hMember
    rcases List.mem_map.mp hMember with ⟨entry, hEntry, rfl⟩
    rcases exists_find?_of_mem hEntry with ⟨found, hFound⟩
    rw [hFound] at hNone
    cases hNone
  · intro hAbsent
    cases hFound : find? key entries with
    | none => rfl
    | some value =>
        have hEntry := mem_of_find?_eq_some hFound
        have hKey := List.mem_map_of_mem (f := Prod.fst) hEntry
        exact absurd hKey hAbsent

end Keyed

end KsqlBatch

------------------------------------------------------------
-- Last Values
------------------------------------------------------------

namespace KsqlBatch

namespace Keyed

variable {β : Type}

/- Pairs that are put in leave the others in place. -/
theorem find?_foldl_insert
    (key : String)
    (pairs before : List (String × β)) :
    find? key
        (pairs.foldl
          (fun entries p => insert p.1 p.2 entries)
          before) =
      (find? key pairs.reverse).or (find? key before) := by
  induction pairs generalizing before with
  | nil => rfl
  | cons pair pairs ih =>
      rw [List.foldl_cons, ih, find?_insert, List.reverse_cons,
        find?_append, Option.or_assoc]
      by_cases hKey : key = pair.1
      · simp [find?, hKey]
      · simp [find?, hKey]

/- The value of a key is the one that was put in last. -/
theorem find?_ofList
    (key : String)
    (pairs : List (String × β)) :
    find? key (ofList pairs) = find? key pairs.reverse := by
  unfold ofList
  rw [find?_foldl_insert]
  exact Option.or_none

/- What is found from behind has no later entry for its key. -/
theorem find?_reverse_eq_some_iff
    {key : String}
    {value : β}
    {pairs : List (String × β)} :
    find? key pairs.reverse = some value ↔
      ∃ before later,
        pairs = before ++ (key, value) :: later ∧
        key ∉ later.map Prod.fst := by
  constructor
  · intro hFound
    induction pairs with
    | nil => cases hFound
    | cons pair pairs ih =>
        rw [List.reverse_cons, find?_append] at hFound
        cases hLater : find? key pairs.reverse with
        | some last =>
            rw [hLater] at hFound
            cases hFound
            rcases ih hLater with
              ⟨before, later, rfl, hAbsent⟩
            exact ⟨pair :: before, later, rfl, hAbsent⟩
        | none =>
            rw [hLater, Option.none_or] at hFound
            have hMember := mem_of_find?_eq_some hFound
            rw [List.mem_singleton] at hMember
            rw [find?_eq_none_iff, List.map_reverse,
              List.mem_reverse] at hLater
            rw [← hMember]
            exact ⟨[], pairs, rfl, hLater⟩
  · rintro ⟨before, later, rfl, hAbsent⟩
    have hLater : find? key later.reverse = none := by
      rw [find?_eq_none_iff, List.map_reverse,
        List.mem_reverse]
      exact hAbsent
    rw [List.reverse_append, List.reverse_cons, find?_append,
      find?_append, hLater]
    simp [find?]

end Keyed

end KsqlBatch

------------------------------------------------------------
-- Neighbours
------------------------------------------------------------

namespace KsqlBatch

namespace Keyed

variable {β : Type}

/- The keys ascend, but neighbours may share one. -/
def Ascending
    (pairs : List (String × β)) : Prop :=
  pairs.Pairwise (fun a b => a.1 ≤ b.1)

/- Keep the last one of neighbours that share a key. -/
def keepLast :
    List (String × β) → List (String × β)
| [] => []
| pair :: rest =>
    if rest.head?.map Prod.fst = some pair.1 then
      keepLast rest
    else pair :: keepLast rest

theorem keepLast_sublist
    (pairs : List (String × β)) :
    (keepLast pairs).Sublist pairs := by
  induction pairs with
  | nil => exact List.Sublist.refl []
  | cons pair rest ih =>
      rw [keepLast]
      split
      · exact ih.cons pair
      · exact ih.cons_cons pair

/- A key that the next pair does not share is in front. -/
theorem Ascending.lt_of_head?_ne
    {pair : String × β}
    {rest : List (String × β)}
    (hAscending : Ascending (pair :: rest))
    (hNext : rest.head?.map Prod.fst ≠ some pair.1) :
    ∀ other ∈ rest, pair.1 < other.1 := by
  cases rest with
  | nil => exact fun _ hOther => absurd hOther List.not_mem_nil
  | cons next rest =>
      rcases List.pairwise_cons.mp hAscending with
        ⟨hAhead, hRest⟩
      rcases List.pairwise_cons.mp hRest with ⟨hLater, _⟩
      have hLess : pair.1 < next.1 := by
        apply String.not_le.mp
        intro hMore
        apply hNext
        rw [List.head?_cons, Option.map_some,
          String.le_antisymm hMore
            (hAhead next List.mem_cons_self)]
      intro other hOther
      rcases List.mem_cons.mp hOther with rfl | hOther
      · exact hLess
      · exact
          String.not_le.mp fun hMore =>
            absurd (String.le_trans (hLater other hOther) hMore)
              (String.not_le.mpr hLess)

/- With one pair for each key the keys ascend strictly. -/
theorem Ascending.sorted_keepLast
    {pairs : List (String × β)}
    (hAscending : Ascending pairs) :
    Sorted (keepLast pairs) := by
  induction pairs with
  | nil => exact List.Pairwise.nil
  | cons pair rest ih =>
      have hRest := ih (List.pairwise_cons.mp hAscending).2
      rw [keepLast]
      split
      · exact hRest
      · rename_i hNext
        refine List.pairwise_cons.mpr ⟨?_, hRest⟩
        intro other hOther
        exact
          hAscending.lt_of_head?_ne hNext other
            ((keepLast_sublist rest).subset hOther)

/- The pair that is kept for a key is its last one. -/
theorem Ascending.find?_keepLast
    {pairs : List (String × β)}
    (hAscending : Ascending pairs)
    (key : String) :
    find? key (keepLast pairs) = find? key pairs.reverse := by
  induction pairs with
  | nil => rfl
  | cons pair rest ih =>
      have hKept := ih (List.pairwise_cons.mp hAscending).2
      rw [keepLast, List.reverse_cons, find?_append, ← hKept]
      split
      · rename_i hNext
        by_cases hKey : key = pair.1
        · have hMember : key ∈ rest.map Prod.fst := by
            rw [hKey]
            apply List.mem_of_mem_head?
            rw [List.head?_map]
            exact hNext
          have hFound : find? key (keepLast rest) ≠ none := by
            rw [hKept, Ne, find?_eq_none_iff,
              List.map_reverse, List.mem_reverse]
            exact not_not_intro hMember
          rcases Option.ne_none_iff_exists'.mp hFound with
            ⟨value, hValue⟩
          rw [hValue, Option.some_or]
        · simp [find?, hKey]
      · rename_i hNext
        have hAhead := hAscending.lt_of_head?_ne hNext
        rw [find?]
        by_cases hKey : key = pair.1
        · have hNone : find? key (keepLast rest) = none := by
            apply find?_eq_none_of_lt
            intro other hOther
            rw [hKey]
            exact
              hAhead other
                ((keepLast_sublist rest).subset hOther)
          rw [hNone, if_pos hKey]
          simp [find?, hKey]
        · simp [find?, hKey]

end Keyed

end KsqlBatch

------------------------------------------------------------
-- Sorting
------------------------------------------------------------

namespace KsqlBatch

namespace Keyed

variable {β : Type}

/- The pair may stand in front of the other one. -/
def mayPrecede
    (pair other : String × β) : Bool :=
  pair.1 ≤ other.1

theorem mayPrecede_trans
    (a b c : String × β)
    (hFirst : mayPrecede a b = true)
    (hSecond : mayPrecede b c = true) :
    mayPrecede a c = true :=
  decide_eq_true
    (String.le_trans (of_decide_eq_true hFirst)
      (of_decide_eq_true hSecond))

theorem mayPrecede_total
    (a b : String × β) :
    (mayPrecede a b || mayPrecede b a) = true := by
  rw [Bool.or_eq_true]
  exact
    (String.le_total a.1 b.1).imp decide_eq_true
      decide_eq_true

theorem ascending_mergeSort
    (pairs : List (String × β)) :
    Ascending (pairs.mergeSort mayPrecede) :=
  (List.pairwise_mergeSort mayPrecede_trans mayPrecede_total
    pairs).imp of_decide_eq_true

/- Sorting leaves the pairs for one key in their order. -/
theorem filter_mergeSort
    (key : String)
    (pairs : List (String × β)) :
    (pairs.mergeSort mayPrecede).filter (fun p => p.1 = key) =
      pairs.filter (fun p => p.1 = key) := by
  let ofKey := fun pair : String × β => decide (pair.1 = key)
  have hSame :
      (pairs.filter ofKey).Pairwise
        (fun a b => mayPrecede a b = true) := by
    rw [List.pairwise_filter]
    apply List.pairwise_of_forall
    intro a b hFirst hSecond
    apply decide_eq_true
    have hKeys : a.1 = b.1 :=
      (of_decide_eq_true hFirst).trans
        (of_decide_eq_true hSecond).symm
    exact hKeys ▸ String.le_refl a.1
  have hSublist :
      (pairs.filter ofKey).Sublist
        (pairs.mergeSort mayPrecede) :=
    List.sublist_mergeSort mayPrecede_trans mayPrecede_total
      hSame List.filter_sublist
  have hFiltered := hSublist.filter ofKey
  rw [List.filter_filter] at hFiltered
  simp only [Bool.and_self] at hFiltered
  have hLength :=
    ((List.mergeSort_perm pairs mayPrecede).filter
      ofKey).length_eq
  exact (hFiltered.eq_of_length hLength.symm).symm

/- A key is found among its own pairs. -/
theorem find?_eq_find?_filter
    (key : String)
    (entries : List (String × β)) :
    find? key entries =
      find? key (entries.filter fun p => p.1 = key) := by
  have hFilter :=
    find?_filter key (fun other => decide (other = key))
      entries
  rw [if_pos (decide_eq_true rfl)] at hFilter
  exact hFilter.symm

theorem find?_reverse_mergeSort
    (key : String)
    (pairs : List (String × β)) :
    find? key (pairs.mergeSort mayPrecede).reverse =
      find? key pairs.reverse := by
  rw [find?_eq_find?_filter, List.filter_reverse,
    filter_mergeSort, ← List.filter_reverse,
    ← find?_eq_find?_filter]

/-
  Sort pairs by their keys and keep the last one for each
  key.
-/
def gather
    (pairs : List (String × β)) : List (String × β) :=
  keepLast (pairs.mergeSort mayPrecede)

theorem sorted_gather
    (pairs : List (String × β)) : Sorted (gather pairs) :=
  (ascending_mergeSort pairs).sorted_keepLast

/- Pairs may be gathered or put in one by one. -/
theorem gather_eq_ofList
    (pairs : List (String × β)) :
    gather pairs = ofList pairs := by
  apply (sorted_gather pairs).eq_of_find?_eq
    (sorted_ofList pairs)
  intro key
  unfold gather
  rw [(ascending_mergeSort pairs).find?_keepLast,
    find?_reverse_mergeSort, find?_ofList]

end Keyed

end KsqlBatch
