import Mathlib.Data.List.Perm.Basic
import KsqlBatch.Keyed

/-
  This file says what is found among entries that are kept in
  the order of their keys, and that such entries do not
  depend on the order in which they were put in.

  Key theorems include:
    * `Keyed.find?_insert`
    * `Keyed.Sorted.find?_of_mem`
    * `Keyed.Sorted.eq_of_find?_eq`
    * `Keyed.perm_ofList`
    * `Keyed.ofList_eq_of_perm`
-/

------------------------------------------------------------
-- Finding
------------------------------------------------------------

namespace KsqlBatch

namespace Keyed

variable {β : Type}

/- Only the inserted key gets the inserted value. -/
theorem find?_insert
    (key other : String)
    (value : β)
    (entries : List (String × β)) :
    find? other (insert key value entries) =
      if other = key then some value
      else find? other entries := by
  induction entries with
  | nil => simp [insert, find?]
  | cons head rest ih =>
      rcases head with ⟨k, v⟩
      simp only [insert]
      split
      · simp [find?]
      · split
        · rename_i hKey
          subst hKey
          by_cases hOther : other = key
          · simp [find?, hOther]
          · simp [find?, hOther]
        · rename_i hKey
          by_cases hOther : other = k
          · subst hOther
            simp [find?, Ne.symm hKey]
          · simp [find?, hOther, ih]

theorem insert_ne_nil
    (key : String)
    (value : β)
    (entries : List (String × β)) :
    insert key value entries ≠ [] := by
  cases entries with
  | nil => exact List.cons_ne_nil _ _
  | cons head rest =>
      rw [insert]
      split
      · exact List.cons_ne_nil _ _
      · split <;> exact List.cons_ne_nil _ _

/- A key in front of all others is not found among them. -/
theorem find?_eq_none_of_lt
    {key : String}
    {entries : List (String × β)}
    (hLess : ∀ entry ∈ entries, key < entry.1) :
    find? key entries = none := by
  induction entries with
  | nil => rfl
  | cons head rest ih =>
      rw [List.forall_mem_cons] at hLess
      have hOther : key ≠ head.1 := by
        intro hSame
        rw [← hSame] at hLess
        exact String.lt_irrefl key hLess.1
      simp only [find?, if_neg hOther]
      exact ih hLess.2

/- What is found under a key is an entry. -/
theorem mem_of_find?_eq_some
    {key : String}
    {value : β}
    {entries : List (String × β)}
    (hFound : find? key entries = some value) :
    (key, value) ∈ entries := by
  induction entries with
  | nil => cases hFound
  | cons head rest ih =>
      rcases head with ⟨k, v⟩
      rw [find?] at hFound
      split at hFound
      · rename_i hKey
        cases hFound
        rw [hKey]
        exact List.mem_cons_self
      · exact List.mem_cons_of_mem _ (ih hFound)

/- A key that has an entry is found. -/
theorem exists_find?_of_mem
    {key : String}
    {value : β}
    {entries : List (String × β)}
    (hMember : (key, value) ∈ entries) :
    ∃ found, find? key entries = some found := by
  induction entries with
  | nil => cases hMember
  | cons head rest ih =>
      rw [find?]
      by_cases hKey : key = head.1
      · rw [if_pos hKey]
        exact ⟨head.2, rfl⟩
      · rw [if_neg hKey]
        rcases List.mem_cons.mp hMember with hFirst | hLater
        · rw [← hFirst] at hKey
          exact absurd rfl hKey
        · exact ih hLater

/- Leaving keys out hides nothing but them. -/
theorem find?_filter
    (key : String)
    (keeps : String → Bool)
    (entries : List (String × β)) :
    find? key (entries.filter fun entry => keeps entry.1) =
      if keeps key then find? key entries else none := by
  induction entries with
  | nil => simp [find?]
  | cons head rest ih =>
      rw [List.filter_cons]
      split
      · rename_i hHead
        rw [find?, find?, ih]
        by_cases hKey : key = head.1
        · rw [if_pos hKey, if_pos hKey, hKey, if_pos hHead]
        · rw [if_neg hKey, if_neg hKey]
      · rename_i hHead
        rw [ih, find?]
        by_cases hKey : key = head.1
        · rw [hKey, if_neg hHead, if_neg hHead]
        · rw [if_neg hKey]

end Keyed

end KsqlBatch

------------------------------------------------------------
-- Sorted Entries
------------------------------------------------------------

namespace KsqlBatch

namespace Keyed

variable {β : Type}

/- An entry is found if the keys are in order. -/
theorem Sorted.find?_of_mem
    {key : String}
    {value : β}
    {entries : List (String × β)}
    (hSorted : Sorted entries)
    (hMember : (key, value) ∈ entries) :
    find? key entries = some value := by
  induction entries with
  | nil => cases hMember
  | cons head rest ih =>
      rcases head with ⟨k, v⟩
      rcases List.pairwise_cons.mp hSorted with
        ⟨hHead, hRest⟩
      rw [find?]
      rcases List.mem_cons.mp hMember with hFirst | hLater
      · cases hFirst
        exact if_pos rfl
      · have hLess : k < key := hHead _ hLater
        rw [if_neg (String.ne_of_lt hLess).symm]
        exact ih hRest hLater

/-
  A key is found alike among entries in order and among
  others that say the same of it.
-/
theorem Sorted.find?_congr
    {key : String}
    {entries others : List (String × β)}
    (hSorted : Sorted others)
    (hSame :
      ∀ value,
        (key, value) ∈ entries ↔ (key, value) ∈ others) :
    find? key entries = find? key others := by
  cases hFound : find? key entries with
  | some value =>
      have hMember := mem_of_find?_eq_some hFound
      exact
        (hSorted.find?_of_mem ((hSame value).mp hMember)).symm
  | none =>
      cases hOther : find? key others with
      | none => rfl
      | some value =>
          have hMember := mem_of_find?_eq_some hOther
          rcases
            exists_find?_of_mem ((hSame value).mpr hMember)
            with ⟨found, hSome⟩
          rw [hSome] at hFound
          cases hFound

/-
  The smallest key of sorted entries is not smaller than the
  smallest key of others in which the same keys are found.
-/
theorem Sorted.not_lt_of_find?_eq
    {k l : String}
    {v w : β}
    {rest others : List (String × β)}
    (hSorted : Sorted ((l, w) :: others))
    (hSame :
      find? k ((k, v) :: rest) =
        find? k ((l, w) :: others)) :
    ¬ k < l := by
  intro hLess
  have hAhead :
      ∀ entry ∈ (l, w) :: others, k < entry.1 := by
    intro entry hEntry
    rcases List.mem_cons.mp hEntry with rfl | hEntry
    · exact hLess
    · exact
        String.lt_trans hLess
          ((List.pairwise_cons.mp hSorted).1 entry hEntry)
  rw [find?_eq_none_of_lt hAhead] at hSame
  simp [find?] at hSame

/- Sorted entries with the same values are the same. -/
theorem Sorted.eq_of_find?_eq
    {entries others : List (String × β)}
    (hEntries : Sorted entries)
    (hOthers : Sorted others)
    (hSame : ∀ key, find? key entries = find? key others) :
    entries = others := by
  induction entries generalizing others with
  | nil =>
      cases others with
      | nil => rfl
      | cons other others =>
          have hFirst := hSame other.1
          simp [find?] at hFirst
  | cons entry entries ih =>
      cases others with
      | nil =>
          have hFirst := hSame entry.1
          simp [find?] at hFirst
      | cons other others =>
          rcases entry with ⟨k, v⟩
          rcases other with ⟨l, w⟩
          have hKey : k = l :=
            eq_of_not_lt
              (hOthers.not_lt_of_find?_eq (hSame k))
              (hEntries.not_lt_of_find?_eq (hSame l).symm)
          subst hKey
          have hValue : v = w := by
            simpa [find?] using hSame k
          rcases List.pairwise_cons.mp hEntries with
            ⟨hAhead, hEntries⟩
          rcases List.pairwise_cons.mp hOthers with
            ⟨hOthersAhead, hOthers⟩
          have hRest : entries = others := by
            apply ih hEntries hOthers
            intro key
            by_cases hFirst : key = k
            · rw [hFirst, find?_eq_none_of_lt hAhead,
                find?_eq_none_of_lt hOthersAhead]
            · simpa [find?, hFirst] using hSame key
          rw [hValue, hRest]

/- A key behind all others is put at the end. -/
theorem insert_of_forall_lt
    {key : String}
    {entries : List (String × β)}
    (hBehind : ∀ entry ∈ entries, entry.1 < key)
    (value : β) :
    insert key value entries = entries ++ [(key, value)] := by
  induction entries with
  | nil => rfl
  | cons head rest ih =>
      rw [List.forall_mem_cons] at hBehind
      have hNotLess : ¬ key < head.1 :=
        fun hLess =>
          String.lt_irrefl key
            (String.lt_trans hLess hBehind.1)
      have hOther : key ≠ head.1 := by
        intro hSame
        rw [← hSame] at hBehind
        exact String.lt_irrefl key hBehind.1
      simp only [insert, if_neg hNotLess, if_neg hOther]
      rw [ih hBehind.2]
      rfl

/- Sorted entries that are put in one by one stay in order. -/
theorem foldl_insert_of_sorted
    {before entries : List (String × β)}
    (hSorted : Sorted (before ++ entries)) :
    entries.foldl
      (fun found entry => insert entry.1 entry.2 found)
      before = before ++ entries := by
  induction entries generalizing before with
  | nil => exact (List.append_nil before).symm
  | cons entry entries ih =>
      have hBehind : ∀ other ∈ before, other.1 < entry.1 := by
        intro other hOther
        exact
          (List.pairwise_append.mp hSorted).2.2 other hOther
            entry List.mem_cons_self
      rw [List.append_cons] at hSorted ⊢
      rw [List.foldl_cons, insert_of_forall_lt hBehind]
      exact ih hSorted

end Keyed

end KsqlBatch

------------------------------------------------------------
-- Orders of Insertion
------------------------------------------------------------

namespace KsqlBatch

namespace Keyed

variable {β : Type}

/- A new key is put between the others. -/
theorem perm_insert
    {key : String}
    {entries : List (String × β)}
    (hAbsent : key ∉ entries.map Prod.fst)
    (value : β) :
    (insert key value entries).Perm
      ((key, value) :: entries) := by
  induction entries with
  | nil => exact List.Perm.refl _
  | cons head rest ih =>
      rw [List.map_cons, List.mem_cons, not_or] at hAbsent
      rw [insert, if_neg hAbsent.1]
      split
      · exact List.Perm.refl _
      · exact
          ((ih hAbsent.2).cons head).trans
            (List.Perm.swap _ _ _)

/- Insertion after insertion keeps the keys in order. -/
theorem sorted_foldl_insert
    {before : List (String × β)}
    (hSorted : Sorted before)
    (pairs : List (String × β)) :
    Sorted
      (pairs.foldl
        (fun entries p => insert p.1 p.2 entries)
        before) := by
  induction pairs generalizing before with
  | nil => exact hSorted
  | cons pair pairs ih => exact ih (sorted_insert hSorted)

theorem sorted_ofList
    (pairs : List (String × β)) : Sorted (ofList pairs) :=
  sorted_foldl_insert List.Pairwise.nil pairs

/- Pairs with keys of their own are all put in. -/
theorem perm_foldl_insert
    {before pairs : List (String × β)}
    (hDistinct :
      ((before ++ pairs).map Prod.fst).Nodup) :
    (pairs.foldl
        (fun entries p => insert p.1 p.2 entries)
        before).Perm (before ++ pairs) := by
  induction pairs generalizing before with
  | nil => rw [List.append_nil, List.foldl_nil]
  | cons pair pairs ih =>
      have hMiddle :
          (before ++ pair :: pairs).Perm
            (pair :: before ++ pairs) :=
        List.perm_middle
      have hNodup :
          ((pair :: before ++ pairs).map Prod.fst).Nodup :=
        (hMiddle.map Prod.fst).nodup_iff.mp hDistinct
      have hAbsent : pair.1 ∉ before.map Prod.fst := by
        rw [List.cons_append, List.map_cons,
          List.nodup_cons, List.map_append,
          List.mem_append, not_or] at hNodup
        exact hNodup.1.1
      have hInsert :
          (insert pair.1 pair.2 before ++ pairs).Perm
            (pair :: before ++ pairs) :=
        (perm_insert hAbsent pair.2).append_right pairs
      have hLater :=
        (hInsert.map Prod.fst).nodup_iff.mpr hNodup
      exact
        (ih hLater).trans (hInsert.trans hMiddle.symm)

theorem perm_ofList
    {pairs : List (String × β)}
    (hDistinct : (pairs.map Prod.fst).Nodup) :
    (ofList pairs).Perm pairs :=
  perm_foldl_insert hDistinct

/- There is one order for entries with the same members. -/
theorem Sorted.eq_of_perm
    {entries others : List (String × β)}
    (hEntries : Sorted entries)
    (hOthers : Sorted others)
    (hPerm : entries.Perm others) :
    entries = others := by
  refine hPerm.eq_of_pairwise ?_ hEntries hOthers
  intro entry other _ _ hLess hMore
  exact absurd hMore (String.lt_asymm hLess)

/- Pairs may be put in in any order. -/
theorem ofList_eq_of_perm
    {pairs others : List (String × β)}
    (hPerm : pairs.Perm others)
    (hDistinct : (pairs.map Prod.fst).Nodup) :
    ofList pairs = ofList others := by
  have hOthers : (others.map Prod.fst).Nodup :=
    (hPerm.map Prod.fst).nodup_iff.mp hDistinct
  have hSame : (ofList pairs).Perm (ofList others) :=
    ((perm_ofList hDistinct).trans hPerm).trans
      (perm_ofList hOthers).symm
  exact
    (sorted_ofList pairs).eq_of_perm (sorted_ofList others)
      hSame

end Keyed

end KsqlBatch
