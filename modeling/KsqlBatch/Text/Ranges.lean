/-
  This file looks numbers up in tables of ranges. The ranges
  of a table ascend and do not overlap. All tables of
  characters follow version 17 of Unicode.

  Key definitions include:
    * `inRanges`
-/

------------------------------------------------------------
-- Lookup
------------------------------------------------------------

namespace KsqlBatch

namespace Text

/- A number lies in a range of an ascending table. -/
def inRanges
    (n : Nat) :
    List (Nat × Nat) → Bool
| [] => false
| (first, last) :: rest =>
    if n < first then false
    else if n ≤ last then true
    else inRanges n rest

/- A number that is found lies between two bounds. -/
theorem exists_range_of_inRanges
    {n : Nat}
    {table : List (Nat × Nat)}
    (hFound : inRanges n table = true) :
    ∃ range ∈ table, range.1 ≤ n ∧ n ≤ range.2 := by
  induction table with
  | nil => simp [inRanges] at hFound
  | cons range rest ih =>
      rcases range with ⟨first, last⟩
      simp only [inRanges] at hFound
      split at hFound
      · exact absurd hFound (by simp)
      · rename_i hFirst
        split at hFound
        · rename_i hLast
          exact ⟨(first, last), List.mem_cons_self,
            Nat.not_lt.mp hFirst, hLast⟩
        · rcases ih hFound with ⟨range, hMember, hBounds⟩
          exact ⟨range, List.mem_cons_of_mem _ hMember,
            hBounds⟩

end Text

end KsqlBatch
