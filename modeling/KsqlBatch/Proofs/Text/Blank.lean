import Mathlib.Data.List.DropRight
import KsqlBatch.Text.Blank

/-
  This file says what is left of a text when a class of
  characters is removed from both of its ends.

  Key definitions include:
    * `Text.IsStripped`

  Key theorems include:
    * `Text.isStripped_strip`
    * `Text.strip_eq_self`
    * `Text.strip_eq_nil_iff`
-/

------------------------------------------------------------
-- Stripped Texts
------------------------------------------------------------

namespace KsqlBatch

namespace Text

/-
  A part of a text is what is left between characters of a
  class, and does not begin or end with one of them.
-/
structure IsStripped
    (inClass : Char → Bool)
    (cs kept : List Char) : Prop where
  around :
    ∃ before behind,
      cs = before ++ (kept ++ behind) ∧
        ∀ c ∈ before ++ behind, inClass c = true
  first : ∀ c ∈ kept.head?, inClass c = false
  last : ∀ c ∈ kept.getLast?, inClass c = false

variable {inClass : Char → Bool}

/- Stripping a text leaves its stripped part. -/
theorem isStripped_strip
    (inClass : Char → Bool)
    (cs : List Char) :
    IsStripped inClass cs (strip inClass cs) := by
  let front := cs.dropWhile inClass
  have hStrip :
      strip inClass cs = front.rdropWhile inClass := rfl
  have hFront :
      front.rdropWhile inClass ++ front.rtakeWhile inClass =
        front :=
    List.rdropWhile_append_rtakeWhile
  refine ⟨?_, ?_, ?_⟩
  · refine
      ⟨cs.takeWhile inClass, front.rtakeWhile inClass, ?_, ?_⟩
    · rw [hStrip, hFront]
      exact List.takeWhile_append_dropWhile.symm
    · intro c hChar
      rcases List.mem_append.mp hChar with hBefore | hBehind
      · exact List.mem_takeWhile_imp hBefore
      · exact List.mem_rtakeWhile_imp hBehind
  · -- The first character is the first one that is kept.
    intro c hHead
    have hFirst := List.head?_dropWhile_not inClass cs
    have hKept : front.head? = some c := by
      rw [← hFront, ← hStrip, List.head?_append,
        Option.mem_def.mp hHead, Option.some_or]
    rw [hKept] at hFirst
    exact hFirst
  · intro c hLast
    have hSome : front.rdropWhile inClass ≠ [] := by
      intro hNone
      rw [hStrip, hNone] at hLast
      cases hLast
    have hKept := List.rdropWhile_last_not inClass front hSome
    rw [hStrip, List.getLast?_eq_some_getLast hSome,
      Option.mem_def, Option.some.injEq] at hLast
    rw [hLast] at hKept
    exact Bool.eq_false_iff.mpr hKept

/- Nothing is dropped in front of a character that is kept. -/
theorem dropWhile_of_head?
    {cs : List Char}
    (hHead : ∀ c ∈ cs.head?, inClass c = false) :
    cs.dropWhile inClass = cs := by
  cases cs with
  | nil => rfl
  | cons c cs =>
      have hFirst : inClass c = false := hHead c rfl
      simp [hFirst]

/- A text with nothing to remove around it stays as it is. -/
theorem strip_eq_self
    {cs : List Char}
    (hFirst : ∀ c ∈ cs.head?, inClass c = false)
    (hLast : ∀ c ∈ cs.getLast?, inClass c = false) :
    strip inClass cs = cs := by
  rw [← List.head?_reverse] at hLast
  rw [strip, dropWhile_of_head? hFirst,
    dropWhile_of_head? hLast, List.reverse_reverse]

/- Nothing is left of a text of nothing else. -/
theorem strip_eq_nil_iff
    {cs : List Char} :
    strip inClass cs = [] ↔ ∀ c ∈ cs, inClass c = true := by
  constructor
  · intro hNone c hChar
    rcases (isStripped_strip inClass cs).around with
      ⟨before, behind, hSplit, hAround⟩
    rw [hNone, List.nil_append] at hSplit
    rw [hSplit] at hChar
    exact hAround c hChar
  · intro hAll
    rw [strip, List.dropWhile_eq_nil_iff.mpr hAll]
    rfl

/- White space is all there is to a text that vanishes. -/
theorem trimWhiteSpace_eq_empty_iff
    {s : String} :
    trimWhiteSpace s = "" ↔
      ∀ c ∈ s.toList, isWhiteSpace c = true := by
  rw [← strip_eq_nil_iff, ← String.toList_inj,
    trimWhiteSpace, toList_stripString]
  rfl

theorem isStripped_trimWhiteSpace
    (s : String) :
    IsStripped isWhiteSpace s.toList
      (trimWhiteSpace s).toList := by
  rw [trimWhiteSpace, toList_stripString]
  exact isStripped_strip isWhiteSpace s.toList

end Text

end KsqlBatch
