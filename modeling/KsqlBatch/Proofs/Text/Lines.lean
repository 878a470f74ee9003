import KsqlBatch.Text.Lines

/-
  This file says how the lines of a text come from those of
  its parts: a text that is cut behind the end of a line has
  the lines of both parts, one after the other.

  Key definitions include:
    * `Text.IsLine`
    * `Text.EndsLine`
    * `Text.Straddles`

  Key theorems include:
    * `Text.isLine_of_mem_splitLines`
    * `Text.splitLines_append`
    * `Text.splitLines_append_lineFeed`
-/

------------------------------------------------------------
-- Joints
------------------------------------------------------------

namespace KsqlBatch

namespace Text

/- No character of a text ends a line. -/
def IsLine
    (cs : List Char) : Prop :=
  '\n' ∉ cs ∧ '\r' ∉ cs

instance
    (cs : List Char) :
    Decidable (IsLine cs) := by
  unfold IsLine
  infer_instance

/- A text is empty, or a line ends where the text ends. -/
def EndsLine
    (cs : List Char) : Prop :=
  cs = [] ∨ cs.getLast? = some '\n' ∨
    cs.getLast? = some '\r'

instance
    (cs : List Char) :
    Decidable (EndsLine cs) := by
  unfold EndsLine
  infer_instance

/- One line end lies partly in each of two texts. -/
def Straddles
    (first second : List Char) : Prop :=
  first.getLast? = some '\r' ∧ second.head? = some '\n'

instance
    (first second : List Char) :
    Decidable (Straddles first second) := by
  unfold Straddles
  infer_instance

end Text

end KsqlBatch

------------------------------------------------------------
-- Single Lines
------------------------------------------------------------

namespace KsqlBatch

namespace Text

/- The ends of lines belong to no line. -/
theorem isLine_of_mem_splitLines
    {cs line : List Char}
    (hLine : line ∈ splitLines cs) :
    IsLine line := by
  have hEmpty : IsLine [] := by decide
  induction cs generalizing line with
  | nil => cases hLine
  | cons c cs ih =>
      rw [splitLines_cons] at hLine
      simp only [addToLines] at hLine
      split at hLine
      · rcases List.mem_cons.mp hLine with rfl | hLater
        · exact hEmpty
        · exact ih hLater
      rename_i hFeed
      split at hLine
      · split at hLine
        · exact ih hLine
        · rcases List.mem_cons.mp hLine with rfl | hLater
          · exact hEmpty
          · exact ih hLater
      rename_i hReturn
      -- The character is put in front of the first line.
      have hLonger :
          ∀ first, IsLine first → IsLine (c :: first) := by
        rintro first ⟨hNoFeed, hNoReturn⟩
        simp only [IsLine, List.mem_cons, not_or]
        exact
          ⟨⟨Ne.symm hFeed, hNoFeed⟩, Ne.symm hReturn,
            hNoReturn⟩
      cases hLines : splitLines cs with
      | nil =>
          simp only [hLines, List.mem_singleton] at hLine
          rw [hLine]
          exact hLonger [] hEmpty
      | cons first later =>
          rw [hLines] at ih
          simp only [hLines] at hLine
          rcases List.mem_cons.mp hLine with rfl | hLater
          · exact hLonger first (ih List.mem_cons_self)
          · exact ih (List.mem_cons_of_mem _ hLater)

end Text

end KsqlBatch

------------------------------------------------------------
-- Appending
------------------------------------------------------------

namespace KsqlBatch

namespace Text

/- Only the first of some lines takes a further character. -/
theorem addToLines_append
    (c : Char)
    (ahead : Option Char)
    (later : List (List Char))
    {lines : List (List Char)}
    (hLines : lines ≠ []) :
    (addToLines c (ahead, lines ++ later)).2 =
      (addToLines c (ahead, lines)).2 ++ later := by
  rcases List.exists_cons_of_ne_nil hLines with
    ⟨line, others, rfl⟩
  simp only [addToLines]
  split
  · rfl
  · split
    · split <;> rfl
    · rfl

/- A text that is not empty has a line. -/
theorem splitLines_ne_nil
    {cs : List Char}
    (hText : cs ≠ []) :
    splitLines cs ≠ [] := by
  rcases List.exists_cons_of_ne_nil hText with ⟨c, rest, rfl⟩
  rw [splitLines_cons]
  simp only [addToLines]
  split
  · exact List.cons_ne_nil _ _
  · split
    · split
      · rename_i hFeed
        rcases List.head?_eq_some_iff.mp hFeed with
          ⟨others, rfl⟩
        simp
      · exact List.cons_ne_nil _ _
    · split <;> exact List.cons_ne_nil _ _

/-
  The lines of two texts follow one another if the first one
  is cut behind the end of a line.
-/
theorem splitLines_append
    {first second : List Char}
    (hEnds : EndsLine first)
    (hApart : ¬ Straddles first second) :
    splitLines (first ++ second) =
      splitLines first ++ splitLines second := by
  induction first with
  | nil => rfl
  | cons c first ih =>
      cases first with
      | nil =>
          -- This character ends the last line.
          rcases hEnds with hEmpty | hFeed | hReturn
          · cases hEmpty
          · have hChar : c = '\n' := by simpa using hFeed
            simp [hChar]
          · have hHead : second.head? ≠ some '\n' :=
              fun hHead => hApart ⟨hReturn, hHead⟩
            have hChar : c = '\r' := by simpa using hReturn
            simp [splitLines_cons, addToLines, hChar, hHead]
      | cons d first =>
          have hRest :
              splitLines (d :: first ++ second) =
                splitLines (d :: first) ++
                  splitLines second := by
            refine ih ?_ ?_
            · rcases hEnds with hEmpty | hLast
              · cases hEmpty
              · exact Or.inr hLast
            · exact hApart
          rw [List.cons_append, splitLines_cons, hRest,
            splitLines_cons c (d :: first)]
          exact
            addToLines_append c (some d) (splitLines second)
              (splitLines_ne_nil (List.cons_ne_nil _ _))

/-
  A text without carriage returns that a line feed ends has
  the lines between its line feeds.
-/
theorem splitLines_append_lineFeed
    {cs : List Char}
    (hReturn : '\r' ∉ cs)
    (rest : List Char) :
    splitLines (cs ++ '\n' :: rest) =
      cs.splitOn '\n' ++ splitLines rest := by
  induction cs with
  | nil => simp
  | cons c cs ih =>
      rw [List.mem_cons, not_or] at hReturn
      rw [List.cons_append, splitLines_cons, ih hReturn.2,
        List.splitOn_cons_eq_if_modifyHead]
      by_cases hFeed : c = '\n'
      · simp [addToLines, hFeed]
      · rcases List.exists_cons_of_ne_nil
            (List.splitOn_ne_nil '\n' cs) with
          ⟨line, lines, hLines⟩
        simp [addToLines, hFeed, Ne.symm hReturn.1, hLines]

/- A line feed at the end only ends the last line. -/
theorem splitLines_append_last_lineFeed
    {cs : List Char}
    (hOpen : ¬ EndsLine cs) :
    splitLines (cs ++ ['\n']) = splitLines cs := by
  induction cs with
  | nil => exact absurd (Or.inl rfl) hOpen
  | cons c cs ih =>
      cases cs with
      | nil =>
          have hChar : c ≠ '\n' ∧ c ≠ '\r' := by
            simpa [EndsLine] using hOpen
          simp [splitLines_cons, addToLines, hChar]
      | cons d cs =>
          have hRest :
              splitLines (d :: cs ++ ['\n']) =
                splitLines (d :: cs) := by
            refine ih ?_
            rintro (hEmpty | hLast)
            · cases hEmpty
            · exact hOpen (Or.inr hLast)
          rw [List.cons_append, splitLines_cons, hRest,
            splitLines_cons c (d :: cs)]
          rfl

end Text

end KsqlBatch
