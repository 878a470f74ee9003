import KsqlBatch.Proofs.Script.Contents
import KsqlBatch.Proofs.Text.Blank
import KsqlBatch.Proofs.Text.Lines

/-
  This file says how a statement is written so that reading
  it gives the same text: no line has blanks around it, and
  the first line that ends a statement is the last one.

  Key definitions include:
    * `Script.IsTrimmed`
    * `Script.rows`
    * `Script.IsCanonical`

  Key theorems include:
    * `Script.trimLine_of_isTrimmed`
    * `Script.classify_eq_text_iff`
    * `Script.IsCanonical.closeStatement?_rows`
    * `Script.lines_append_lineFeed`
-/

------------------------------------------------------------
-- Trimmed Lines
------------------------------------------------------------

namespace KsqlBatch

namespace Script

/- A line has no blanks and control characters around it. -/
def IsTrimmed
    (line : String) : Prop :=
  (∀ c ∈ line.toList.head?,
    Text.isControlOrSpace c = false) ∧
  ∀ c ∈ line.toList.getLast?,
    Text.isControlOrSpace c = false

instance
    (line : String) :
    Decidable (IsTrimmed line) :=
  decidable_of_iff
    (line.toList.head?.all
        (! Text.isControlOrSpace ·) = true ∧
      line.toList.getLast?.all
        (! Text.isControlOrSpace ·) = true)
    (by simp only [IsTrimmed, Option.all_eq_true,
          Bool.not_eq_true', Option.mem_def])

/- Trimming leaves a trimmed line as it is. -/
theorem trimLine_of_isTrimmed
    {line : String}
    (hTrimmed : IsTrimmed line) :
    trimLine line = line := by
  rw [trimLine, Text.stripString,
    Text.strip_eq_self hTrimmed.1 hTrimmed.2,
    String.ofList_toList]

/- What is left of a line stands between blanks in it. -/
theorem isStripped_trimLine
    (line : String) :
    Text.IsStripped Text.isControlOrSpace line.toList
      (trimLine line).toList := by
  rw [trimLine, Text.toList_stripString]
  exact Text.isStripped_strip Text.isControlOrSpace line.toList

/- Trimming leaves no blanks around a line. -/
theorem isTrimmed_trimLine
    (line : String) :
    IsTrimmed (trimLine line) :=
  ⟨(isStripped_trimLine line).first,
    (isStripped_trimLine line).last⟩

/- Trimming adds no characters. -/
theorem mem_of_mem_trimLine
    {line : String}
    {c : Char}
    (hChar : c ∈ (trimLine line).toList) :
    c ∈ line.toList := by
  rcases (isStripped_trimLine line).around with
    ⟨before, behind, hSplit, _⟩
  rw [hSplit]
  exact
    List.mem_append_right _ (List.mem_append_left _ hChar)

/- The lines that are read are trimmed lines. -/
theorem isTrimmed_of_mem_trimmedLines
    {text line : String}
    (hLine : line ∈ trimmedLines text) :
    IsTrimmed line := by
  rcases List.mem_map.mp hLine with ⟨raw, _, rfl⟩
  exact isTrimmed_trimLine raw

/- No line that is read contains the end of a line. -/
theorem isLine_of_mem_trimmedLines
    {text line : String}
    (hLine : line ∈ trimmedLines text) :
    Text.IsLine line.toList := by
  rw [trimmedLines, LineCursor.ofText,
    LineCursor.yields_eq] at hLine
  rcases List.mem_map.mp hLine with ⟨raw, hRaw, rfl⟩
  rcases List.mem_map.mp hRaw with ⟨cs, hSplit, rfl⟩
  rcases Text.isLine_of_mem_splitLines hSplit with
    ⟨hFeed, hReturn⟩
  constructor
  · intro hChar
    exact hFeed (by simpa using mem_of_mem_trimLine hChar)
  · intro hChar
    exact hReturn (by simpa using mem_of_mem_trimLine hChar)

/- A line begins a statement unless it means something else. -/
theorem classify_eq_text_iff
    (line : String) :
    classify line = .text ↔
      line ≠ "" ∧
        ¬ ['-', '-'] <+: line.toList ∧
        ¬ ['S', 'E', 'T'] <+: line.toList := by
  have hEmpty : line = "" ↔ line.toList = [] := by
    simp
  rw [classify, ne_eq, hEmpty]
  generalize line.toList = cs
  unfold classifyChars
  split
  · simp
  · simp
  · simp
  · rename_i hNotEmpty hNoComment hNoDirective
    simp only [true_iff]
    refine ⟨hNotEmpty, ?_, ?_⟩
    · rintro ⟨rest, rfl⟩
      exact hNoComment rest rfl
    · rintro ⟨rest, rfl⟩
      exact hNoDirective rest rfl

theorem classify_eq_directive
    {line : String}
    (hStart : ['S', 'E', 'T'] <+: line.toList) :
    classify line = .directive := by
  rcases hStart with ⟨rest, hLine⟩
  rw [classify, ← hLine]
  rfl

end Script

end KsqlBatch

------------------------------------------------------------
-- Rows
------------------------------------------------------------

namespace KsqlBatch

namespace Script

/- The parts of a text between its line feeds. -/
def rows
    (text : String) : List String :=
  (text.toList.splitOn '\n').map String.ofList

theorem rows_ne_nil
    (text : String) :
    rows text ≠ [] := by
  simp [rows]

/- Between its rows a text has nothing but line feeds. -/
theorem intercalate_rows
    (text : String) :
    "\n".intercalate (rows text) = text := by
  apply String.toList_inj.mp
  have hRows :
      (rows text).map String.toList =
        text.toList.splitOn '\n' := by
    simp [rows, Function.comp_def]
  rw [String.toList_intercalate, hRows]
  exact List.intercalate_splitOn '\n'

/- There is one row more than there are line feeds. -/
theorem length_rows
    (text : String) :
    (rows text).length = text.toList.count '\n' + 1 := by
  rw [rows, List.length_map]
  induction text.toList with
  | nil => rfl
  | cons c cs ih =>
      rw [List.splitOn_cons_eq_if_modifyHead]
      by_cases hFeed : c = '\n'
      · simp [hFeed, ih]
      · simp [hFeed, ih]

/- The statement that the rows of a text make up. -/
theorem statementAt_rows
    (first : Nat)
    (text : String) :
    statementAt first (rows text) =
      { text
        startLine := first
        endLine := first + text.toList.count '\n' } := by
  simp [statementAt, intercalate_rows, length_rows,
    ← Nat.add_assoc]

/-
  The lines of a text behind another one, if that has no
  carriage returns and is followed by a line feed.
-/
theorem lines_append_lineFeed
    {text : String}
    (hReturn : '\r' ∉ text.toList)
    (rest : String) :
    Text.lines (text ++ "\n" ++ rest) =
      rows text ++ Text.lines rest := by
  have hText :
      (text ++ "\n" ++ rest).toList =
        text.toList ++ '\n' :: rest.toList := by
    simp
  rw [Text.lines, hText,
    Text.splitLines_append_lineFeed hReturn, List.map_append]
  rfl

/- A text within one line is its only row. -/
theorem rows_of_isLine
    {text : String}
    (hLine : Text.IsLine text.toList) :
    rows text = [text] := by
  simp [rows, List.splitOn_eq_singleton hLine.1]

end Script

end KsqlBatch

------------------------------------------------------------
-- Canonical Statements
------------------------------------------------------------

namespace KsqlBatch

namespace Script

/-
  A statement is written line by line as it will be read.
  The first row is neither empty nor a comment nor a
  directive, and the last row alone ends a statement.
-/
structure IsCanonical
    (text : String) : Prop where
  no_return : '\r' ∉ text.toList
  trimmed : ∀ row ∈ rows text, IsTrimmed row
  first :
    ∀ row ∈ (rows text).head?,
      row ≠ "" ∧
      ¬ ['-', '-'] <+: row.toList ∧
      ¬ ['S', 'E', 'T'] <+: row.toList
  inner :
    ∀ row ∈ (rows text).dropLast,
      row.toList.getLast? ≠ some ';'
  last :
    ∀ row ∈ (rows text).getLast?,
      row.toList.getLast? = some ';'

instance
    (text : String) :
    Decidable (IsCanonical text) :=
  decidable_of_iff
    ('\r' ∉ text.toList ∧
      (∀ row ∈ rows text, IsTrimmed row) ∧
      (∀ row ∈ (rows text).head?,
        row ≠ "" ∧
        ¬ ['-', '-'] <+: row.toList ∧
        ¬ ['S', 'E', 'T'] <+: row.toList) ∧
      (∀ row ∈ (rows text).dropLast,
        row.toList.getLast? ≠ some ';') ∧
      ∀ row ∈ (rows text).getLast?,
        row.toList.getLast? = some ';')
    ⟨fun ⟨hReturn, hTrimmed, hFirst, hInner, hLast⟩ =>
        ⟨hReturn, hTrimmed, hFirst, hInner, hLast⟩,
      fun ⟨hReturn, hTrimmed, hFirst, hInner, hLast⟩ =>
        ⟨hReturn, hTrimmed, hFirst, hInner, hLast⟩⟩

variable {text : String}

/- The rows of a canonical statement need no trimming. -/
theorem IsCanonical.map_trimLine
    (hCanonical : IsCanonical text) :
    (rows text).map trimLine = rows text := by
  refine (List.map_congr_left ?_).trans (List.map_id _)
  intro row hRow
  exact trimLine_of_isTrimmed (hCanonical.trimmed row hRow)

/- The first row of a canonical statement begins it. -/
theorem IsCanonical.exists_first
    (hCanonical : IsCanonical text) :
    ∃ line others,
      rows text = line :: others ∧
      classify line = .text := by
  rcases List.exists_cons_of_ne_nil (rows_ne_nil text) with
    ⟨line, others, hRows⟩
  refine ⟨line, others, hRows, ?_⟩
  rw [classify_eq_text_iff]
  refine hCanonical.first line ?_
  rw [hRows]
  rfl

/- The rows of a canonical statement are cut off together. -/
theorem IsCanonical.closeStatement?_rows
    (hCanonical : IsCanonical text)
    (later : List String) :
    closeStatement? (rows text ++ later) =
      some (rows text, later) := by
  have hRows :
      rows text =
        (rows text).dropLast ++
          [(rows text).getLast (rows_ne_nil text)] :=
    (List.dropLast_concat_getLast _).symm
  have hInner :
      ∀ line ∈ (rows text).dropLast,
        endsStatement line = false := by
    intro line hLine
    simpa [endsStatement] using hCanonical.inner line hLine
  have hLast :
      endsStatement
        ((rows text).getLast (rows_ne_nil text)) = true := by
    rw [endsStatement, beq_iff_eq]
    exact
      hCanonical.last _ (List.getLast?_eq_some_getLast _)
  have hCut :
      closeStatement?
          ((rows text).dropLast ++
            (rows text).getLast (rows_ne_nil text) ::
              later) =
        some
          ((rows text).dropLast ++
            [(rows text).getLast (rows_ne_nil text)],
            later) :=
    closeStatement?_append hInner hLast
  rw [List.append_cons, ← hRows] at hCut
  exact hCut

end Script

end KsqlBatch
