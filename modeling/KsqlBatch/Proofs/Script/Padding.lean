import KsqlBatch.Proofs.Script.Calls
import KsqlBatch.Proofs.Script.Cursor

/-
  This file says that neither the ends of lines nor what
  stands around them matters to what a script contains. Lines
  may be padded with blanks and control characters, and they
  may end in different ways.

  Key definitions include:
    * `PaddedLine`
    * `PaddedLine.IsPadded`

  Key theorems include:
    * `Text.strip_append`
    * `PaddedLine.IsPadded.trimLine_ended`

  The main result is `parseStatements_padded`.
-/

------------------------------------------------------------
-- Padded Lines
------------------------------------------------------------

namespace KsqlBatch

/- A line with what stands around it, and its end. -/
structure PaddedLine where
  before : String
  line : String
  behind : String
  ending : LineEnd
deriving DecidableEq, Repr, Inhabited

namespace PaddedLine

/- The line together with what stands around it. -/
def ended
    (row : PaddedLine) : EndedLine where
  line := row.before ++ row.line ++ row.behind
  ending := row.ending

/-
  Only blanks and control characters that end no line stand
  around a trimmed line.
-/
structure IsPadded
    (row : PaddedLine) : Prop where
  isLine : Text.IsLine row.line.toList
  trimmed : Script.trimLine row.line = row.line
  padding :
    ∀ c ∈ row.before.toList ++ row.behind.toList,
      Text.isControlOrSpace c = true ∧
        c ≠ '\n' ∧ c ≠ '\r'

instance
    (row : PaddedLine) :
    Decidable row.IsPadded :=
  decidable_of_iff
    (Text.IsLine row.line.toList ∧
      Script.trimLine row.line = row.line ∧
      (row.before.toList ++ row.behind.toList).all
        (fun c =>
          Text.isControlOrSpace c &&
            (c != '\n' && c != '\r')) = true)
    (by
      simp only [List.all_eq_true, Bool.and_eq_true,
        bne_iff_ne]
      exact
        ⟨fun ⟨hLine, hTrimmed, hPadding⟩ =>
            ⟨hLine, hTrimmed, hPadding⟩,
          fun ⟨hLine, hTrimmed, hPadding⟩ =>
            ⟨hLine, hTrimmed, hPadding⟩⟩)

end PaddedLine

end KsqlBatch

------------------------------------------------------------
-- Trimming
------------------------------------------------------------

namespace KsqlBatch

namespace Text

variable {inClass : Char → Bool}
variable {before behind : List Char}

/- What is removed may be put around a text. -/
theorem strip_append
    (hBefore : ∀ c ∈ before, inClass c = true)
    (hBehind : ∀ c ∈ behind, inClass c = true)
    (cs : List Char) :
    strip inClass (before ++ (cs ++ behind)) =
      strip inClass cs := by
  rw [strip, strip, List.dropWhile_append_of_pos hBefore,
    List.dropWhile_append]
  split
  · rename_i hEmpty
    have hNone : cs.dropWhile inClass = [] :=
      List.isEmpty_iff.mp hEmpty
    rw [hNone, List.dropWhile_eq_nil_iff.mpr hBehind]
  · have hBack :
        ∀ c ∈ behind.reverse, inClass c = true := by
      intro c hChar
      exact hBehind c (List.mem_reverse.mp hChar)
    rw [List.reverse_append,
      List.dropWhile_append_of_pos hBack]

end Text

namespace PaddedLine

variable {row : PaddedLine}

/- Trimming removes what stands around a line. -/
theorem IsPadded.trimLine_ended
    (hPadded : row.IsPadded) :
    Script.trimLine row.ended.line = row.line := by
  have hBefore :
      ∀ c ∈ row.before.toList,
        Text.isControlOrSpace c = true :=
    fun c hChar =>
      (hPadded.padding c
        (List.mem_append_left _ hChar)).1
  have hBehind :
      ∀ c ∈ row.behind.toList,
        Text.isControlOrSpace c = true :=
    fun c hChar =>
      (hPadded.padding c
        (List.mem_append_right _ hChar)).1
  have hStrip :=
    Text.strip_append hBefore hBehind row.line.toList
  rw [← hPadded.trimmed]
  simp only [Script.trimLine, Text.stripString, ended,
    String.toList_append, List.append_assoc, hStrip]

end PaddedLine

end KsqlBatch

------------------------------------------------------------
-- Scripts
------------------------------------------------------------

namespace KsqlBatch

/-
  A script of padded lines with any ends contains the same as
  the lines themselves with a line feed behind each of them,
  provided that the lines are seen to end where they do.
-/
theorem parseStatements_padded
    (rows : List PaddedLine)
    (hPadded : ∀ row ∈ rows, row.IsPadded)
    (hWhole :
      EndedLine.AreWhole (rows.map PaddedLine.ended)) :
    let padded :=
      EndedLine.join (rows.map PaddedLine.ended)
    let plain := EndedLine.unlines (rows.map (·.line))
    (parseStatements padded).statements =
        (parseStatements plain).statements ∧
      (parseStatements padded).termination =
        (parseStatements plain).termination := by
  intro padded plain
  have hRows :
      ∀ line ∈ rows.map (·.line),
        Text.IsLine line.toList := by
    intro line hLine
    rcases List.mem_map.mp hLine with ⟨row, hRow, rfl⟩
    exact (hPadded row hRow).isLine
  have hLines :
      Script.trimmedLines padded =
        Script.trimmedLines plain := by
    refine
      hWhole.trimmedLines_join.trans
        (Eq.trans ?_
          (EndedLine.trimmedLines_unlines hRows).symm)
    simp only [List.map_map]
    refine List.map_congr_left ?_
    intro row hRow
    exact
      (hPadded row hRow).trimLine_ended.trans
        (hPadded row hRow).trimmed.symm
  simp only [statements_parseStatements,
    termination_parseStatements, Script.contentsOf, hLines,
    and_self]

/-
  The empty line between two carriage returns counts, as does
  the line of blanks within the statement, which is read up
  to the end of the text.
-/
theorem parseStatements_of_mixed_ends :
    let text :=
      "\x00SET 'a' = 'b';\t\r\r\x0bx \r\n \t\n;\x0c\r" ++
        "SET a\x1f"
    (parseStatements text).statements =
        [{ statement :=
            { text := "x\n\n;", startLine := 3, endLine := 5 }
           properties := PropertyMap.empty.insert "a" "b" }] ∧
      (parseStatements text).termination =
        some (.malformedDirective 6 "SET a") := by
  have hPlain :=
    parseStatements_padded
      [{ before := "\x00", line := "SET 'a' = 'b';"
         behind := "\t", ending := .carriageReturn },
        { before := "", line := ""
          behind := "", ending := .carriageReturn },
        { before := "\x0b", line := "x"
          behind := " ", ending := .both },
        { before := " ", line := ""
          behind := "\t", ending := .lineFeed },
        { before := "", line := ";"
          behind := "\x0c", ending := .carriageReturn },
        { before := "", line := "SET a"
          behind := "\x1f", ending := .absent }]
      (by decide +kernel) (by decide +kernel)
  refine ⟨hPlain.1.trans ?_, hPlain.2.trans ?_⟩
  · decide +kernel
  · decide +kernel

end KsqlBatch
