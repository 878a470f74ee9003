import KsqlBatch.Proofs.Script.RoundTrip

/-
  This file says what the statements that a script yields look
  like. Every one of them is canonical and takes up as many
  lines as its text has. Hence a script that consists of such
  texts alone yields them again.

  Key definitions include:
    * `Statement.IsEmitted`
    * `Script.FillLines`

  Key theorems include:
    * `Script.isCanonical_of_closed`
    * `Script.isEmitted_of_mem_contents`
    * `Script.contentsOf_intercalate`
    * `parseStatements_intercalate`

  The main result is `parseStatements_canonical`.
-/

------------------------------------------------------------
-- Blocks of Lines
------------------------------------------------------------

namespace KsqlBatch

namespace Script

/- A line as the parser looks at it. -/
structure IsClean
    (line : String) : Prop where
  isLine : Text.IsLine line.toList
  isTrimmed : IsTrimmed line

theorem isClean_of_mem_trimmedLines
    {text line : String}
    (hLine : line ∈ trimmedLines text) :
    IsClean line where
  isLine := isLine_of_mem_trimmedLines hLine
  isTrimmed := isTrimmed_of_mem_trimmedLines hLine

variable {block : List String}

/- Lines that are joined are the rows of the text. -/
theorem rows_intercalate
    (hBlock : block ≠ [])
    (hClean : ∀ line ∈ block, IsClean line) :
    rows ("\n".intercalate block) = block := by
  have hApart :
      ∀ cs ∈ block.map String.toList, '\n' ∉ cs := by
    intro cs hMember
    rcases List.mem_map.mp hMember with ⟨line, hLine, rfl⟩
    exact (hClean line hLine).isLine.1
  have hSplit :
      (['\n'].intercalate
          (block.map String.toList)).splitOn '\n' =
        block.map String.toList :=
    List.splitOn_intercalate '\n' hApart (by simpa using hBlock)
  have hText :
      ("\n".intercalate block).toList =
        ['\n'].intercalate (block.map String.toList) :=
    String.toList_intercalate
  rw [rows, hText, hSplit, List.map_map]
  simp [Function.comp_def]

/- Lines that are joined bring no carriage return along. -/
theorem no_return_intercalate
    (hClean : ∀ line ∈ block, IsClean line) :
    '\r' ∉ ("\n".intercalate block).toList := by
  induction block with
  | nil => simp
  | cons line block ih =>
      rw [List.forall_mem_cons] at hClean
      have hLine := hClean.1.isLine.2
      by_cases hLast : block = []
      · simp [hLast, hLine]
      · rw [String.intercalate_cons_of_ne_nil hLast,
          String.toList_append, String.toList_append]
        simp only [List.mem_append, not_or]
        exact ⟨⟨hLine, by decide⟩, ih hClean.2⟩

/- Lines that are joined end like the last of them. -/
theorem getLast?_intercalate
    {last : String}
    {c : Char}
    (before : List String)
    (hLast : last.toList.getLast? = some c) :
    ("\n".intercalate
      (before ++ [last])).toList.getLast? = some c := by
  induction before with
  | nil => simpa using hLast
  | cons line before ih =>
      rw [List.cons_append,
        String.intercalate_cons_of_ne_nil (by simp),
        String.toList_append, List.getLast?_append, ih]
      rfl

end Script

end KsqlBatch

------------------------------------------------------------
-- Statements
------------------------------------------------------------

namespace KsqlBatch

/-
  A statement as scripts yield them: its text is canonical,
  and it takes up as many lines as its text has.
-/
structure Statement.IsEmitted
    (statement : Statement) : Prop where
  startLine_pos : 1 ≤ statement.startLine
  endLine_eq :
    statement.endLine =
      statement.startLine + statement.text.toList.count '\n'
  canonical : Script.IsCanonical statement.text

/- A statement takes several lines if its text has a break. -/
theorem Statement.IsEmitted.isMultiline_iff
    {statement : Statement}
    (hEmitted : statement.IsEmitted) :
    statement.isMultiline = true ↔
      '\n' ∈ statement.text.toList := by
  rw [isMultiline, decide_eq_true_iff, hEmitted.endLine_eq,
    ← List.count_pos_iff]
  omega

namespace Script

variable {line : String}
variable {rest block later : List String}

/- A block of lines that is cut off is canonical. -/
theorem isCanonical_of_closed
    (hClean : ∀ row ∈ line :: rest, IsClean row)
    (hKind : classify line = .text)
    (hClosed :
      closeStatement? (line :: rest) =
        some (block, later)) :
    rows ("\n".intercalate block) = block ∧
      IsCanonical ("\n".intercalate block) := by
  rcases exists_of_closeStatement?_eq_some hClosed with
    ⟨before, last, hBlock, hLines, hBefore, hLast⟩
  have hInside : ∀ row ∈ block, IsClean row := by
    intro row hRow
    rw [hLines] at hClean
    exact hClean row (List.mem_append_left later hRow)
  have hRows : rows ("\n".intercalate block) = block :=
    rows_intercalate (by simp [hBlock]) hInside
  have hHead : block.head? = some line := by
    have hFirst := congrArg List.head? hLines
    rw [hBlock] at hFirst ⊢
    cases before <;> simpa using hFirst.symm
  refine ⟨hRows, ?_⟩
  exact
    { no_return := no_return_intercalate hInside
      trimmed := by
        rw [hRows]
        exact fun row hRow => (hInside row hRow).isTrimmed
      first := by
        rw [hRows, hHead]
        rintro row ⟨⟩
        exact (classify_eq_text_iff line).mp hKind
      inner := by
        rw [hRows, hBlock, List.dropLast_concat]
        intro row hRow hEnds
        have hContinues := hBefore row hRow
        simp [endsStatement, hEnds] at hContinues
      last := by
        rw [hRows, hBlock, List.getLast?_concat]
        rintro row ⟨⟩
        simpa [endsStatement] using hLast }

/- The statements that clean lines contain. -/
theorem isEmitted_of_mem_contents
    (number : Nat)
    (properties : PropertyMap)
    (lines : List String)
    (hClean : ∀ line ∈ lines, IsClean line) :
    ∀ parsed ∈ (contents number properties lines).statements,
      parsed.statement.IsEmitted := by
  induction number, properties, lines
    using contents_induction with
  | exhausted number properties => simp
  | inert number properties line rest hInert ih =>
      rw [List.forall_mem_cons] at hClean
      rw [contents_cons_of_isInert hInert]
      exact ih hClean.2
  | directive number properties line rest found hKind hRead
      ih =>
      rw [List.forall_mem_cons] at hClean
      rw [contents_cons_of_directive hKind hRead]
      exact ih hClean.2
  | malformed number properties line rest hMalformed =>
      rw [contents_cons_of_isMalformed hMalformed]
      simp
  | statement number properties line rest block later hKind
      hClosed ih =>
      rcases isCanonical_of_closed hClean hKind hClosed with
        ⟨hRows, hCanonical⟩
      have hLater : ∀ row ∈ later, IsClean row := by
        rw [← append_eq_of_closeStatement?_eq_some hClosed]
          at hClean
        intro row hRow
        exact hClean row (List.mem_append_right block hRow)
      have hPlace :=
        statementAt_rows (number + 1) ("\n".intercalate block)
      rw [hRows] at hPlace
      rw [contents_cons_of_closed hKind hClosed,
        Contents.statements_prepend, List.forall_mem_cons]
      refine ⟨?_, ih hLater⟩
      exact
        { startLine_pos := Nat.le_add_left _ _
          endLine_eq := congrArg Statement.endLine hPlace
          canonical := hCanonical }
  | incomplete number properties line rest hKind hOpen =>
      rw [contents_cons_of_open hKind hOpen]
      simp

end Script

end KsqlBatch

------------------------------------------------------------
-- Scripts of Statements Alone
------------------------------------------------------------

namespace KsqlBatch

namespace Script

/-
  Statements take up all lines from a first one on, one
  statement directly behind the other.
-/
def FillLines
    (first : Nat) : List Statement → Prop
| [] => True
| statement :: later =>
    statement.startLine = first ∧
      statement.startLine ≤ statement.endLine ∧
      FillLines (statement.endLine + 1) later

variable {text : String}
variable {texts : List String}

/- A canonical statement ends with a semicolon. -/
theorem IsCanonical.getLast?_eq
    (hCanonical : IsCanonical text) :
    text.toList.getLast? = some ';' := by
  have hLast :=
    hCanonical.last _
      (List.getLast?_eq_some_getLast (rows_ne_nil text))
  have hEnd :=
    getLast?_intercalate (rows text).dropLast hLast
  rw [List.dropLast_concat_getLast, intercalate_rows] at hEnd
  exact hEnd

/- Texts that are joined need one more line feed. -/
theorem renderAll_statements
    (text : String)
    (texts : List String) :
    ScriptItem.renderAll
        ((text :: texts).map ScriptItem.statement) =
      "\n".intercalate (text :: texts) ++ "\n" := by
  induction texts generalizing text with
  | nil =>
      simp [ScriptItem.renderAll, ScriptItem.render,
        String.join_cons]
  | cons next texts ih =>
      have hNext := ih next
      simp only [ScriptItem.renderAll, ScriptItem.render,
        List.map_cons, String.join_cons] at hNext ⊢
      rw [hNext, String.intercalate_cons_cons]
      simp [String.append_assoc]

/- The line feed behind the last statement ends its line. -/
theorem trimmedLines_intercalate
    (hCanonical : ∀ text ∈ texts, IsCanonical text) :
    trimmedLines ("\n".intercalate texts) =
      trimmedLines
        (ScriptItem.renderAll
          (texts.map ScriptItem.statement)) := by
  cases texts with
  | nil => rfl
  | cons text texts =>
      have hSplit :=
        List.dropLast_concat_getLast
          (List.cons_ne_nil text texts)
      have hLast :=
        (hCanonical _
          (List.getLast_mem
            (List.cons_ne_nil text texts))).getLast?_eq
      have hEnd :=
        getLast?_intercalate (text :: texts).dropLast hLast
      rw [hSplit] at hEnd
      have hOpen :
          ¬ Text.EndsLine
            ("\n".intercalate (text :: texts)).toList := by
        rintro (hEmpty | hFeed | hReturn)
        · rw [hEmpty] at hEnd
          cases hEnd
        · exact absurd (hEnd.symm.trans hFeed) (by decide)
        · exact absurd (hEnd.symm.trans hReturn) (by decide)
      rw [renderAll_statements, trimmedLines, trimmedLines,
        LineCursor.ofText, LineCursor.ofText,
        LineCursor.yields_eq, LineCursor.yields_eq,
        Text.lines, Text.lines, String.toList_append]
      exact
        congrArg (List.map trimLine)
          (congrArg (List.map String.ofList)
            (Text.splitLines_append_last_lineFeed
              hOpen).symm)

/- A script of canonical statements contains just them. -/
theorem contentsOf_intercalate
    (hCanonical : ∀ text ∈ texts, IsCanonical text) :
    contentsOf ("\n".intercalate texts) =
      ScriptItem.contentsBehind []
        (texts.map ScriptItem.statement) := by
  have hReadable :
      ∀ item ∈ texts.map ScriptItem.statement,
        item.IsReadable := by
    intro item hItem
    rcases List.mem_map.mp hItem with ⟨text, hText, rfl⟩
    exact hCanonical text hText
  rw [contentsOf, trimmedLines_intercalate hCanonical,
    ScriptItem.trimmedLines_renderAll hReadable]
  exact ScriptItem.contents_lines [] hReadable

end Script

namespace ScriptItem

/- Statements behind some items fill the lines behind them. -/
theorem fillLines_readings
    (before : List ScriptItem)
    (texts : List String) :
    Script.FillLines (1 + lineCount before)
      ((readings before (texts.map statement)).map
        (·.statement)) := by
  induction texts generalizing before with
  | nil => exact True.intro
  | cons text texts ih =>
      have hCount :
          1 + lineCount before + text.toList.count '\n' + 1 =
            1 + lineCount (before ++ [statement text]) := by
        simp [lineCount, renderAll, render, Nat.add_assoc]
      refine ⟨rfl, Nat.le_add_right _ _, ?_⟩
      have hRest := ih (before ++ [statement text])
      rw [← hCount] at hRest
      exact hRest

/- Statements alone set no properties. -/
theorem properties_of_mem_readings
    {parsed : ParsedStatement}
    (before : List ScriptItem)
    (texts : List String)
    (hBefore : before.filterMap directive? = [])
    (hParsed :
      parsed ∈ readings before (texts.map statement)) :
    parsed.properties = PropertyMap.empty := by
  induction texts generalizing before with
  | nil => cases hParsed
  | cons text texts ih =>
      rcases List.mem_cons.mp hParsed with rfl | hLater
      · rw [parsedBehind, hBefore]
        rfl
      · refine ih _ ?_ hLater
        rw [List.filterMap_append, hBefore]
        rfl

end ScriptItem

end KsqlBatch

------------------------------------------------------------
-- Scripts
------------------------------------------------------------

namespace KsqlBatch

/-
  Canonical texts that are joined with line feeds are a
  script that yields these texts, on lines that follow one
  another, with no properties.
-/
theorem parseStatements_intercalate
    {texts : List String}
    (hCanonical :
      ∀ text ∈ texts, Script.IsCanonical text) :
    let again := parseStatements ("\n".intercalate texts)
    again.termination = some .exhausted ∧
    again.statements.map (·.statement.text) = texts ∧
    Script.FillLines 1
      (again.statements.map (·.statement)) ∧
    ∀ found ∈ again.statements,
      found.properties = PropertyMap.empty := by
  intro again
  have hContents := Script.contentsOf_intercalate hCanonical
  have hAgain :
      again.statements =
        ScriptItem.readings []
          (texts.map ScriptItem.statement) := by
    simp only [again, statements_parseStatements, hContents]
    rfl
  refine ⟨?_, ?_, ?_, ?_⟩
  · simp only [again, termination_parseStatements, hContents]
    rfl
  · rw [hAgain, ScriptItem.map_text_readings,
      List.filterMap_map]
    exact List.filterMap_some
  · rw [hAgain]
    exact ScriptItem.fillLines_readings [] texts
  · intro found hFound
    rw [hAgain] at hFound
    exact
      ScriptItem.properties_of_mem_readings [] texts rfl
        hFound

/-
  Every statement that a script yields is canonical and has
  the lines that its text says. So the texts of all of them,
  joined with line feeds, are a script that yields the same
  texts, on lines that follow one another, with no properties.
-/
theorem parseStatements_canonical
    (text : String) :
    let parsed := (parseStatements text).statements
    let texts := parsed.map (·.statement.text)
    let again := parseStatements ("\n".intercalate texts)
    (∀ found ∈ parsed,
      1 ≤ found.statement.startLine ∧
      found.statement.endLine =
        found.statement.startLine +
          found.statement.text.toList.count '\n' ∧
      (found.statement.isMultiline = true ↔
        '\n' ∈ found.statement.text.toList) ∧
      Script.IsCanonical found.statement.text) ∧
    again.termination = some .exhausted ∧
    again.statements.map (·.statement.text) = texts ∧
    Script.FillLines 1
      (again.statements.map (·.statement)) ∧
    ∀ found ∈ again.statements,
      found.properties = PropertyMap.empty := by
  intro parsed texts again
  have hEmitted :
      ∀ found ∈ parsed, found.statement.IsEmitted := by
    simp only [parsed, statements_parseStatements]
    exact
      Script.isEmitted_of_mem_contents 0 PropertyMap.empty _
        (fun _ hLine =>
          Script.isClean_of_mem_trimmedLines hLine)
  have hCanonical :
      ∀ found ∈ texts, Script.IsCanonical found := by
    intro found hFound
    rcases List.mem_map.mp hFound with ⟨source, hSource, rfl⟩
    exact (hEmitted source hSource).canonical
  refine ⟨?_, parseStatements_intercalate hCanonical⟩
  intro found hFound
  have hHere := hEmitted found hFound
  exact
    ⟨hHere.startLine_pos, hHere.endLine_eq,
      hHere.isMultiline_iff, hHere.canonical⟩

/-
  Blanks around lines are left out; comments, directives and
  empty lines inside of a statement belong to it.
-/
theorem canonical_statement_with_directive_inside :
    let parsed :=
      (parseStatements
        "SET 'a' = 'b';\r\n  SELECT\t\n\n -- x\nSET 'c'\n;"
        ).statements
    ∃ found ∈ parsed,
      found.statement.text = "SELECT\n\n-- x\nSET 'c'\n;" ∧
      found.statement.isMultiline = true ∧
      Script.IsCanonical found.statement.text := by
  intro parsed
  let found : ParsedStatement :=
    { statement :=
        { text := "SELECT\n\n-- x\nSET 'c'\n;"
          startLine := 2
          endLine := 6 }
      properties := PropertyMap.empty.insert "a" "b" }
  have hFound : found ∈ parsed := by decide +kernel
  rcases (parseStatements_canonical _).1 found hFound with
    ⟨_, _, hMultiline, hCanonical⟩
  exact
    ⟨found, hFound, rfl, hMultiline.mpr (by decide),
      hCanonical⟩

end KsqlBatch
