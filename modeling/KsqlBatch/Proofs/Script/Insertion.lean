import KsqlBatch.Proofs.Script.Canonical
import KsqlBatch.Proofs.Script.Composition
import KsqlBatch.Proofs.Script.Cursor
import KsqlBatch.Proofs.Script.Snapshots

/-
  This file puts blank lines and comments into a script. As
  long as they do not come to stand within a statement, the
  script contains the same, except that lines behind them
  get other numbers.

  Key definitions include:
    * `Script.displaced`
    * `Script.Contents.displaced`
    * `Script.Contents.IsOpenAt`

  Key theorems include:
    * `Script.contents_append_of_isInert`
    * `Script.contents_insert`

  The main result is `parseStatements_insert`.
-/

------------------------------------------------------------
-- Numbers of Lines
------------------------------------------------------------

namespace KsqlBatch

/-
  The number of a line once a count of lines is put in at a
  position, which is the number of the lines before it.
-/
def Script.displaced
    (position count number : Nat) : Nat :=
  if number ≤ position then number else number + count

/- A statement once lines are put in at a position. -/
def Statement.displaced
    (position count : Nat)
    (statement : Statement) : Statement :=
  { statement with
    startLine :=
      Script.displaced position count statement.startLine
    endLine :=
      Script.displaced position count statement.endLine }

/- A parsed statement keeps its properties. -/
def ParsedStatement.displaced
    (position count : Nat)
    (parsed : ParsedStatement) : ParsedStatement :=
  { parsed with
    statement := parsed.statement.displaced position count }

/- A reason to stop once lines are put in at a position. -/
def Termination.displaced
    (position count : Nat) : Termination → Termination
| .exhausted => .exhausted
| .malformedDirective lineNumber line =>
    .malformedDirective
      (Script.displaced position count lineNumber) line
| .incompleteStatement incomplete =>
    .incompleteStatement
      { incomplete with
        startLine :=
          Script.displaced position count
            incomplete.startLine }

namespace Script

/- Contents once lines are put in at a position. -/
def Contents.displaced
    (position count : Nat)
    (contents : Contents) : Contents where
  statements :=
    contents.statements.map
      (ParsedStatement.displaced position count)
  termination :=
    contents.termination.displaced position count
  properties := contents.properties

/-
  A position lies within a statement: between its first and
  its last line, or behind its first line if it stays open.
-/
def Contents.IsOpenAt
    (contents : Contents)
    (position : Nat) : Prop :=
  (∃ parsed ∈ contents.statements,
    parsed.statement.startLine ≤ position ∧
      position < parsed.statement.endLine) ∨
  ∃ incomplete,
    contents.termination = .incompleteStatement incomplete ∧
      incomplete.startLine ≤ position

variable {position count number : Nat}

theorem displaced_of_le
    (hBefore : number ≤ position) :
    displaced position count number = number :=
  if_pos hBefore

theorem displaced_of_lt
    (hBehind : position < number) :
    displaced position count number = number + count :=
  if_neg (Nat.not_le_of_lt hBehind)

end Script

end KsqlBatch

------------------------------------------------------------
-- Statements on One Side
------------------------------------------------------------

namespace KsqlBatch

variable {position count : Nat}
variable {statement : Statement}

/- Nothing happens to a statement before the position. -/
theorem Statement.displaced_of_le
    (hOrder : statement.startLine ≤ statement.endLine)
    (hBefore : statement.endLine ≤ position) :
    statement.displaced position count = statement := by
  rw [Statement.displaced,
    Script.displaced_of_le (hOrder.trans hBefore),
    Script.displaced_of_le hBefore]

/- A statement behind the position lies behind the lines. -/
theorem Statement.displaced_of_lt
    (hOrder : statement.startLine ≤ statement.endLine)
    (hBehind : position < statement.startLine) :
    statement.displaced position count =
      statement.behind count := by
  rw [Statement.displaced, Script.displaced_of_lt hBehind,
    Script.displaced_of_lt (Nat.lt_of_lt_of_le hBehind hOrder)]
  rfl

/- A reason behind the position lies behind the lines. -/
theorem Termination.displaced_of_lt
    {termination : Termination}
    {total : Nat}
    (hBehind : position < termination.stopLine total) :
    termination.displaced position count =
      termination.behind count := by
  cases termination with
  | exhausted => rfl
  | malformedDirective lineNumber line =>
      have hNumber : position < lineNumber := hBehind
      rw [Termination.displaced,
        Script.displaced_of_lt hNumber]
      rfl
  | incompleteStatement incomplete =>
      have hNumber : position < incomplete.startLine :=
        hBehind
      rw [Termination.displaced,
        Script.displaced_of_lt hNumber]
      rfl

namespace Script

variable {contents : Contents}

theorem Contents.displaced_followedBy
    (contents later : Contents) :
    (contents.followedBy later).displaced position count =
      (contents.displaced position count).followedBy
        (later.displaced position count) := by
  simp [Contents.displaced, Contents.followedBy]

/- Contents before the position stay as they are. -/
theorem Contents.statements_displaced_of_le
    (hBefore :
      ∀ parsed ∈ contents.statements,
        parsed.statement.startLine ≤
            parsed.statement.endLine ∧
          parsed.statement.endLine ≤ position) :
    (contents.displaced position count).statements =
      contents.statements := by
  refine (List.map_congr_left ?_).trans (List.map_id _)
  intro parsed hParsed
  rcases hBefore parsed hParsed with ⟨hOrder, hLast⟩
  rw [ParsedStatement.displaced,
    Statement.displaced_of_le hOrder hLast]
  rfl

/- Contents behind the position lie behind the lines. -/
theorem Contents.displaced_of_lt
    {total : Nat}
    (hStatements :
      ∀ parsed ∈ contents.statements,
        position < parsed.statement.startLine ∧
          parsed.statement.startLine ≤
            parsed.statement.endLine)
    (hStop :
      position < contents.termination.stopLine total) :
    contents.displaced position count =
      contents.behind count PropertyMap.empty := by
  rw [Contents.displaced, Contents.behind,
    Termination.displaced_of_lt hStop,
    PropertyMap.empty_overwrite]
  congr 1
  refine List.map_congr_left ?_
  intro parsed hParsed
  rcases hStatements parsed hParsed with ⟨hFirst, hOrder⟩
  rw [ParsedStatement.displaced, ParsedStatement.behind,
    Statement.displaced_of_lt hOrder hFirst,
    PropertyMap.empty_overwrite]

end Script

end KsqlBatch

------------------------------------------------------------
-- Lines That Mean Nothing
------------------------------------------------------------

namespace KsqlBatch

namespace Script

/- A line means nothing if it is blank or a comment. -/
theorem isInert_of_comment
    {line : String}
    (hLine : line = "" ∨ ['-', '-'] <+: line.toList) :
    IsInert line := by
  rcases hLine with rfl | ⟨rest, hRest⟩
  · exact Or.inl rfl
  · right
    rw [classify, ← hRest]
    rfl

variable {number : Nat}
variable {properties : PropertyMap}
variable {lines before inserted : List String}

/- Lines that mean nothing only count. -/
theorem contents_append_of_isInert
    (hInert : ∀ line ∈ inserted, IsInert line)
    (after : List String) :
    contents number properties (inserted ++ after) =
      contents (number + inserted.length) properties
        after := by
  induction inserted generalizing number with
  | nil => rfl
  | cons line inserted ih =>
      rw [List.forall_mem_cons] at hInert
      rw [List.cons_append,
        contents_cons_of_isInert hInert.1, ih hInert.2,
        List.length_cons, Nat.add_right_comm, Nat.add_assoc]

/- Where the statements in the lines to come lie. -/
theorem bounds_of_mem_contents
    {suffix : List String}
    {parsed : ParsedStatement}
    (hSuffix : lines.drop number = suffix)
    (hLength : number + suffix.length = lines.length)
    (hParsed :
      parsed ∈
        (contents number properties suffix).statements) :
    number < parsed.statement.startLine ∧
      parsed.statement.startLine ≤
        parsed.statement.endLine ∧
      parsed.statement.endLine <
        (contents number properties
          suffix).termination.stopLine lines.length := by
  have hCut := segmentation_contents properties hSuffix hLength
  have hStatement :=
    List.mem_map_of_mem (f := (·.statement)) hParsed
  have hInside := hCut.inside _ hStatement
  exact
    ⟨hInside.1, (hCut.cut _ hStatement).startLine_le,
      hInside.2⟩

theorem lineAt?_append_of_le
    (hNumber : number ≤ before.length)
    (after : List String) :
    lineAt? (before ++ after) number =
      lineAt? before number := by
  cases number with
  | zero => rfl
  | succ index => exact List.getElem?_append_left hNumber

/-
  If lines leave a statement open, what follows them stands
  within a statement.
-/
theorem isOpenAt_of_incomplete
    {incomplete : IncompleteStatement}
    (hIncomplete :
      (contents 0 properties before).termination =
        .incompleteStatement incomplete)
    (after : List String) :
    (contents 0 properties (before ++ after)).IsOpenAt
      before.length := by
  have hOpen : incomplete.IsLeftOpen before := by
    have hStops :=
      (segmentation_contents properties
        (List.drop_zero (l := before))
        (Nat.zero_add _)).stops
    rw [hIncomplete] at hStops
    exact hStops
  rcases hOpen.first_text with ⟨line, hLine, _⟩
  have hStart := (le_length_of_lineAt?_eq_some hLine).2
  have hCut :=
    segmentation_contents properties
      (List.drop_zero (l := before ++ after))
      (Nat.zero_add _)
  rcases contents_append_of_incomplete hIncomplete after with
    ⟨later, hBoth, hResumes⟩
  rw [hBoth] at hCut ⊢
  cases hResumes with
  | closed parsed rest others hStatements hSame hText =>
      left
      have hParsed :
          parsed ∈
            ((contents 0 properties before).followedBy
              later).statements := by
        simp [Contents.followedBy, hStatements]
      refine ⟨parsed, hParsed, hSame ▸ hStart, ?_⟩
      have hStatement :=
        hCut.cut _ (List.mem_map_of_mem hParsed)
      have hOrder := hStatement.startLine_le
      rw [hSame] at hOrder
      rcases hStatement.last_ends with
        ⟨last, hLast, hEnds⟩
      -- No line of the first ones ends the statement.
      by_contra hBefore
      rw [lineAt?_append_of_le (Nat.le_of_not_lt hBefore)]
        at hLast
      have hContinues := hOpen.continues _ _ hOrder hLast
      rw [hEnds] at hContinues
      cases hContinues
  | stillOpen rest hStatements hTermination =>
      exact Or.inr ⟨_, hTermination, hStart⟩

/- The statements in lines that go no further stay there. -/
theorem statements_displaced_contents
    {count : Nat}
    (hStop :
      (contents 0 properties before).termination.stopLine
          before.length ≤ before.length + 1) :
    ((contents 0 properties before).displaced
        before.length count).statements =
      (contents 0 properties before).statements := by
  refine Contents.statements_displaced_of_le ?_
  intro parsed hParsed
  have hBounds :=
    bounds_of_mem_contents List.drop_zero (Nat.zero_add _)
      hParsed
  have hLast :=
    Nat.lt_of_lt_of_le hBounds.2.2 hStop
  exact ⟨hBounds.2.1, Nat.le_of_lt_succ hLast⟩

/- Nothing lies behind a malformed directive. -/
theorem displaced_contents_of_malformed
    {lineNumber count : Nat}
    {malformed : String}
    (hMalformed :
      (contents 0 properties before).termination =
        .malformedDirective lineNumber malformed) :
    (contents 0 properties before).displaced
        before.length count =
      contents 0 properties before := by
  have hLine : lineNumber ≤ before.length := by
    have hStops :=
      (segmentation_contents properties
        (List.drop_zero (l := before))
        (Nat.zero_add _)).stops
    rw [hMalformed] at hStops
    exact (le_length_of_lineAt?_eq_some hStops.1).2
  have hStop :
      (contents 0 properties before).termination.stopLine
          before.length ≤ before.length + 1 := by
    rw [hMalformed]
    exact Nat.le_succ_of_le hLine
  have hTermination :
      ((contents 0 properties before).displaced
          before.length count).termination =
        (contents 0 properties before).termination := by
    rw [Contents.displaced, hMalformed,
      Termination.displaced, displaced_of_le hLine]
  exact
    congrArg₂
      (fun statements termination =>
        Contents.mk statements termination
          (contents 0 properties before).properties)
      (statements_displaced_contents hStop) hTermination

/-
  Behind lines that are read to their end, the contents of
  the others are displaced.
-/
theorem displaced_contents_of_exhausted
    {count : Nat}
    (hExhausted :
      (contents 0 properties before).termination =
        .exhausted)
    (after : List String) :
    (contents 0 properties (before ++ after)).displaced
        before.length count =
      (contents 0 properties before).followedBy
        (contents (before.length + count)
          (contents 0 properties before).properties
          after) := by
  have hSuffix :
      (before ++ after).drop before.length = after :=
    List.drop_left
  have hLength :
      before.length + after.length =
        (before ++ after).length :=
    List.length_append.symm
  have hStop :
      (contents 0 properties before).termination.stopLine
          before.length ≤ before.length + 1 := by
    rw [hExhausted]
    exact Nat.le_refl _
  have hAfter :
      (contents before.length
          (contents 0 properties before).properties
          after).displaced before.length count =
        contents (before.length + count)
          (contents 0 properties before).properties
          after := by
    have hMoved :=
      contents_behind before.length count PropertyMap.empty
        (contents 0 properties before).properties after
    rw [PropertyMap.empty_overwrite] at hMoved
    rw [hMoved]
    refine Contents.displaced_of_lt ?_
      (segmentation_contents _ hSuffix hLength).stops_behind
    intro parsed hParsed
    have hBounds :=
      bounds_of_mem_contents hSuffix hLength hParsed
    exact ⟨hBounds.1, hBounds.2.1⟩
  rw [contents_append_of_exhausted hExhausted, Nat.zero_add,
    Contents.displaced_followedBy, hAfter,
    Contents.followedBy, statements_displaced_contents hStop]
  rfl

/-
  Lines that mean nothing may be put in at each position that
  lies in no statement.
-/
theorem contents_insert
    (before after : List String)
    (hInert : ∀ line ∈ inserted, IsInert line)
    (hOutside :
      ¬ (contents 0 properties (before ++ after)).IsOpenAt
        before.length) :
    contents 0 properties (before ++ (inserted ++ after)) =
      (contents 0 properties (before ++ after)).displaced
        before.length inserted.length := by
  cases hEnd : (contents 0 properties before).termination with
  | exhausted =>
      rw [displaced_contents_of_exhausted hEnd,
        contents_append_of_exhausted hEnd,
        contents_append_of_isInert hInert, Nat.zero_add]
  | malformedDirective lineNumber malformed =>
      rw [contents_append_of_malformed hEnd,
        contents_append_of_malformed hEnd,
        displaced_contents_of_malformed hEnd]
  | incompleteStatement incomplete =>
      exact
        absurd (isOpenAt_of_incomplete hEnd after) hOutside

end Script

end KsqlBatch

------------------------------------------------------------
-- Scripts
------------------------------------------------------------

namespace KsqlBatch

/-
  Blank lines and comments may be put into a script wherever
  they do not come to stand within a statement. Only numbers
  of lines change, by the lines that are put in before them.
-/
theorem parseStatements_insert
    (before inserted after : List String)
    (hLines :
      ∀ line ∈ before ++ (inserted ++ after),
        Text.IsLine line.toList)
    (hInert :
      ∀ line ∈ inserted,
        Script.trimLine line = "" ∨
          ['-', '-'] <+: (Script.trimLine line).toList)
    (hBetween :
      ∀ parsed ∈
        (parseStatements
          (EndedLine.unlines (before ++ after))).statements,
        ¬ (parsed.statement.startLine ≤ before.length ∧
          before.length < parsed.statement.endLine))
    (hNotOpen :
      ∀ incomplete,
        (parseStatements
          (EndedLine.unlines
            (before ++ after))).termination =
          some (.incompleteStatement incomplete) →
        before.length < incomplete.startLine) :
    let shorter := EndedLine.unlines (before ++ after)
    let longer :=
      EndedLine.unlines (before ++ (inserted ++ after))
    (parseStatements longer).statements =
        (parseStatements shorter).statements.map
          (ParsedStatement.displaced
            before.length inserted.length) ∧
      (parseStatements longer).termination =
        (parseStatements shorter).termination.map
          (Termination.displaced
            before.length inserted.length) ∧
      ∃ properties,
        (Parser.ofText shorter).EndsWith properties ∧
          (Parser.ofText longer).EndsWith properties := by
  intro shorter longer
  have hShorter :
      Script.trimmedLines shorter =
        before.map Script.trimLine ++
          after.map Script.trimLine := by
    rw [← List.map_append]
    refine EndedLine.trimmedLines_unlines ?_
    intro line hLine
    apply hLines line
    simp only [List.mem_append] at hLine ⊢
    exact hLine.imp_right Or.inr
  have hLonger :
      Script.trimmedLines longer =
        before.map Script.trimLine ++
          (inserted.map Script.trimLine ++
            after.map Script.trimLine) := by
    rw [← List.map_append, ← List.map_append]
    exact EndedLine.trimmedLines_unlines hLines
  have hOutside :
      ¬ (Script.contentsOf shorter).IsOpenAt
        before.length := by
    rintro (⟨parsed, hParsed, hWithin⟩ |
      ⟨incomplete, hIncomplete, hBehind⟩)
    · rw [← statements_parseStatements] at hParsed
      exact hBetween parsed hParsed hWithin
    · refine Nat.not_le_of_lt (hNotOpen incomplete ?_) hBehind
      rw [termination_parseStatements, hIncomplete]
  have hInsert :
      Script.contentsOf longer =
        (Script.contentsOf shorter).displaced
          before.length inserted.length := by
    rw [Script.contentsOf, hShorter] at hOutside
    rw [Script.contentsOf, Script.contentsOf, hShorter,
      hLonger]
    have hTrimmed :
        ∀ line ∈ inserted.map Script.trimLine,
          Script.IsInert line := by
      intro line hLine
      rcases List.mem_map.mp hLine with ⟨raw, hRaw, rfl⟩
      exact Script.isInert_of_comment (hInert raw hRaw)
    have hPosition :
        (before.map Script.trimLine).length =
          before.length :=
      List.length_map _
    have hCount :
        (inserted.map Script.trimLine).length =
          inserted.length :=
      List.length_map _
    rw [← hPosition] at hOutside
    rw [← hPosition, ← hCount]
    exact Script.contents_insert _ _ hTrimmed hOutside
  rw [statements_parseStatements, statements_parseStatements,
    termination_parseStatements, termination_parseStatements,
    hInsert]
  refine ⟨rfl, rfl, _, Parser.endsWith_ofText shorter, ?_⟩
  have hLongerEnd := Parser.endsWith_ofText longer
  rw [hInsert] at hLongerEnd
  exact hLongerEnd

/-
  A comment may stand between two statements whatever it
  says. The first statement stays where it is.
-/
theorem parseStatements_of_commented_script :
    let text :=
      EndedLine.unlines
        ["SET 'a' = 'b';", "x", ";",
          " -- SET 'a' = 'c';", "\t", "y;", "z"]
    (parseStatements text).statements =
        [{ statement :=
            { text := "x\n;", startLine := 2, endLine := 3 }
           properties := PropertyMap.empty.insert "a" "b" },
          { statement :=
            { text := "y;", startLine := 6, endLine := 6 }
            properties :=
              PropertyMap.empty.insert "a" "b" }] ∧
      (parseStatements text).termination =
        some
          (.incompleteStatement
            { startLine := 7, fragment := "z" }) := by
  have hInsert :=
    parseStatements_insert
      ["SET 'a' = 'b';", "x", ";"]
      [" -- SET 'a' = 'c';", "\t"] ["y;", "z"]
      (by decide +kernel) (by decide +kernel)
      (by decide +kernel)
      (by
        have hStop :
            (parseStatements
              (EndedLine.unlines
                (["SET 'a' = 'b';", "x", ";"] ++
                  ["y;", "z"]))).termination =
              some
                (.incompleteStatement
                  { startLine := 5, fragment := "z" }) := by
          decide +kernel
        intro incomplete hIncomplete
        rw [hStop] at hIncomplete
        cases hIncomplete
        decide)
  refine ⟨hInsert.1.trans ?_, hInsert.2.1.trans ?_⟩
  · decide +kernel
  · decide +kernel

end KsqlBatch
