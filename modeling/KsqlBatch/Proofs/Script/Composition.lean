import KsqlBatch.Proofs.Script.Calls
import KsqlBatch.Proofs.Script.Properties
import KsqlBatch.Proofs.Text.Lines

/-
  This file says what a script contains that is put together
  from two. Behind a first script that is read to its end the
  second one is read as it is by itself, except that its
  lines count on and that its properties are set over those
  of the first. Behind a malformed directive nothing is read,
  and a statement that is left open goes on.

  Key definitions include:
    * `Script.Contents.behind`
    * `Script.Contents.followedBy`
    * `Parser.EndsWith`

  Key theorems include:
    * `Script.contents_behind`
    * `Script.contents_append_of_exhausted`
    * `Script.contents_append_of_malformed`
    * `Script.contents_append_of_incomplete`

  The main result is `parseStatements_append`.
-/

------------------------------------------------------------
-- Places Behind Other Lines
------------------------------------------------------------

namespace KsqlBatch

/- A statement once further lines stand before it. -/
def Statement.behind
    (statement : Statement)
    (number : Nat) : Statement :=
  { statement with
    startLine := statement.startLine + number
    endLine := statement.endLine + number }

/- A snapshot once further properties are set before it. -/
def ParsedStatement.behind
    (number : Nat)
    (below : PropertyMap)
    (parsed : ParsedStatement) : ParsedStatement where
  statement := parsed.statement.behind number
  properties := below.overwrite parsed.properties

/- A reason once further lines stand before its line. -/
def Termination.behind
    (number : Nat) : Termination → Termination
| .exhausted => .exhausted
| .malformedDirective lineNumber line =>
    .malformedDirective (lineNumber + number) line
| .incompleteStatement incomplete =>
    .incompleteStatement
      { incomplete with
        startLine := incomplete.startLine + number }

namespace Script

/- Contents once other lines and properties precede them. -/
def Contents.behind
    (number : Nat)
    (below : PropertyMap)
    (contents : Contents) : Contents where
  statements :=
    contents.statements.map
      (ParsedStatement.behind number below)
  termination := contents.termination.behind number
  properties := below.overwrite contents.properties

/- Contents of which the second part follows the first. -/
def Contents.followedBy
    (contents later : Contents) : Contents :=
  { later with
    statements := contents.statements ++ later.statements }

variable {number : Nat}
variable {below properties : PropertyMap}

theorem statementAt_behind
    (first : Nat)
    {block : List String}
    (hBlock : block ≠ []) :
    (statementAt first block).behind number =
      statementAt (first + number) block := by
  have hLength : 0 < block.length :=
    List.length_pos_iff.mpr hBlock
  simp only [statementAt, Statement.behind,
    Statement.mk.injEq, true_and]
  omega

/-
  Nothing else than the number of the lines and the
  properties in force matters to what further lines contain.
-/
theorem contents_behind
    (first number : Nat)
    (below properties : PropertyMap)
    (lines : List String) :
    contents (first + number) (below.overwrite properties)
        lines =
      (contents first properties lines).behind
        number below := by
  induction first, properties, lines
    using contents_induction with
  | exhausted first properties =>
      rw [contents_nil, contents_nil]
      rfl
  | inert first properties line rest hInert ih =>
      rw [contents_cons_of_isInert hInert,
        contents_cons_of_isInert hInert, ← ih,
        Nat.add_right_comm]
  | directive first properties line rest found hKind hRead
      ih =>
      rw [contents_cons_of_directive hKind hRead,
        contents_cons_of_directive hKind hRead, ← ih,
        Nat.add_right_comm, PropertyMap.overwrite_insert]
  | malformed first properties line rest hMalformed =>
      rw [contents_cons_of_isMalformed hMalformed,
        contents_cons_of_isMalformed hMalformed,
        Nat.add_right_comm]
      rfl
  | statement first properties line rest block later hKind
      hClosed ih =>
      have hBlock : block ≠ [] := by
        rcases exists_of_closeStatement?_eq_some hClosed with
          ⟨before, last, rfl, _⟩
        simp
      have hStatement :
          statementAt (first + number + 1) block =
            (statementAt (first + 1) block).behind
              number := by
        rw [statementAt_behind _ hBlock, Nat.add_right_comm]
      rw [contents_cons_of_closed hKind hClosed,
        contents_cons_of_closed hKind hClosed, hStatement,
        Nat.add_right_comm, ih]
      rfl
  | incomplete first properties line rest hKind hOpen =>
      rw [contents_cons_of_open hKind hOpen,
        contents_cons_of_open hKind hOpen,
        Nat.add_right_comm]
      rfl

/- Contents that start from an initial state lie behind it. -/
theorem contents_eq_behind
    (number : Nat)
    (below : PropertyMap)
    (lines : List String) :
    contents number below lines =
      (contents 0 PropertyMap.empty lines).behind
        number below := by
  rw [← contents_behind, Nat.zero_add,
    PropertyMap.overwrite_empty]

end Script

end KsqlBatch

------------------------------------------------------------
-- Lines Behind Contents
------------------------------------------------------------

namespace KsqlBatch

namespace Script

variable {number : Nat}
variable {properties : PropertyMap}
variable {lines : List String}

/- A statement that is closed is read whatever follows. -/
theorem contents_cons_append_of_closed
    {line : String}
    {rest block later : List String}
    (hKind : classify line = .text)
    (hClosed :
      closeStatement? (line :: rest) = some (block, later))
    (more : List String) :
    contents number properties (line :: rest ++ more) =
      (contents (number + block.length) properties
        (later ++ more)).prepend
        { statement := statementAt (number + 1) block
          properties } :=
  contents_cons_of_closed hKind
    (closeStatement?_append_of_eq_some hClosed more)

/-
  Lines that are read to their end hand the number of lines
  and their properties on to the lines behind them.
-/
theorem contents_append_of_exhausted
    (hExhausted :
      (contents number properties lines).termination =
        .exhausted)
    (more : List String) :
    contents number properties (lines ++ more) =
      (contents number properties lines).followedBy
        (contents (number + lines.length)
          (contents number properties lines).properties
          more) := by
  induction number, properties, lines
    using contents_induction with
  | exhausted number properties =>
      simp [Contents.followedBy]
  | inert number properties line rest hInert ih =>
      rw [contents_cons_of_isInert hInert] at hExhausted ⊢
      rw [List.cons_append, contents_cons_of_isInert hInert,
        ih hExhausted, List.length_cons,
        Nat.add_right_comm, Nat.add_assoc]
  | directive number properties line rest found hKind hRead
      ih =>
      rw [contents_cons_of_directive hKind hRead]
        at hExhausted ⊢
      rw [List.cons_append,
        contents_cons_of_directive hKind hRead,
        ih hExhausted, List.length_cons,
        Nat.add_right_comm, Nat.add_assoc]
  | malformed number properties line rest hMalformed =>
      rw [contents_cons_of_isMalformed hMalformed]
        at hExhausted
      cases hExhausted
  | statement number properties line rest block later hKind
      hClosed ih =>
      have hLines : block ++ later = line :: rest :=
        append_eq_of_closeStatement?_eq_some hClosed
      rw [contents_cons_of_closed hKind hClosed]
        at hExhausted ⊢
      rw [contents_cons_append_of_closed hKind hClosed,
        ih hExhausted, ← hLines, List.length_append,
        Nat.add_assoc]
      rfl
  | incomplete number properties line rest hKind hOpen =>
      rw [contents_cons_of_open hKind hOpen] at hExhausted
      cases hExhausted

/- Nothing is read behind a malformed directive. -/
theorem contents_append_of_malformed
    {lineNumber : Nat}
    {malformed : String}
    (hMalformed :
      (contents number properties lines).termination =
        .malformedDirective lineNumber malformed)
    (more : List String) :
    contents number properties (lines ++ more) =
      contents number properties lines := by
  induction number, properties, lines
    using contents_induction with
  | exhausted number properties =>
      rw [contents_nil] at hMalformed
      cases hMalformed
  | inert number properties line rest hInert ih =>
      rw [contents_cons_of_isInert hInert] at hMalformed ⊢
      rw [List.cons_append, contents_cons_of_isInert hInert,
        ih hMalformed]
  | directive number properties line rest found hKind hRead
      ih =>
      rw [contents_cons_of_directive hKind hRead]
        at hMalformed ⊢
      rw [List.cons_append,
        contents_cons_of_directive hKind hRead,
        ih hMalformed]
  | malformed number properties line rest hHere =>
      rw [List.cons_append,
        contents_cons_of_isMalformed hHere,
        contents_cons_of_isMalformed hHere]
  | statement number properties line rest block later hKind
      hClosed ih =>
      rw [contents_cons_of_closed hKind hClosed]
        at hMalformed ⊢
      rw [contents_cons_append_of_closed hKind hClosed,
        ih hMalformed]
  | incomplete number properties line rest hKind hOpen =>
      rw [contents_cons_of_open hKind hOpen] at hMalformed
      cases hMalformed

end Script

end KsqlBatch

------------------------------------------------------------
-- Lines Behind an Open Statement
------------------------------------------------------------

namespace KsqlBatch

namespace Script

variable {number : Nat}
variable {properties : PropertyMap}

/-
  Contents that go on with an open statement: it is the first
  of their statements, or they leave it open in their turn.
-/
inductive Contents.Resumes
    (contents : Contents)
    (incomplete : IncompleteStatement) : Prop
| closed
    (parsed : ParsedStatement)
    (rest : String)
    (later : List ParsedStatement)
    (hStatements : contents.statements = parsed :: later)
    (hStart :
      parsed.statement.startLine = incomplete.startLine)
    (hText :
      parsed.statement.text =
        incomplete.fragment ++ "\n" ++ rest)
| stillOpen
    (rest : String)
    (hStatements : contents.statements = [])
    (hTermination :
      contents.termination =
        .incompleteStatement
          { incomplete with
            fragment := incomplete.fragment ++ rest })

/- Further lines add to the text of an open statement. -/
theorem resumes_append_of_open
    {line : String}
    {rest : List String}
    (hKind : classify line = .text)
    (hOpen : closeStatement? (line :: rest) = none)
    (more : List String) :
    (contents number properties
      (line :: rest ++ more)).Resumes
        (incompleteAt (number + 1) (line :: rest)) := by
  have hLines : line :: rest ≠ [] := List.cons_ne_nil _ _
  have hCut := closeStatement?_append_of_eq_none hOpen more
  cases hMore : closeStatement? more with
  | some cut =>
      rcases cut with ⟨block, later⟩
      rw [hMore, Option.map_some] at hCut
      have hBlock : block ≠ [] := by
        rcases exists_of_closeStatement?_eq_some hMore with
          ⟨before, last, rfl, _⟩
        simp
      have hContents :
          contents number properties (line :: rest ++ more) =
            (contents
              (number + (line :: rest ++ block).length)
              properties later).prepend
              { statement :=
                  statementAt (number + 1)
                    (line :: rest ++ block)
                properties } :=
        contents_cons_of_closed hKind hCut
      rw [hContents]
      apply Contents.Resumes.closed
      · exact Contents.statements_prepend _ _
      · rfl
      · exact
          String.intercalate_append_of_ne_nil hLines hBlock
  | none =>
      rw [hMore, Option.map_none] at hCut
      have hContents :
          contents number properties (line :: rest ++ more) =
            .stop
              (.incompleteStatement
                (incompleteAt (number + 1)
                  (line :: rest ++ more)))
              properties :=
        contents_cons_of_open hKind hCut
      rw [hContents]
      by_cases hEnd : more = []
      · apply Contents.Resumes.stillOpen ""
        · rfl
        · simp [hEnd, incompleteAt]
      · apply Contents.Resumes.stillOpen
          ("\n" ++ "\n".intercalate more)
        · rfl
        · rw [Contents.termination_stop, incompleteAt,
            String.intercalate_append_of_ne_nil hLines hEnd,
            String.append_assoc]
          rfl

/- A statement that is left open is taken up again. -/
theorem contents_append_of_incomplete
    {lines : List String}
    {incomplete : IncompleteStatement}
    (hIncomplete :
      (contents number properties lines).termination =
        .incompleteStatement incomplete)
    (more : List String) :
    ∃ later : Contents,
      contents number properties (lines ++ more) =
        (contents number properties lines).followedBy later ∧
      later.Resumes incomplete := by
  induction number, properties, lines
    using contents_induction with
  | exhausted number properties =>
      rw [contents_nil] at hIncomplete
      cases hIncomplete
  | inert number properties line rest hInert ih =>
      rw [contents_cons_of_isInert hInert] at hIncomplete ⊢
      rw [List.cons_append, contents_cons_of_isInert hInert]
      exact ih hIncomplete
  | directive number properties line rest found hKind hRead
      ih =>
      rw [contents_cons_of_directive hKind hRead]
        at hIncomplete ⊢
      rw [List.cons_append,
        contents_cons_of_directive hKind hRead]
      exact ih hIncomplete
  | malformed number properties line rest hMalformed =>
      rw [contents_cons_of_isMalformed hMalformed]
        at hIncomplete
      cases hIncomplete
  | statement number properties line rest block later hKind
      hClosed ih =>
      rw [contents_cons_of_closed hKind hClosed]
        at hIncomplete ⊢
      rw [contents_cons_append_of_closed hKind hClosed]
      rcases ih hIncomplete with ⟨others, hOthers, hResumes⟩
      refine ⟨others, ?_, hResumes⟩
      rw [hOthers]
      rfl
  | incomplete number properties line rest hKind hOpen =>
      rw [contents_cons_of_open hKind hOpen] at hIncomplete ⊢
      cases hIncomplete
      exact ⟨_, rfl, resumes_append_of_open hKind hOpen more⟩

end Script

end KsqlBatch

------------------------------------------------------------
-- Whole Scripts
------------------------------------------------------------

namespace KsqlBatch

/-
  A parser stops after some calls, and whenever it has
  stopped it has these properties.
-/
def Parser.EndsWith
    (parser : Parser)
    (properties : PropertyMap) : Prop :=
  (∃ calls, (parser.after calls).state = .done) ∧
    ∀ calls,
      (parser.after calls).state = .done →
      (parser.after calls).properties = properties

/- The parser of a script ends with the final properties. -/
theorem Parser.endsWith_ofText
    (text : String) :
    (Parser.ofText text).EndsWith
      (Script.contentsOf text).properties := by
  have hWaits := Parser.waits_ofText text
  constructor
  · have hStopped :=
      hWaits.stopped_after
        (Parser.length_lt_callBound_ofText text)
    refine ⟨(ofText text).callBound, ?_⟩
    rw [Parser.state, hStopped.phase_eq]
    rfl
  · intro calls hDone
    exact (hWaits.stopped_of_done hDone).properties_eq

namespace Script

/-
  A script that is cut behind the end of a line has the lines
  of both parts.
-/
theorem trimmedLines_append
    {first second : String}
    (hEnds : Text.EndsLine first.toList)
    (hApart :
      ¬ Text.Straddles first.toList second.toList) :
    trimmedLines (first ++ second) =
      trimmedLines first ++ trimmedLines second := by
  simp only [trimmedLines, LineCursor.ofText,
    LineCursor.yields_eq, Text.lines, String.toList_append,
    Text.splitLines_append hEnds hApart, List.map_append]

/- There are as many trimmed lines as there are lines. -/
theorem length_trimmedLines
    (text : String) :
    (trimmedLines text).length =
      (Text.lines text).length := by
  rw [trimmedLines, LineCursor.ofText, LineCursor.yields_eq,
    List.length_map]

end Script

/-
  What a script contains that is put together from two, by
  the way in which the first one ends. The first one is empty
  or ends with the end of a line, and no line end lies partly
  in both.
-/
theorem parseStatements_append
    (first second : String)
    (hEnds : Text.EndsLine first.toList)
    (hApart :
      ¬ Text.Straddles first.toList second.toList) :
    ((parseStatements first).termination =
        some .exhausted →
      ∃ properties,
        (Parser.ofText first).EndsWith properties ∧
        (parseStatements (first ++ second)).statements =
          (parseStatements first).statements ++
            (parseStatements second).statements.map
              (ParsedStatement.behind
                (Text.lines first).length properties) ∧
        (parseStatements (first ++ second)).termination =
          (parseStatements second).termination.map
            (Termination.behind (Text.lines first).length)) ∧
    (∀ lineNumber line,
      (parseStatements first).termination =
        some (.malformedDirective lineNumber line) →
      (parseStatements (first ++ second)).statements =
          (parseStatements first).statements ∧
        (parseStatements (first ++ second)).termination =
          (parseStatements first).termination) ∧
    ∀ incomplete,
      (parseStatements first).termination =
        some (.incompleteStatement incomplete) →
      ∃ later,
        (parseStatements (first ++ second)).statements =
          (parseStatements first).statements ++ later ∧
        ((∃ parsed rest others,
          later = parsed :: others ∧
          parsed.statement.startLine =
            incomplete.startLine ∧
          parsed.statement.text =
            incomplete.fragment ++ "\n" ++ rest) ∨
        ∃ rest,
          later = [] ∧
          (parseStatements (first ++ second)).termination =
            some
              (.incompleteStatement
                { incomplete with
                  fragment :=
                    incomplete.fragment ++ rest })) := by
  have hLines := Script.trimmedLines_append hEnds hApart
  simp only [statements_parseStatements,
    termination_parseStatements, Option.map_some,
    Option.some.injEq]
  refine ⟨?_, ?_, ?_⟩
  · intro hExhausted
    refine ⟨_, Parser.endsWith_ofText first, ?_⟩
    have hBoth :
        Script.contentsOf (first ++ second) =
          (Script.contentsOf first).followedBy
            ((Script.contentsOf second).behind
              (Text.lines first).length
              (Script.contentsOf first).properties) := by
      rw [Script.contentsOf, hLines,
        Script.contents_append_of_exhausted hExhausted,
        Nat.zero_add, Script.length_trimmedLines,
        Script.contents_eq_behind (Text.lines first).length]
      rfl
    rw [hBoth]
    exact ⟨rfl, rfl⟩
  · intro lineNumber line hMalformed
    have hBoth :
        Script.contentsOf (first ++ second) =
          Script.contentsOf first := by
      rw [Script.contentsOf, hLines]
      exact
        Script.contents_append_of_malformed hMalformed _
    rw [hBoth]
    exact ⟨rfl, rfl⟩
  · intro incomplete hIncomplete
    rcases
      Script.contents_append_of_incomplete hIncomplete
        (Script.trimmedLines second) with
      ⟨later, hBoth, hResumes⟩
    have hWhole :
        Script.contentsOf (first ++ second) =
          (Script.contentsOf first).followedBy later := by
      rw [Script.contentsOf, hLines]
      exact hBoth
    rw [hWhole]
    refine ⟨later.statements, rfl, ?_⟩
    cases hResumes with
    | closed parsed rest others hStatements hStart hText =>
        exact
          Or.inl
            ⟨parsed, rest, others, hStatements, hStart,
              hText⟩
    | stillOpen rest hStatements hTermination =>
        exact Or.inr ⟨rest, hStatements, hTermination⟩

/-
  The properties that the first part ends with are overwritten
  where the second part sets them, and kept otherwise. Behind
  a malformed directive nothing is read, and a statement that
  is left open takes up the second part.
-/
theorem parseStatements_of_two_parts :
    (parseStatements
        ("SET 'a' = '1';\nSET 'b' = '2';\nx;\r" ++
          "\rSET 'a' = '3';\ny\n;\nSET")).statements =
      [{ statement :=
          { text := "x;", startLine := 3, endLine := 3 }
         properties :=
          (PropertyMap.empty.insert "a" "1").insert
            "b" "2" },
        { statement :=
          { text := "y\n;", startLine := 6, endLine := 7 }
          properties :=
            (PropertyMap.empty.insert "a" "3").insert
              "b" "2" }] ∧
      (parseStatements ("SET a\n" ++ "x;")).statements =
        [] ∧
      ∃ later,
        (parseStatements ("x;\ny\n" ++ "z")).statements =
          (parseStatements "x;\ny\n").statements ++ later ∧
        ((∃ parsed rest others,
          later = parsed :: others ∧
          parsed.statement.startLine = 2 ∧
          parsed.statement.text = "y" ++ "\n" ++ rest) ∨
        ∃ rest,
          later = [] ∧
          (parseStatements ("x;\ny\n" ++ "z")).termination =
            some
              (.incompleteStatement
                { startLine := 2
                  fragment := "y" ++ rest })) := by
  refine ⟨?_, ?_, ?_⟩
  · rcases
      (parseStatements_append
        "SET 'a' = '1';\nSET 'b' = '2';\nx;\r"
        "\rSET 'a' = '3';\ny\n;\nSET"
        (by decide) (by decide)).1 (by decide +kernel) with
      ⟨properties, hEndsWith, hStatements, _⟩
    have hProperties := hEndsWith.2 2 (by decide +kernel)
    rw [hStatements, ← hProperties]
    decide +kernel
  · have hMalformed :=
      (parseStatements_append "SET a\n" "x;"
        (by decide) (by decide)).2.1 1 "SET a"
          (by decide +kernel)
    rw [hMalformed.1]
    decide +kernel
  · exact
      (parseStatements_append "x;\ny\n" "z"
        (by decide) (by decide)).2.2
          { startLine := 2, fragment := "y" }
          (by decide +kernel)

end KsqlBatch
