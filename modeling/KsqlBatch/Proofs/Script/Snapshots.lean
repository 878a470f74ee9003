import KsqlBatch.Proofs.Script.Properties
import KsqlBatch.Proofs.Script.Segmentation
import Mathlib.Data.List.Basic

/-
  This file says which directives count for a statement: those
  in the lines before it that lie in no statement. The same
  holds of the properties at the end of a script, with the
  line where it stops in place of the statement.

  Key definitions include:
    * `Script.directiveAt?`
    * `Script.directivesBetween`
    * `Script.Contents.IsSnapshot`

  The main results are `Script.Contents.IsSnapshot.eq_applyAll`
  and, for the parser, `parseStatements_snapshots`.
-/

------------------------------------------------------------
-- Directives by Line
------------------------------------------------------------

namespace KsqlBatch

instance
    (statement : Statement)
    (number : Nat) :
    Decidable (statement.Covers number) := by
  unfold Statement.Covers
  infer_instance

namespace Script

/-
  The directive in the line with a number, if the line is a
  directive that lies in no statement and can be read.
-/
def directiveAt?
    (lines : List String)
    (statements : List Statement)
    (number : Nat) : Option Directive :=
  match lineAt? lines number with
  | none => none
  | some line =>
      if ∃ statement ∈ statements,
          statement.Covers number then none
      else if classify line = .directive then
        Directive.parse? line
      else none

/-
  The directives in lines from a first number on, before
  another one, that lie in no statement.
-/
def directivesBetween
    (lines : List String)
    (statements : List Statement)
    (first stop : Nat) : List Directive :=
  (List.range' first (stop - first)).filterMap
    (directiveAt? lines statements)

variable {lines : List String}
variable {statements : List Statement}
variable {first stop : Nat}

@[simp] theorem directivesBetween_self :
    directivesBetween lines statements first first =
      [] := by
  simp [directivesBetween]

theorem directivesBetween_of_lt
    (hLess : first < stop) :
    directivesBetween lines statements first stop =
      (directiveAt? lines statements first).toList ++
        directivesBetween lines statements
          (first + 1) stop := by
  have hCount :
      stop - first = (stop - (first + 1)) + 1 := by
    omega
  rw [directivesBetween, hCount, List.range'_succ,
    List.filterMap_cons]
  cases directiveAt? lines statements first <;> rfl

theorem directivesBetween_append
    {middle : Nat}
    (hFirst : first ≤ middle)
    (hStop : middle ≤ stop) :
    directivesBetween lines statements first stop =
      directivesBetween lines statements first middle ++
        directivesBetween lines statements middle stop := by
  have hCount :
      stop - first = (middle - first) + (stop - middle) := by
    omega
  have hMiddle : first + 1 * (middle - first) = middle := by
    omega
  rw [directivesBetween, hCount, ← List.range'_append,
    List.filterMap_append, hMiddle]
  rfl

theorem directivesBetween_congr
    {others : List Statement}
    (hSame :
      ∀ number,
        first ≤ number →
        directiveAt? lines statements number =
          directiveAt? lines others number) :
    directivesBetween lines statements first stop =
      directivesBetween lines others first stop := by
  apply List.filterMap_congr
  intro number hNumber
  exact hSame number (List.mem_range'_1.mp hNumber).1

/- Within a statement there are no directives. -/
theorem directiveAt?_eq_none_of_covers
    {statement : Statement}
    {number : Nat}
    (hStatement : statement ∈ statements)
    (hCovers : statement.Covers number) :
    directiveAt? lines statements number = none := by
  rw [directiveAt?]
  split
  · rfl
  · rw [if_pos ⟨statement, hStatement, hCovers⟩]

theorem directivesBetween_eq_nil_of_covers
    {statement : Statement}
    (hStatement : statement ∈ statements)
    (hFirst : statement.startLine ≤ first)
    (hStop : stop ≤ statement.endLine + 1) :
    directivesBetween lines statements first stop =
      [] := by
  apply List.filterMap_eq_nil_iff.mpr
  intro number hNumber
  have hRange := List.mem_range'_1.mp hNumber
  exact
    directiveAt?_eq_none_of_covers hStatement
      ⟨by omega, by omega⟩

/- Behind a statement it does not matter any more. -/
theorem directiveAt?_cons
    {statement : Statement}
    {number : Nat}
    (hBehind : statement.endLine < number) :
    directiveAt? lines (statement :: statements) number =
      directiveAt? lines statements number := by
  have hCovers : ¬ statement.Covers number := by
    intro hCovers
    have hLast := hCovers.2
    omega
  simp only [directiveAt?, List.exists_mem_cons_iff, hCovers,
    false_or]

/- The directive of a line that lies in no statement. -/
theorem directiveAt?_of_outside
    {number : Nat}
    {line : String}
    (hLine : lineAt? lines number = some line)
    (hOutside :
      ∀ statement ∈ statements,
        ¬ statement.Covers number) :
    directiveAt? lines statements number =
      if classify line = .directive then
        Directive.parse? line
      else none := by
  have hNone :
      ¬ ∃ statement ∈ statements,
        statement.Covers number := by
    rintro ⟨statement, hStatement, hCovers⟩
    exact hOutside statement hStatement hCovers
  simp only [directiveAt?, hLine, hNone, if_false]

end Script

end KsqlBatch

------------------------------------------------------------
-- Snapshots
------------------------------------------------------------

namespace KsqlBatch

namespace Script

/-
  Properties that are in force at a line: those of a
  statement that begins there, or those at the end of the
  contents if reading stops there.
-/
def Contents.IsSnapshot
    (contents : Contents)
    (total number : Nat)
    (properties : PropertyMap) : Prop :=
  (∃ parsed ∈ contents.statements,
    parsed.statement.startLine = number ∧
    parsed.properties = properties) ∨
  (contents.termination.stopLine total = number ∧
    contents.properties = properties)

variable {total number place : Nat}
variable {properties snapshot : PropertyMap}
variable {contents : Contents}

theorem Contents.isSnapshot_stop
    {termination : Termination}
    (hSnapshot :
      (stop termination properties).IsSnapshot
        total place snapshot) :
    termination.stopLine total = place ∧
      properties = snapshot := by
  rcases hSnapshot with ⟨parsed, hParsed, _⟩ | hEnd
  · cases hParsed
  · exact hEnd

theorem Contents.isSnapshot_prepend
    {parsed : ParsedStatement}
    (hSnapshot :
      (contents.prepend parsed).IsSnapshot
        total place snapshot) :
    (parsed.statement.startLine = place ∧
      parsed.properties = snapshot) ∨
    contents.IsSnapshot total place snapshot := by
  rcases hSnapshot with ⟨other, hOther, hPlace⟩ | hEnd
  · rcases List.mem_cons.mp hOther with rfl | hLater
    · exact Or.inl hPlace
    · exact Or.inr (Or.inl ⟨other, hLater, hPlace⟩)
  · exact Or.inr (Or.inr hEnd)

/- Properties are in force only behind the lines before. -/
theorem Segmentation.lt_of_isSnapshot
    {lines : List String}
    (hCut :
      Segmentation lines number
        (contents.statements.map (·.statement))
        contents.termination)
    (hSnapshot :
      contents.IsSnapshot lines.length place snapshot) :
    number < place := by
  rcases hSnapshot with ⟨parsed, hParsed, hPlace, _⟩ |
    ⟨hPlace, _⟩
  · rw [← hPlace]
    exact
      (hCut.inside parsed.statement
        (List.mem_map_of_mem hParsed)).1
  · rw [← hPlace]
    exact hCut.stops_behind

end Script

end KsqlBatch

------------------------------------------------------------
-- Directives that Count
------------------------------------------------------------

namespace KsqlBatch

namespace Script

variable {lines suffix : List String}
variable {number : Nat}
variable {properties : PropertyMap}

/- The lines to come are cut as their contents say. -/
theorem segmentation_contents
    (properties : PropertyMap)
    (hSuffix : lines.drop number = suffix)
    (hLength : number + suffix.length = lines.length) :
    Segmentation lines number
      ((contents number properties
        suffix).statements.map (·.statement))
      (contents number properties suffix).termination :=
  (segmentation_iff_contents lines _ _ number properties
    suffix hSuffix hLength).mpr ⟨rfl, rfl⟩

/-
  Behind a line between two statements, the directive on this
  line counts before those to come, if it is one.
-/
theorem Contents.IsSnapshot.behindLine
    {rest : List String}
    {line : String}
    {place : Nat}
    {snapshot : PropertyMap}
    (hLines : lines.drop number = line :: rest)
    (hLength :
      number + (line :: rest).length = lines.length)
    (hSnapshot :
      (contents (number + 1) properties rest).IsSnapshot
        lines.length place snapshot) :
    lines.drop (number + 1) = rest ∧
      number + 1 + rest.length = lines.length ∧
      directivesBetween lines
          ((contents (number + 1) properties
            rest).statements.map (·.statement))
          (number + 1) place =
        (if classify line = .directive then
          Directive.parse? line
        else none).toList ++
          directivesBetween lines
            ((contents (number + 1) properties
              rest).statements.map (·.statement))
            (number + 1 + 1) place := by
  have hRest := drop_succ_of_drop_eq_cons hLines
  have hLater :
      number + 1 + rest.length = lines.length := by
    simp only [List.length_cons] at hLength
    omega
  have hCut := segmentation_contents properties hRest hLater
  have hPlace := hCut.lt_of_isSnapshot hSnapshot
  refine ⟨hRest, hLater, ?_⟩
  rw [directivesBetween_of_lt hPlace,
    directiveAt?_of_outside
      (lineAt?_of_drop_eq_cons hLines)]
  intro statement hStatement hCovers
  have hInside := (hCut.inside statement hStatement).1
  have hFirst := hCovers.1
  omega

/- Behind a statement only the directives behind it count. -/
theorem directivesBetween_of_statement
    {statement : Statement}
    {statements : List Statement}
    {place : Nat}
    (hStart : statement.startLine = number + 1)
    (hEnd : number < statement.endLine)
    (hPlace : statement.endLine < place) :
    directivesBetween lines (statement :: statements)
        (number + 1) place =
      directivesBetween lines statements
        (statement.endLine + 1) place := by
  rw [directivesBetween_append
      (Nat.succ_le_succ (Nat.le_of_lt hEnd))
      (Nat.succ_le_of_lt hPlace),
    directivesBetween_eq_nil_of_covers List.mem_cons_self
      (Nat.le_of_eq hStart) (Nat.le_refl _),
    List.nil_append]
  apply directivesBetween_congr
  intro other hOther
  exact directiveAt?_cons hOther

/-
  Properties in force at a line come from the properties
  before all lines and the directives before that line which
  lie in no statement, in order.
-/
theorem Contents.IsSnapshot.eq_applyAll
    {place : Nat}
    {snapshot : PropertyMap}
    (hSuffix : lines.drop number = suffix)
    (hLength : number + suffix.length = lines.length)
    (hSnapshot :
      (contents number properties suffix).IsSnapshot
        lines.length place snapshot) :
    snapshot =
      properties.applyAll
        (directivesBetween lines
          ((contents number properties
            suffix).statements.map (·.statement))
          (number + 1) place) := by
  induction number, properties, suffix
    using contents_induction with
  | exhausted number properties =>
      rw [contents_nil] at hSnapshot ⊢
      rcases isSnapshot_stop hSnapshot with ⟨hPlace, rfl⟩
      simp only [Termination.stopLine] at hPlace
      simp only [List.length_nil, Nat.add_zero] at hLength
      rw [← hPlace, hLength, directivesBetween_self,
        PropertyMap.applyAll_nil]
  | inert number properties line rest hInert ih =>
      have hKind : classify line ≠ .directive := by
        rcases hInert with hKind | hKind <;> simp [hKind]
      rw [contents_cons_of_isInert hInert] at hSnapshot ⊢
      rcases hSnapshot.behindLine hSuffix hLength with
        ⟨hRest, hLater, hBetween⟩
      rw [hBetween, if_neg hKind]
      exact ih hRest hLater hSnapshot
  | directive number properties line rest found hKind hRead
      ih =>
      rw [contents_cons_of_directive hKind hRead]
        at hSnapshot ⊢
      rcases hSnapshot.behindLine hSuffix hLength with
        ⟨hRest, hLater, hBetween⟩
      rw [hBetween, if_pos hKind, hRead]
      exact ih hRest hLater hSnapshot
  | malformed number properties line rest hMalformed =>
      rw [contents_cons_of_isMalformed hMalformed]
        at hSnapshot ⊢
      rcases isSnapshot_stop hSnapshot with ⟨hPlace, rfl⟩
      simp only [Termination.stopLine] at hPlace
      rw [← hPlace, directivesBetween_self,
        PropertyMap.applyAll_nil]
  | statement number properties line rest block later hKind
      hClosed ih =>
      have hLines : block ++ later = line :: rest :=
        append_eq_of_closeStatement?_eq_some hClosed
      have hRest :
          lines.drop (number + block.length) = later :=
        drop_add_of_drop_eq_append
          (hSuffix.trans hLines.symm)
      have hLater :
          number + block.length + later.length =
            lines.length := by
        rw [← hLength, ← hLines, List.length_append]
        omega
      have hEnd :
          (statementAt (number + 1) block).endLine =
            number + block.length := by
        simp only [statementAt]
        omega
      have hOrder :=
        (isCutFrom_statementAt hSuffix hKind
          hClosed).startLine_le
      rw [contents_cons_of_closed hKind hClosed]
        at hSnapshot ⊢
      rcases isSnapshot_prepend hSnapshot with
        ⟨hPlace, rfl⟩ | hBehind
      · simp only [statementAt] at hPlace
        rw [← hPlace, directivesBetween_self,
          PropertyMap.applyAll_nil]
      · have hCut :=
          segmentation_contents properties hRest hLater
        have hPlace := hCut.lt_of_isSnapshot hBehind
        simp only [statements_prepend, List.map_cons]
        rw [directivesBetween_of_statement rfl hOrder
            (hEnd ▸ hPlace), hEnd]
        exact ih hRest hLater hBehind
  | incomplete number properties line rest hKind hOpen =>
      rw [contents_cons_of_open hKind hOpen] at hSnapshot ⊢
      rcases isSnapshot_stop hSnapshot with ⟨hPlace, rfl⟩
      simp only [Termination.stopLine, incompleteAt]
        at hPlace
      rw [← hPlace, directivesBetween_self,
        PropertyMap.applyAll_nil]

end Script

end KsqlBatch

------------------------------------------------------------
-- Scripts
------------------------------------------------------------

namespace KsqlBatch

/-
  The snapshot of a statement comes from the directives
  before its first line that lie in no statement: each sets
  its property in turn, so the last one for a key counts. A
  statement is yielded with this snapshot, whatever follows.
  When the parser has stopped, the directives before the line
  where it stops have set its properties in the same way.
-/
theorem parseStatements_snapshots
    (text : String) :
    let lines := Script.trimmedLines text
    let statements :=
      (parseStatements text).statements.map (·.statement)
    let before := Script.directivesBetween lines statements 1
    (∀ parsed ∈ (parseStatements text).statements,
      parsed.properties =
          PropertyMap.empty.applyAll
            (before parsed.statement.startLine) ∧
        ∀ key,
          parsed.properties.get? key =
            ((before
              parsed.statement.startLine).reverse.find?
                (·.key = key)).map (·.value)) ∧
    (∀ calls parsed,
      ((Parser.ofText text).after calls).next.1 =
          some (.ok parsed) →
        (parseStatements text).statements[calls]? =
          some parsed) ∧
    ∃ termination,
      (parseStatements text).termination =
        some termination ∧
      (∀ calls,
        ((Parser.ofText text).after calls).state = .done →
          ((Parser.ofText text).after calls).properties =
            PropertyMap.empty.applyAll
              (before
                (termination.stopLine lines.length))) ∧
      ∃ calls,
        ((Parser.ofText text).after calls).state =
          .done := by
  intro lines statements before
  have hWaits := Parser.waits_ofText text
  have hBefore :
      before =
        Script.directivesBetween lines
          ((Script.contentsOf text).statements.map
            (·.statement)) 1 := by
    simp only [before, statements,
      statements_parseStatements]
  have hSnapshot :
      ∀ number snapshot,
        (Script.contentsOf text).IsSnapshot lines.length
            number snapshot →
          snapshot =
            PropertyMap.empty.applyAll (before number) := by
    intro number snapshot hSnapshot
    rw [hBefore]
    exact
      hSnapshot.eq_applyAll List.drop_zero (Nat.zero_add _)
  refine ⟨?_, ?_, (Script.contentsOf text).termination,
    termination_parseStatements text, ?_, ?_⟩
  · intro parsed hParsed
    rw [statements_parseStatements] at hParsed
    have hProperties :=
      hSnapshot parsed.statement.startLine parsed.properties
        (Or.inl ⟨parsed, hParsed, rfl, rfl⟩)
    refine ⟨hProperties, ?_⟩
    intro key
    rw [hProperties, PropertyMap.get?_applyAll]
    cases (before parsed.statement.startLine).reverse.find?
        (·.key = key) <;> rfl
  · intro calls parsed hYields
    rw [statements_parseStatements]
    exact hWaits.getElem?_of_next hYields
  · intro calls hDone
    have hStopped := hWaits.stopped_of_done hDone
    rw [hStopped.properties_eq]
    exact hSnapshot _ _ (Or.inr ⟨rfl, rfl⟩)
  · refine ⟨lines.length + 1, ?_⟩
    have hStopped :=
      hWaits.stopped_after (Nat.lt_succ_self lines.length)
    rw [Parser.state, hStopped.phase_eq]
    rfl

/-
  Of three values for one key the statement in line four gets
  the first: the second one stands within a statement, and
  the third one comes too late for it but not for the end.
-/
theorem snapshots_between_directives :
    let text :=
      "SET 'a' = '1';\nSELECT\nSET 'a' = '2';\n" ++
        "SELECT 3;\nSET 'a' = '3';"
    let statements :=
      (parseStatements text).statements.map (·.statement)
    let before :=
      Script.directivesBetween (Script.trimmedLines text)
        statements 1
    let parsed : ParsedStatement :=
      { statement :=
          { text := "SELECT 3;", startLine := 4, endLine := 4 }
        properties := PropertyMap.empty.insert "a" "1" }
    (parsed ∈ (parseStatements text).statements ∧
      parsed.properties =
        PropertyMap.empty.applyAll (before 4)) ∧
    (((Parser.ofText text).after 1).next.1 =
        some (.ok parsed) ∧
      (parseStatements text).statements[1]? =
        some parsed) ∧
    ∃ stop,
      ((Parser.ofText text).after 3).state = .done ∧
        ((Parser.ofText text).after 3).properties =
          PropertyMap.empty.applyAll (before stop) := by
  intro text statements before parsed
  have hParsed :
      parsed ∈ (parseStatements text).statements := by
    decide +kernel
  have hYields :
      ((Parser.ofText text).after 1).next.1 =
        some (.ok parsed) := by
    decide +kernel
  have hDone :
      ((Parser.ofText text).after 3).state = .done := by
    decide +kernel
  rcases parseStatements_snapshots text with
    ⟨hSnapshots, hPlaces, termination, _, hEnd, _⟩
  exact
    ⟨⟨hParsed, (hSnapshots parsed hParsed).1⟩,
      ⟨hYields, hPlaces 1 parsed hYields⟩,
      _, hDone, hEnd 3 hDone⟩

end KsqlBatch
