import KsqlBatch.Proofs.Script.Calls
import Mathlib.Tactic.ByContra

/-
  This file says, without reading them in order, how numbered
  lines are cut into statements: which blocks of lines are
  statements, which lines may lie between them, and where and
  why the cutting stops. There is only one way to cut given
  lines, and it is the one of their contents.

  Key definitions include:
    * `Script.lineAt?`
    * `Statement.IsCutFrom`
    * `Termination.StopsIn`
    * `Script.IsAccounted`
    * `Script.Segmentation`

  The main results are `Script.segmentation_iff_contents`
  and, for the parser, `parseStatements_segmentation`.
-/

------------------------------------------------------------
-- Numbered Lines
------------------------------------------------------------

namespace KsqlBatch

namespace Script

/- The line with a number. Lines count from one. -/
def lineAt?
    (lines : List String) : Nat → Option String
| 0 => none
| index + 1 => lines[index]?

/- The lines from one number up to another. -/
def linesBetween
    (lines : List String)
    (first last : Nat) : List String :=
  (lines.drop (first - 1)).take (last + 1 - first)

/- Numbers count on behind the lines that are dropped. -/
theorem lineAt?_add
    (lines : List String)
    (number index : Nat) :
    lineAt? lines (number + 1 + index) =
      (lines.drop number)[index]? := by
  have hNumber :
      number + 1 + index = (number + index) + 1 := by
    omega
  rw [hNumber, lineAt?, List.getElem?_drop]

theorem lineAt?_of_drop_eq_cons
    {lines rest : List String}
    {number : Nat}
    {line : String}
    (hLines : lines.drop number = line :: rest) :
    lineAt? lines (number + 1) = some line := by
  have hAt := lineAt?_add lines number 0
  rw [hLines] at hAt
  exact hAt

theorem le_length_of_lineAt?_eq_some
    {lines : List String}
    {number : Nat}
    {line : String}
    (hLine : lineAt? lines number = some line) :
    1 ≤ number ∧ number ≤ lines.length := by
  cases number with
  | zero => cases hLine
  | succ index =>
      rcases List.getElem?_eq_some_iff.mp hLine with
        ⟨hIndex, _⟩
      omega

theorem lt_length_of_drop_eq_cons
    {lines rest : List String}
    {number : Nat}
    {line : String}
    (hLines : lines.drop number = line :: rest) :
    number < lines.length :=
  (le_length_of_lineAt?_eq_some
    (lineAt?_of_drop_eq_cons hLines)).2

theorem drop_succ_of_drop_eq_cons
    {lines rest : List String}
    {number : Nat}
    {line : String}
    (hLines : lines.drop number = line :: rest) :
    lines.drop (number + 1) = rest := by
  rw [← List.drop_drop, hLines]
  rfl

theorem drop_add_of_drop_eq_append
    {lines block later : List String}
    {number : Nat}
    (hLines : lines.drop number = block ++ later) :
    lines.drop (number + block.length) = later := by
  rw [← List.drop_drop, hLines, List.drop_left]

theorem linesBetween_block
    {lines block later : List String}
    {number : Nat}
    (hLines : lines.drop number = block ++ later) :
    linesBetween lines (number + 1)
      (number + block.length) = block := by
  have hFirst : number + 1 - 1 = number := by omega
  have hCount :
      number + block.length + 1 - (number + 1) =
        block.length := by
    omega
  rw [linesBetween, hFirst, hCount, hLines, List.take_left]

end Script

end KsqlBatch

------------------------------------------------------------
-- Segmentations
------------------------------------------------------------

namespace KsqlBatch

namespace Statement

/- A line lies in a statement. -/
def Covers
    (statement : Statement)
    (number : Nat) : Prop :=
  statement.startLine ≤ number ∧ number ≤ statement.endLine

/-
  A statement is cut from lines: it begins with a text, ends
  at the first line that ends a statement, and consists of
  the lines from the one to the other.
-/
structure IsCutFrom
    (statement : Statement)
    (lines : List String) : Prop where
  startLine_le : statement.startLine ≤ statement.endLine
  first_text :
    ∃ line,
      Script.lineAt? lines statement.startLine = some line ∧
      Script.classify line = .text
  inner_continues :
    ∀ number line,
      statement.startLine ≤ number →
      number < statement.endLine →
      Script.lineAt? lines number = some line →
      Script.endsStatement line = false
  last_ends :
    ∃ line,
      Script.lineAt? lines statement.endLine = some line ∧
      Script.endsStatement line = true
  text_eq :
    statement.text =
      "\n".intercalate
        (Script.linesBetween lines
          statement.startLine statement.endLine)

end Statement

namespace IncompleteStatement

/-
  A statement is left open: it begins with a text, no line
  from there on ends a statement, and it consists of all
  these lines.
-/
structure IsLeftOpen
    (incomplete : IncompleteStatement)
    (lines : List String) : Prop where
  first_text :
    ∃ line,
      Script.lineAt? lines incomplete.startLine =
        some line ∧
      Script.classify line = .text
  continues :
    ∀ number line,
      incomplete.startLine ≤ number →
      Script.lineAt? lines number = some line →
      Script.endsStatement line = false
  fragment_eq :
    incomplete.fragment =
      "\n".intercalate
        (Script.linesBetween lines
          incomplete.startLine lines.length)

end IncompleteStatement

namespace Termination

/-
  The first line that no longer counts, of a total number of
  lines.
-/
def stopLine
    (total : Nat) : Termination → Nat
| .exhausted => total + 1
| .malformedDirective lineNumber _ => lineNumber
| .incompleteStatement incomplete => incomplete.startLine

/- The lines give the reason to stop. -/
def StopsIn
    (lines : List String) : Termination → Prop
| .exhausted => True
| .malformedDirective lineNumber line =>
    Script.lineAt? lines lineNumber = some line ∧
      Script.IsMalformed line
| .incompleteStatement incomplete =>
    incomplete.IsLeftOpen lines

end Termination

namespace Script

/- A line lies in a statement, or it may lie between two. -/
def IsAccounted
    (lines : List String)
    (statements : List Statement)
    (number : Nat) : Prop :=
  (∃ statement ∈ statements, statement.Covers number) ∨
    ∃ line,
      lineAt? lines number = some line ∧ IsPassedOver line

/-
  Behind a number of lines, the others are cut into
  statements. These are disjoint and in order, the lines
  between them may be passed over, and the cutting goes on
  until there is a reason to stop.
-/
structure Segmentation
    (lines : List String)
    (number : Nat)
    (statements : List Statement)
    (termination : Termination) : Prop where
  ascending :
    statements.Pairwise fun earlier later =>
      earlier.endLine < later.startLine
  cut :
    ∀ statement ∈ statements, statement.IsCutFrom lines
  inside :
    ∀ statement ∈ statements,
      number < statement.startLine ∧
      statement.endLine <
        termination.stopLine lines.length
  accounted :
    ∀ other,
      number < other →
      other < termination.stopLine lines.length →
      IsAccounted lines statements other
  stops_behind :
    number < termination.stopLine lines.length
  stops : termination.StopsIn lines

end Script

end KsqlBatch

------------------------------------------------------------
-- Stops
------------------------------------------------------------

namespace KsqlBatch

namespace Termination

/- A line at which lines stop is the reason for it. -/
theorem StopsIn.eq_of_stopLine_eq
    {lines : List String}
    {termination : Termination}
    {number : Nat}
    {line : String}
    (hStops : termination.StopsIn lines)
    (hLine : Script.lineAt? lines number = some line)
    (hStop : termination.stopLine lines.length = number) :
    (termination = .malformedDirective number line ∧
      Script.IsMalformed line) ∨
    ∃ incomplete,
      termination = .incompleteStatement incomplete ∧
      incomplete.startLine = number ∧
      incomplete.IsLeftOpen lines ∧
      Script.classify line = .text := by
  cases termination with
  | exhausted =>
      have hBound :=
        (Script.le_length_of_lineAt?_eq_some hLine).2
      simp only [stopLine] at hStop
      omega
  | malformedDirective lineNumber malformed =>
      simp only [stopLine] at hStop
      subst hStop
      rcases hStops with ⟨hMalformedLine, hMalformed⟩
      have hSame : malformed = line :=
        Option.some.inj (hMalformedLine.symm.trans hLine)
      subst hSame
      exact Or.inl ⟨rfl, hMalformed⟩
  | incompleteStatement incomplete =>
      simp only [stopLine] at hStop
      have hOpen : incomplete.IsLeftOpen lines := hStops
      rcases hOpen.first_text with ⟨first, hFirst, hText⟩
      rw [hStop] at hFirst
      have hSame : first = line :=
        Option.some.inj (hFirst.symm.trans hLine)
      subst hSame
      exact
        Or.inr ⟨incomplete, rfl, hStop, hOpen, hText⟩

/- Lines do not stop at a line that may be passed over. -/
theorem StopsIn.stopLine_ne_of_isPassedOver
    {lines : List String}
    {termination : Termination}
    {number : Nat}
    {line : String}
    (hStops : termination.StopsIn lines)
    (hLine : Script.lineAt? lines number = some line)
    (hPassed : Script.IsPassedOver line) :
    termination.stopLine lines.length ≠ number := by
  intro hStop
  rcases hStops.eq_of_stopLine_eq hLine hStop with
    ⟨_, hMalformed⟩ | ⟨_, _, _, _, hText⟩
  · exact hPassed.not_isMalformed hMalformed
  · exact hPassed.classify_ne_text hText

/- Lines go on behind a line unless it gives a reason. -/
theorem StopsIn.stopLine_le_of_ne_exhausted
    {lines : List String}
    {termination : Termination}
    (hStops : termination.StopsIn lines)
    (hReason : termination ≠ .exhausted) :
    ∃ line,
      Script.lineAt? lines
        (termination.stopLine lines.length) = some line := by
  cases termination with
  | exhausted => exact absurd rfl hReason
  | malformedDirective lineNumber line =>
      exact ⟨line, hStops.1⟩
  | incompleteStatement incomplete =>
      have hOpen : incomplete.IsLeftOpen lines := hStops
      rcases hOpen.first_text with ⟨first, hFirst, _⟩
      exact ⟨first, hFirst⟩

end Termination

namespace Script

variable {lines : List String}
variable {number : Nat}
variable {statements : List Statement}
variable {termination : Termination}
variable {line : String}

/- Nothing is cut when lines stop at once. -/
theorem Segmentation.statements_eq_nil
    (hCut :
      Segmentation lines number statements termination)
    (hStop :
      termination.stopLine lines.length = number + 1) :
    statements = [] := by
  cases statements with
  | nil => rfl
  | cons statement later =>
      have hInside :=
        hCut.inside statement List.mem_cons_self
      have hOrder :=
        (hCut.cut statement
          List.mem_cons_self).startLine_le
      omega

/-
  When lines go on with a line that may not be passed over,
  a statement begins there.
-/
theorem Segmentation.exists_cons
    (hCut :
      Segmentation lines number statements termination)
    (hLine : lineAt? lines (number + 1) = some line)
    (hNotPassed : ¬ IsPassedOver line)
    (hStop :
      termination.stopLine lines.length ≠ number + 1) :
    ∃ first later,
      statements = first :: later ∧
      first.startLine = number + 1 := by
  have hBehind := hCut.stops_behind
  rcases hCut.accounted (number + 1) (by omega)
      (by omega) with
    ⟨covering, hCovering, hCovers⟩ | ⟨passed, hPassedLine,
      hPassed⟩
  · have hInside := (hCut.inside covering hCovering).1
    have hStart : covering.startLine = number + 1 := by
      have hFirst := hCovers.1
      omega
    cases statements with
    | nil => cases hCovering
    | cons first later =>
        rcases List.mem_cons.mp hCovering with rfl | hLater
        · exact ⟨covering, later, rfl, hStart⟩
        · have hGap :=
            (List.pairwise_cons.mp hCut.ascending).1
              covering hLater
          have hFirst :=
            (hCut.inside first List.mem_cons_self).1
          have hOrder :=
            (hCut.cut first
              List.mem_cons_self).startLine_le
          omega
  · have hSame : passed = line :=
      Option.some.inj (hPassedLine.symm.trans hLine)
    subst hSame
    exact absurd hPassed hNotPassed

end Script

end KsqlBatch

------------------------------------------------------------
-- One Line at a Time
------------------------------------------------------------

namespace KsqlBatch

namespace Script

variable {lines rest : List String}
variable {number : Nat}
variable {statements : List Statement}
variable {termination : Termination}
variable {line : String}

/- Without further lines there is nothing to cut. -/
theorem segmentation_of_no_lines
    (hLength : number = lines.length) :
    Segmentation lines number statements termination ↔
      statements = [] ∧ termination = .exhausted := by
  constructor
  · intro hCut
    have hReason : termination = .exhausted := by
      by_contra hReason
      rcases hCut.stops.stopLine_le_of_ne_exhausted hReason
        with ⟨line, hLine⟩
      have hBound := (le_length_of_lineAt?_eq_some hLine).2
      have hBehind := hCut.stops_behind
      omega
    refine ⟨hCut.statements_eq_nil ?_, hReason⟩
    rw [hReason, hLength]
    rfl
  · rintro ⟨rfl, rfl⟩
    exact
      { ascending := List.Pairwise.nil
        cut := by simp
        inside := by simp
        accounted := by
          intro other hBehind hBefore
          simp only [Termination.stopLine] at hBefore
          omega
        stops_behind := by
          simp only [Termination.stopLine]
          omega
        stops := True.intro }

/- A line that may be passed over does not affect the rest. -/
theorem segmentation_of_isPassedOver
    (hLine : lineAt? lines (number + 1) = some line)
    (hPassed : IsPassedOver line) :
    Segmentation lines number statements termination ↔
      Segmentation lines (number + 1) statements
        termination := by
  constructor
  · intro hCut
    have hStop :=
      hCut.stops.stopLine_ne_of_isPassedOver hLine hPassed
    have hBehind := hCut.stops_behind
    exact
      { ascending := hCut.ascending
        cut := hCut.cut
        inside := by
          intro statement hStatement
          have hInside := hCut.inside statement hStatement
          have hStart :
              statement.startLine ≠ number + 1 := by
            intro hStart
            rcases (hCut.cut statement
                hStatement).first_text with
              ⟨first, hFirst, hText⟩
            rw [hStart, hLine] at hFirst
            cases hFirst
            exact hPassed.classify_ne_text hText
          omega
        accounted := by
          intro other hOther hBefore
          exact hCut.accounted other (by omega) hBefore
        stops_behind := by omega
        stops := hCut.stops }
  · intro hCut
    have hBehind := hCut.stops_behind
    exact
      { ascending := hCut.ascending
        cut := hCut.cut
        inside := by
          intro statement hStatement
          have hInside := hCut.inside statement hStatement
          omega
        accounted := by
          intro other hOther hBefore
          by_cases hFirst : other = number + 1
          · rw [hFirst]
            exact Or.inr ⟨line, hLine, hPassed⟩
          · exact
              hCut.accounted other (by omega) hBefore
        stops_behind := by omega
        stops := hCut.stops }

/- Lines that stop at once are cut in one way. -/
theorem segmentation_of_stops
    (hStop :
      termination.stopLine lines.length = number + 1)
    (hStops : termination.StopsIn lines) :
    Segmentation lines number [] termination where
  ascending := List.Pairwise.nil
  cut := by simp
  inside := by simp
  accounted := by
    intro other hOther hBefore
    omega
  stops_behind := by omega
  stops := hStops

/- Lines stop at a directive that cannot be read. -/
theorem segmentation_of_isMalformed
    (hLine : lineAt? lines (number + 1) = some line)
    (hMalformed : IsMalformed line) :
    Segmentation lines number statements termination ↔
      statements = [] ∧
        termination =
          .malformedDirective (number + 1) line := by
  constructor
  · intro hCut
    have hNotPassed : ¬ IsPassedOver line :=
      fun hPassed => hPassed.not_isMalformed hMalformed
    have hStop :
        termination.stopLine lines.length =
          number + 1 := by
      by_contra hStop
      rcases hCut.exists_cons hLine hNotPassed hStop with
        ⟨first, later, rfl, hStart⟩
      rcases (hCut.cut first
          List.mem_cons_self).first_text with
        ⟨text, hText, hKind⟩
      rw [hStart, hLine] at hText
      cases hText
      simp [hMalformed.1] at hKind
    refine ⟨hCut.statements_eq_nil hStop, ?_⟩
    rcases hCut.stops.eq_of_stopLine_eq hLine hStop with
      ⟨hReason, _⟩ | ⟨_, _, _, _, hText⟩
    · exact hReason
    · simp [hMalformed.1] at hText
  · rintro ⟨rfl, rfl⟩
    exact segmentation_of_stops rfl ⟨hLine, hMalformed⟩

end Script

end KsqlBatch

------------------------------------------------------------
-- Whole Statements
------------------------------------------------------------

namespace KsqlBatch

namespace Statement

variable {lines : List String}

/- Statements that begin at the same line end at the same. -/
theorem IsCutFrom.endLine_le
    {statement other : Statement}
    (hStatement : statement.IsCutFrom lines)
    (hOther : other.IsCutFrom lines)
    (hStart : statement.startLine = other.startLine) :
    statement.endLine ≤ other.endLine := by
  by_contra hLonger
  rcases hOther.last_ends with ⟨last, hLast, hEnds⟩
  have hContinues :=
    hStatement.inner_continues other.endLine last
      (hStart ▸ hOther.startLine_le) (by omega) hLast
  simp [hEnds] at hContinues

/- A statement is given by the line where it begins. -/
theorem IsCutFrom.eq_of_startLine_eq
    {statement other : Statement}
    (hStatement : statement.IsCutFrom lines)
    (hOther : other.IsCutFrom lines)
    (hStart : statement.startLine = other.startLine) :
    statement = other := by
  have hEnd : statement.endLine = other.endLine :=
    Nat.le_antisymm
      (hStatement.endLine_le hOther hStart)
      (hOther.endLine_le hStatement hStart.symm)
  have hText : statement.text = other.text := by
    rw [hStatement.text_eq, hOther.text_eq, hStart, hEnd]
  cases statement
  cases other
  simp_all

/- A statement that ends is not left open. -/
theorem IsCutFrom.startLine_ne
    {statement : Statement}
    {incomplete : IncompleteStatement}
    (hStatement : statement.IsCutFrom lines)
    (hOpen : incomplete.IsLeftOpen lines) :
    incomplete.startLine ≠ statement.startLine := by
  intro hStart
  rcases hStatement.last_ends with ⟨last, hLast, hEnds⟩
  have hContinues :=
    hOpen.continues statement.endLine last
      (hStart ▸ hStatement.startLine_le) hLast
  simp [hEnds] at hContinues

end Statement

namespace IncompleteStatement

/- An open statement is given by the line where it begins. -/
theorem IsLeftOpen.eq_of_startLine_eq
    {lines : List String}
    {incomplete other : IncompleteStatement}
    (hOpen : incomplete.IsLeftOpen lines)
    (hOther : other.IsLeftOpen lines)
    (hStart : incomplete.startLine = other.startLine) :
    incomplete = other := by
  have hFragment : incomplete.fragment = other.fragment := by
    rw [hOpen.fragment_eq, hOther.fragment_eq, hStart]
  cases incomplete
  cases other
  simp_all

end IncompleteStatement

namespace Script

variable {lines rest : List String}
variable {number : Nat}
variable {statements : List Statement}
variable {termination : Termination}
variable {line : String}

/- A block that ends where it can be closed is a statement. -/
theorem isCutFrom_statementAt
    {block later : List String}
    (hLines : lines.drop number = line :: rest)
    (hKind : classify line = .text)
    (hClosed :
      closeStatement? (line :: rest) =
        some (block, later)) :
    (statementAt (number + 1) block).IsCutFrom lines := by
  rcases exists_of_closeStatement?_eq_some hClosed with
    ⟨before, last, hBlock, hBlockLater, hBefore, hEnds⟩
  have hLength : block.length = before.length + 1 := by
    simp [hBlock]
  have hEnd :
      (statementAt (number + 1) block).endLine =
        number + block.length := by
    simp only [statementAt]
    omega
  have hDrop : lines.drop number = block ++ later :=
    hLines.trans hBlockLater
  have hAt :
      ∀ index,
        lineAt? lines (number + 1 + index) =
          (before ++ last :: later)[index]? := by
    intro index
    rw [lineAt?_add, hDrop, hBlock]
    simp
  exact
    { startLine_le := by
        rw [hEnd]
        simp only [statementAt]
        omega
      first_text :=
        ⟨line, lineAt?_of_drop_eq_cons hLines, hKind⟩
      inner_continues := by
        intro other found hStart hInner hFound
        rw [hEnd] at hInner
        simp only [statementAt] at hStart
        have hIndex :
            other = number + 1 + (other - (number + 1)) := by
          omega
        rw [hIndex, hAt,
          List.getElem?_append_left (by omega)] at hFound
        exact
          hBefore found (List.mem_of_getElem? hFound)
      last_ends := by
        refine ⟨last, ?_, hEnds⟩
        have hIndex :
            (statementAt (number + 1) block).endLine =
              number + 1 + before.length := by
          omega
        rw [hIndex, hAt]
        simp
      text_eq := by
        rw [hEnd]
        simp only [statementAt]
        rw [linesBetween_block hDrop] }

/- Lines without an end of a statement are left open. -/
theorem isLeftOpen_incompleteAt
    (hLines : lines.drop number = line :: rest)
    (hKind : classify line = .text)
    (hOpen : closeStatement? (line :: rest) = none) :
    (incompleteAt (number + 1)
      (line :: rest)).IsLeftOpen lines := by
  have hDrop :
      lines.drop number = (line :: rest) ++ [] := by
    simpa using hLines
  have hLength :
      number + (line :: rest).length = lines.length := by
    have hDropLength := congrArg List.length hLines
    have hBound := lt_length_of_drop_eq_cons hLines
    rw [List.length_drop] at hDropLength
    omega
  exact
    { first_text :=
        ⟨line, lineAt?_of_drop_eq_cons hLines, hKind⟩
      continues := by
        intro other found hStart hFound
        simp only [incompleteAt] at hStart
        have hIndex :
            other = number + 1 + (other - (number + 1)) := by
          omega
        rw [hIndex, lineAt?_add, hLines] at hFound
        exact
          endsStatement_eq_false_of_closeStatement?_eq_none
            hOpen found (List.mem_of_getElem? hFound)
      fragment_eq := by
        rw [← hLength]
        simp only [incompleteAt]
        rw [linesBetween_block hDrop] }

end Script

end KsqlBatch

------------------------------------------------------------
-- Contents
------------------------------------------------------------

namespace KsqlBatch

namespace Script

variable {lines rest : List String}
variable {number : Nat}
variable {statements : List Statement}
variable {termination : Termination}
variable {line : String}

theorem not_isPassedOver_of_text
    (hKind : classify line = .text) :
    ¬ IsPassedOver line :=
  fun hPassed => hPassed.classify_ne_text hKind

/- Behind its first statement a segmentation goes on. -/
theorem Segmentation.tail
    {statement : Statement}
    (hCut :
      Segmentation lines number (statement :: statements)
        termination) :
    Segmentation lines statement.endLine statements
      termination where
  ascending := (List.pairwise_cons.mp hCut.ascending).2
  cut := fun other hOther =>
    hCut.cut other (List.mem_cons_of_mem _ hOther)
  inside := by
    intro other hOther
    have hGap :=
      (List.pairwise_cons.mp hCut.ascending).1 other hOther
    have hInside :=
      hCut.inside other (List.mem_cons_of_mem _ hOther)
    exact ⟨hGap, hInside.2⟩
  accounted := by
    intro other hOther hBefore
    have hInside := hCut.inside statement List.mem_cons_self
    have hOrder :=
      (hCut.cut statement List.mem_cons_self).startLine_le
    rcases hCut.accounted other (by omega) hBefore with
      ⟨covering, hCovering, hCovers⟩ | hPassed
    · rcases List.mem_cons.mp hCovering with rfl | hLater
      · have hLast := hCovers.2
        omega
      · exact Or.inl ⟨covering, hLater, hCovers⟩
    · exact Or.inr hPassed
  stops_behind :=
    (hCut.inside statement List.mem_cons_self).2
  stops := hCut.stops

/- A statement goes in front of what is cut behind it. -/
theorem Segmentation.cons
    {statement : Statement}
    (hStatement : statement.IsCutFrom lines)
    (hStart : statement.startLine = number + 1)
    (hCut :
      Segmentation lines statement.endLine statements
        termination) :
    Segmentation lines number (statement :: statements)
      termination where
  ascending :=
    List.pairwise_cons.mpr
      ⟨fun other hOther => (hCut.inside other hOther).1,
        hCut.ascending⟩
  cut := by
    intro other hOther
    rcases List.mem_cons.mp hOther with rfl | hLater
    · exact hStatement
    · exact hCut.cut other hLater
  inside := by
    have hOrder := hStatement.startLine_le
    intro other hOther
    rcases List.mem_cons.mp hOther with rfl | hLater
    · exact ⟨by omega, hCut.stops_behind⟩
    · have hInside := hCut.inside other hLater
      omega
  accounted := by
    intro other hOther hBefore
    by_cases hCovered : other ≤ statement.endLine
    · exact
        Or.inl
          ⟨statement, List.mem_cons_self, by omega,
            hCovered⟩
    · rcases hCut.accounted other (by omega) hBefore with
        ⟨covering, hCovering, hCovers⟩ | hPassed
      · exact
          Or.inl
            ⟨covering, List.mem_cons_of_mem _ hCovering,
              hCovers⟩
      · exact Or.inr hPassed
  stops_behind := by
    have hOrder := hStatement.startLine_le
    have hBehind := hCut.stops_behind
    omega
  stops := hCut.stops

/- A statement that can be closed is cut off first. -/
theorem segmentation_of_closed
    {block later : List String}
    (hLines : lines.drop number = line :: rest)
    (hKind : classify line = .text)
    (hClosed :
      closeStatement? (line :: rest) =
        some (block, later)) :
    Segmentation lines number statements termination ↔
      ∃ others,
        statements =
          statementAt (number + 1) block :: others ∧
        Segmentation lines (number + block.length) others
          termination := by
  have hStatement :=
    isCutFrom_statementAt hLines hKind hClosed
  have hLine := lineAt?_of_drop_eq_cons hLines
  have hEnd :
      (statementAt (number + 1) block).endLine =
        number + block.length := by
    simp only [statementAt]
    omega
  rw [← hEnd]
  constructor
  · intro hCut
    have hStop :
        termination.stopLine lines.length ≠
          number + 1 := by
      intro hStop
      rcases hCut.stops.eq_of_stopLine_eq hLine hStop with
        ⟨_, hMalformed⟩ | ⟨_, _, hStart, hOpen, _⟩
      · simp [hMalformed.1] at hKind
      · exact hStatement.startLine_ne hOpen hStart
    rcases hCut.exists_cons hLine
        (not_isPassedOver_of_text hKind) hStop with
      ⟨first, others, rfl, hStart⟩
    have hFirst :
        first = statementAt (number + 1) block :=
      (hCut.cut first
        List.mem_cons_self).eq_of_startLine_eq
          hStatement hStart
    subst hFirst
    exact ⟨others, rfl, hCut.tail⟩
  · rintro ⟨others, rfl, hCut⟩
    exact hCut.cons hStatement rfl

/- Lines stop at a statement that stays open. -/
theorem segmentation_of_open
    (hLines : lines.drop number = line :: rest)
    (hKind : classify line = .text)
    (hOpen : closeStatement? (line :: rest) = none) :
    Segmentation lines number statements termination ↔
      statements = [] ∧
        termination =
          .incompleteStatement
            (incompleteAt (number + 1) (line :: rest)) := by
  have hIncomplete :=
    isLeftOpen_incompleteAt hLines hKind hOpen
  have hLine := lineAt?_of_drop_eq_cons hLines
  constructor
  · intro hCut
    have hStop :
        termination.stopLine lines.length =
          number + 1 := by
      by_contra hStop
      rcases hCut.exists_cons hLine
          (not_isPassedOver_of_text hKind) hStop with
        ⟨first, others, rfl, hStart⟩
      exact
        (hCut.cut first List.mem_cons_self).startLine_ne
          hIncomplete hStart.symm
    refine ⟨hCut.statements_eq_nil hStop, ?_⟩
    rcases hCut.stops.eq_of_stopLine_eq hLine hStop with
      ⟨_, hMalformed⟩ | ⟨other, hReason, hStart, hOther, _⟩
    · simp [hMalformed.1] at hKind
    · rw [hReason]
      exact
        congrArg Termination.incompleteStatement
          (hOther.eq_of_startLine_eq hIncomplete hStart)
  · rintro ⟨rfl, rfl⟩
    exact segmentation_of_stops rfl hIncomplete

/-
  Lines can be cut in one way only: into the statements that
  they contain, up to the point where their contents end.
-/
theorem segmentation_iff_contents
    (lines : List String)
    (statements : List Statement)
    (termination : Termination)
    (number : Nat)
    (properties : PropertyMap)
    (suffix : List String)
    (hSuffix : lines.drop number = suffix)
    (hLength : number + suffix.length = lines.length) :
    Segmentation lines number statements termination ↔
      statements =
          (contents number properties
            suffix).statements.map (·.statement) ∧
        termination =
          (contents number properties
            suffix).termination := by
  induction number, properties, suffix
    using contents_induction generalizing statements with
  | exhausted number properties =>
      rw [segmentation_of_no_lines (by simpa using hLength),
        contents_nil]
      simp
  | inert number properties line rest hInert ih =>
      rw [segmentation_of_isPassedOver
          (lineAt?_of_drop_eq_cons hSuffix)
          (Or.inl hInert),
        contents_cons_of_isInert hInert]
      apply ih
      · exact drop_succ_of_drop_eq_cons hSuffix
      · simp only [List.length_cons] at hLength
        omega
  | directive number properties line rest found hKind hRead
      ih =>
      rw [segmentation_of_isPassedOver
          (lineAt?_of_drop_eq_cons hSuffix)
          (Or.inr ⟨hKind, by simp [hRead]⟩),
        contents_cons_of_directive hKind hRead]
      apply ih
      · exact drop_succ_of_drop_eq_cons hSuffix
      · simp only [List.length_cons] at hLength
        omega
  | malformed number properties line rest hMalformed =>
      rw [segmentation_of_isMalformed
          (lineAt?_of_drop_eq_cons hSuffix) hMalformed,
        contents_cons_of_isMalformed hMalformed]
      simp
  | statement number properties line rest block later hKind
      hClosed ih =>
      have hLines : block ++ later = line :: rest :=
        append_eq_of_closeStatement?_eq_some hClosed
      have hDrop :
          lines.drop (number + block.length) = later :=
        drop_add_of_drop_eq_append
          (hSuffix.trans hLines.symm)
      have hRest :
          number + block.length + later.length =
            lines.length := by
        rw [← hLength, ← hLines, List.length_append]
        omega
      rw [segmentation_of_closed hSuffix hKind hClosed,
        contents_cons_of_closed hKind hClosed]
      simp only [ih _ hDrop hRest,
        Contents.statements_prepend, List.map_cons,
        Contents.termination_prepend]
      constructor
      · rintro ⟨others, rfl, rfl, rfl⟩
        exact ⟨rfl, rfl⟩
      · rintro ⟨rfl, rfl⟩
        exact ⟨_, rfl, rfl, rfl⟩
  | incomplete number properties line rest hKind hOpen =>
      rw [segmentation_of_open hSuffix hKind hOpen,
        contents_cons_of_open hKind hOpen]
      simp

end Script

end KsqlBatch

------------------------------------------------------------
-- Reasons to Stop
------------------------------------------------------------

namespace KsqlBatch

namespace Script

variable {lines : List String}
variable {number : Nat}
variable {statements : List Statement}
variable {termination : Termination}

/-
  A directive that cannot be read lies in no statement, and
  all lines before it are accounted for.
-/
structure IsFirstMalformed
    (lines : List String)
    (statements : List Statement)
    (number : Nat)
    (line : String) : Prop where
  line_eq : lineAt? lines number = some line
  malformed : IsMalformed line
  outside :
    ∀ statement ∈ statements, ¬ statement.Covers number
  accounted :
    ∀ other,
      1 ≤ other →
      other < number →
      IsAccounted lines statements other

/-
  A statement that is left open begins outside of the other
  statements, and all lines before it are accounted for.
-/
structure IsFirstOpen
    (lines : List String)
    (statements : List Statement)
    (incomplete : IncompleteStatement) : Prop where
  leftOpen : incomplete.IsLeftOpen lines
  outside :
    ∀ statement ∈ statements,
      ¬ statement.Covers incomplete.startLine
  accounted :
    ∀ other,
      1 ≤ other →
      other < incomplete.startLine →
      IsAccounted lines statements other

/- No statement covers the line at which lines stop. -/
theorem Segmentation.not_covers_stopLine
    (hCut :
      Segmentation lines number statements termination) :
    ∀ statement ∈ statements,
      ¬ statement.Covers
        (termination.stopLine lines.length) := by
  intro statement hStatement hCovers
  have hInside := (hCut.inside statement hStatement).2
  have hLast := hCovers.2
  omega

/- The line at which lines stop is not accounted for. -/
theorem Segmentation.not_isAccounted_stopLine
    (hCut :
      Segmentation lines number statements termination) :
    ¬ IsAccounted lines statements
      (termination.stopLine lines.length) := by
  rintro (⟨statement, hStatement, hCovers⟩ |
    ⟨line, hLine, hPassed⟩)
  · exact
      hCut.not_covers_stopLine statement hStatement hCovers
  · exact
      hCut.stops.stopLine_ne_of_isPassedOver hLine hPassed
        rfl

/- Lines stop at the first line that is not accounted for. -/
theorem Segmentation.stopLine_eq
    {first : Nat}
    (hCut :
      Segmentation lines number statements termination)
    (hBehind : number < first)
    (hFirst : ¬ IsAccounted lines statements first)
    (hBefore :
      ∀ other,
        number < other →
        other < first →
        IsAccounted lines statements other) :
    termination.stopLine lines.length = first := by
  rcases Nat.lt_trichotomy
      (termination.stopLine lines.length) first with
    hLess | hSame | hMore
  · exact
      absurd (hBefore _ hCut.stops_behind hLess)
        hCut.not_isAccounted_stopLine
  · exact hSame
  · exact absurd (hCut.accounted first hBehind hMore) hFirst

theorem not_isAccounted_of_outside
    {line : String}
    (hLine : lineAt? lines number = some line)
    (hNotPassed : ¬ IsPassedOver line)
    (hOutside :
      ∀ statement ∈ statements,
        ¬ statement.Covers number) :
    ¬ IsAccounted lines statements number := by
  rintro (⟨statement, hStatement, hCovers⟩ |
    ⟨passed, hPassedLine, hPassed⟩)
  · exact hOutside statement hStatement hCovers
  · have hSame : passed = line :=
      Option.some.inj (hPassedLine.symm.trans hLine)
    exact hNotPassed (hSame ▸ hPassed)

/- Lines are read to their end if all are accounted for. -/
theorem Segmentation.eq_exhausted_iff
    (hCut : Segmentation lines 0 statements termination) :
    termination = .exhausted ↔
      ∀ other,
        1 ≤ other →
        other ≤ lines.length →
        IsAccounted lines statements other := by
  constructor
  · rintro rfl other hOther hBound
    exact
      hCut.accounted other hOther (Nat.lt_succ_of_le hBound)
  · intro hAll
    by_contra hReason
    rcases hCut.stops.stopLine_le_of_ne_exhausted hReason
      with ⟨line, hLine⟩
    have hBounds := le_length_of_lineAt?_eq_some hLine
    exact
      hCut.not_isAccounted_stopLine
        (hAll _ hBounds.1 hBounds.2)

/- Lines stop at a first directive that cannot be read. -/
theorem Segmentation.eq_malformedDirective_iff
    (hCut : Segmentation lines 0 statements termination)
    (number : Nat)
    (line : String) :
    termination = .malformedDirective number line ↔
      IsFirstMalformed lines statements number line := by
  constructor
  · rintro rfl
    exact
      { line_eq := hCut.stops.1
        malformed := hCut.stops.2
        outside := hCut.not_covers_stopLine
        accounted := fun other hOther hBefore =>
          hCut.accounted other hOther hBefore }
  · intro hFirst
    have hNotPassed : ¬ IsPassedOver line :=
      fun hPassed =>
        hPassed.not_isMalformed hFirst.malformed
    have hStop :
        termination.stopLine lines.length = number :=
      hCut.stopLine_eq
        (le_length_of_lineAt?_eq_some hFirst.line_eq).1
        (not_isAccounted_of_outside hFirst.line_eq
          hNotPassed hFirst.outside)
        hFirst.accounted
    rcases hCut.stops.eq_of_stopLine_eq hFirst.line_eq hStop
      with ⟨hReason, _⟩ | ⟨_, _, _, _, hText⟩
    · exact hReason
    · simp [hFirst.malformed.1] at hText

/- Lines stop at a first statement that stays open. -/
theorem Segmentation.eq_incompleteStatement_iff
    (hCut : Segmentation lines 0 statements termination)
    (incomplete : IncompleteStatement) :
    termination = .incompleteStatement incomplete ↔
      IsFirstOpen lines statements incomplete := by
  constructor
  · rintro rfl
    exact
      { leftOpen := hCut.stops
        outside := hCut.not_covers_stopLine
        accounted := fun other hOther hBefore =>
          hCut.accounted other hOther hBefore }
  · intro hFirst
    rcases hFirst.leftOpen.first_text with
      ⟨line, hLine, hKind⟩
    have hStop :
        termination.stopLine lines.length =
          incomplete.startLine :=
      hCut.stopLine_eq
        (le_length_of_lineAt?_eq_some hLine).1
        (not_isAccounted_of_outside hLine
          (not_isPassedOver_of_text hKind) hFirst.outside)
        hFirst.accounted
    rcases hCut.stops.eq_of_stopLine_eq hLine hStop with
      ⟨_, hMalformed⟩ | ⟨other, hReason, hStart, hOther, _⟩
    · simp [hMalformed.1] at hKind
    · rw [hReason]
      exact
        congrArg Termination.incompleteStatement
          (hOther.eq_of_startLine_eq hFirst.leftOpen hStart)

end Script

end KsqlBatch

------------------------------------------------------------
-- Scripts
------------------------------------------------------------

namespace KsqlBatch

/-
  The parser cuts a script in the only way in which its lines
  can be cut. It stops at the end if every line is accounted
  for, and otherwise at the first line that is not: a
  directive that cannot be read, or a statement that stays
  open. It never reads on behind the line where it stops.
-/
theorem parseStatements_segmentation
    (text : String) :
    let lines := Script.trimmedLines text
    let statements :=
      (parseStatements text).statements.map (·.statement)
    ∃ termination,
      (parseStatements text).termination =
        some termination ∧
      (∀ cut reason,
        Script.Segmentation lines 0 cut reason ↔
          cut = statements ∧ reason = termination) ∧
      (termination = .exhausted ↔
        ∀ number,
          1 ≤ number →
          number ≤ lines.length →
          Script.IsAccounted lines statements number) ∧
      (∀ number line,
        termination = .malformedDirective number line ↔
          Script.IsFirstMalformed lines statements
            number line) ∧
      (∀ incomplete,
        termination = .incompleteStatement incomplete ↔
          Script.IsFirstOpen lines statements incomplete) ∧
      ∀ calls,
        ((Parser.ofText text).after
            calls).cursor.lineNumber ≤
          termination.lastLine lines.length := by
  intro lines statements
  have hUnique :
      ∀ cut reason,
        Script.Segmentation lines 0 cut reason ↔
          cut = statements ∧
            reason =
              (Script.contentsOf text).termination := by
    intro cut reason
    simp only [statements, statements_parseStatements]
    exact
      Script.segmentation_iff_contents lines cut reason 0
        PropertyMap.empty lines List.drop_zero
        (Nat.zero_add _)
  have hCut := (hUnique _ _).mpr ⟨rfl, rfl⟩
  refine
    ⟨(Script.contentsOf text).termination,
      termination_parseStatements text, hUnique,
      hCut.eq_exhausted_iff,
      hCut.eq_malformedDirective_iff,
      hCut.eq_incompleteStatement_iff, ?_⟩
  intro calls
  have hRead :=
    (Parser.waits_ofText text).lineNumber_after_le calls
  rw [Nat.zero_add] at hRead
  exact hRead

end KsqlBatch
