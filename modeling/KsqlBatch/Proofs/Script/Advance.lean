import KsqlBatch.Proofs.Script.Contents
import KsqlBatch.Script.Reading

/-
  This file says what one call of the parser does, in terms
  of the contents of the lines to come. A call takes lines up
  to the end of the next statement, or else stops the parser
  for good.

  Key definitions include:
    * `Parser.Waits`
    * `Parser.Stopped`
    * `Parser.Advance`

  The main result is `Parser.Waits.advance`.
-/

------------------------------------------------------------
-- Single Lines
------------------------------------------------------------

namespace KsqlBatch

namespace Parser

/- The parser once a line has been read from its cursor. -/
def behindLine
    (parser : Parser)
    (pending : List String) : Parser :=
  { parser with
    cursor :=
      { pending
        lineNumber := parser.cursor.lineNumber + 1 } }

/- A call reads on until a line has an outcome. -/
theorem advanceOver_cons
    (parser : Parser)
    (logRev : List LogRecord)
    (raw : String)
    (pending : List String) :
    parser.advanceOver logRev (raw :: pending) =
      let step := (parser.behindLine pending).takeLine raw
      match step.outcome with
      | some outcome =>
          (outcome, step.parser,
            (step.log.reverse ++ logRev).reverse)
      | none =>
          step.parser.advanceOver
            (step.log.reverse ++ logRev) pending := rfl

/- Earlier records come first and change nothing else. -/
theorem advanceOver_log
    (parser : Parser)
    (logRev : List LogRecord)
    (pending : List String) :
    parser.advanceOver logRev pending =
      ((parser.advanceOver [] pending).1,
        (parser.advanceOver [] pending).2.1,
        logRev.reverse ++
          (parser.advanceOver [] pending).2.2) := by
  induction pending generalizing parser logRev with
  | nil => simp [advanceOver]
  | cons raw pending ih =>
      rw [advanceOver_cons, advanceOver_cons]
      generalize
        (parser.behindLine pending).takeLine raw = step
      cases hOutcome : step.outcome with
      | some outcome => simp [hOutcome]
      | none =>
          simp only [hOutcome]
          rw [ih step.parser (step.log.reverse ++ logRev),
            ih step.parser (step.log.reverse ++ [])]
          simp

variable {parser : Parser}

/- Between two statements a call begins with the next line. -/
theorem advance_of_idle
    (hPhase : parser.phase = .idle) :
    parser.advance =
      parser.advanceOver [] parser.cursor.pending := by
  simp [advance, hPhase]

@[simp] theorem advance_of_done
    (hPhase : parser.phase = .done) :
    parser.advance = (.ended, parser, []) := by
  simp [advance, hPhase]

/-
  A line without an outcome is read over: the call goes on
  behind it as a call of its own would.
-/
theorem advance_of_outcome_eq_none
    {raw : String}
    {pending : List String}
    {step : Step}
    (hPhase : parser.phase = .idle)
    (hPending : parser.cursor.pending = raw :: pending)
    (hStep :
      (parser.behindLine pending).takeLine raw = step)
    (hOutcome : step.outcome = none)
    (hIdle : step.parser.phase = .idle)
    (hRest : step.parser.cursor.pending = pending) :
    parser.advance =
      (step.parser.advance.1, step.parser.advance.2.1,
        step.log ++ step.parser.advance.2.2) := by
  rw [advance_of_idle hPhase, hPending, advanceOver_cons,
    hStep]
  simp only [hOutcome]
  rw [advanceOver_log, advance_of_idle hIdle, hRest]
  simp

/- A line with an outcome ends the call. -/
theorem advance_of_outcome_eq_some
    {raw : String}
    {pending : List String}
    {step : Step}
    {outcome : Outcome}
    (hPhase : parser.phase = .idle)
    (hPending : parser.cursor.pending = raw :: pending)
    (hStep :
      (parser.behindLine pending).takeLine raw = step)
    (hOutcome : step.outcome = some outcome) :
    parser.advance = (outcome, step.parser, step.log) := by
  rw [advance_of_idle hPhase, hPending, advanceOver_cons,
    hStep]
  simp [hOutcome]

end Parser

end KsqlBatch

------------------------------------------------------------
-- Positions
------------------------------------------------------------

namespace KsqlBatch

namespace Termination

/- The last line that is read, of a total number of lines. -/
def lastLine
    (total : Nat) : Termination → Nat
| .exhausted => total
| .malformedDirective lineNumber _ => lineNumber
| .incompleteStatement _ => total

/- The outcome of the call that stops the parser. -/
def outcome : Termination → Outcome
| .exhausted => .ended
| .malformedDirective _ _ => .ended
| .incompleteStatement incomplete => .failed incomplete

/- The call that stops the parser finds no statement. -/
theorem outcome_ne_statement
    (termination : Termination)
    (statement : Statement) :
    termination.outcome ≠ .statement statement := by
  intro hOutcome
  cases termination <;> simp [outcome] at hOutcome

end Termination

namespace Parser

/-
  The parser waits between two statements: behind a number
  of lines, with some properties, and in front of the rest.
-/
structure Waits
    (parser : Parser)
    (number : Nat)
    (properties : PropertyMap)
    (lines : List String) : Prop where
  phase_eq : parser.phase = .idle
  lineNumber_eq : parser.cursor.lineNumber = number
  properties_eq : parser.properties = properties
  lines_eq :
    parser.cursor.pending.map Script.trimLine = lines
  termination_eq : parser.termination = none

/- The parser has stopped at the end of some contents. -/
structure Stopped
    (parser : Parser)
    (total : Nat)
    (contents : Script.Contents) : Prop where
  phase_eq : parser.phase = .done
  lineNumber_eq :
    parser.cursor.lineNumber =
      contents.termination.lastLine total
  properties_eq : parser.properties = contents.properties
  current_eq : parser.current = none
  termination_eq :
    parser.termination = some contents.termination

/- The parser in front of a script waits for its first line. -/
theorem waits_ofText
    (text : String) :
    (Parser.ofText text).Waits 0 PropertyMap.empty
      (Script.trimmedLines text) where
  phase_eq := rfl
  lineNumber_eq := rfl
  properties_eq := rfl
  lines_eq :=
    congrArg (List.map Script.trimLine)
      (LineCursor.yields_eq _ 0).symm
  termination_eq := rfl

/-
  What a call may lead to in front of some lines: a statement
  with which their contents begin, or the end of contents
  without statements.
-/
inductive Advance
    (number : Nat)
    (properties : PropertyMap)
    (lines : List String) : Outcome → Parser → Prop
| statement
    {parser : Parser}
    (parsed : ParsedStatement)
    (next : Nat)
    (later : List String)
    (hWaits : parser.Waits next parsed.properties later)
    (hCurrent : parser.current = some parsed.statement)
    (hShorter : later.length < lines.length)
    (hTotal :
      next + later.length = number + lines.length)
    (hContents :
      Script.contents number properties lines =
        (Script.contents next parsed.properties
          later).prepend parsed) :
    Advance number properties lines
      (.statement parsed.statement) parser
| stop
    {parser : Parser}
    (hStopped :
      parser.Stopped (number + lines.length)
        (Script.contents number properties lines))
    (hEmpty :
      (Script.contents number properties
        lines).statements = []) :
    Advance number properties lines
      (Script.contents number properties
        lines).termination.outcome parser

/- Lines that are read over do not change what a call finds. -/
theorem Advance.cons
    {number : Nat}
    {properties later : PropertyMap}
    {line : String}
    {rest : List String}
    {outcome : Outcome}
    {parser : Parser}
    (hContents :
      Script.contents number properties (line :: rest) =
        Script.contents (number + 1) later rest)
    (hAdvance :
      Advance (number + 1) later rest outcome parser) :
    Advance number properties (line :: rest)
      outcome parser := by
  have hTotal :
      number + (line :: rest).length =
        number + 1 + rest.length := by
    simp only [List.length_cons]
    omega
  cases hAdvance with
  | statement parsed next lines hWaits hCurrent hShorter
      hSum hRest =>
      refine .statement parsed next lines hWaits hCurrent
        ?_ ?_ (hContents.trans hRest)
      · exact Nat.lt_succ_of_lt hShorter
      · exact hSum.trans hTotal.symm
  | stop hStopped hEmpty =>
      rw [← hContents] at hStopped hEmpty ⊢
      rw [← hTotal] at hStopped
      exact .stop hStopped hEmpty

end Parser

end KsqlBatch

------------------------------------------------------------
-- Open Statements
------------------------------------------------------------

namespace KsqlBatch

namespace Parser

/- The parser once a line has been added to a statement. -/
def inStatement
    (parser : Parser)
    (startLine : Nat)
    (linesRev pending : List String) : Parser :=
  { parser.behindLine pending with
    phase := .accumulating startLine linesRev }

variable {parser : Parser}
variable {startLine : Nat}
variable {linesRev pending : List String}

/- The record of a further line of an open statement. -/
def continuation
    (line : String) : LogRecord :=
  record .trace ("continuation line '" ++ line ++ "'")

/- A line that ends no statement leaves the statement open. -/
theorem advanceOver_of_continues
    {raw : String}
    (hPhase :
      parser.phase = .accumulating startLine linesRev)
    (hContinues :
      ¬ Script.endsStatement (Script.trimLine raw) = true) :
    parser.advanceOver [] (raw :: pending) =
      let rest :=
        (parser.inStatement startLine
          (Script.trimLine raw :: linesRev)
          pending).advanceOver [] pending
      (rest.1, rest.2.1,
        continuation (Script.trimLine raw) :: rest.2.2) := by
  have hStep :
      (parser.behindLine pending).takeLine raw =
        { parser :=
            parser.inStatement startLine
              (Script.trimLine raw :: linesRev) pending
          log := [continuation (Script.trimLine raw)]
          outcome := none } := by
    simp [behindLine, takeLine, hPhase, takeContinuation,
      hContinues, inStatement, continuation]
  rw [advanceOver_cons, hStep]
  simp only
  rw [advanceOver_log]
  rfl

/-
  An open statement is closed by the block up to the first
  line that ends a statement, and the parser waits behind it.
-/
theorem advanceOver_of_closed
    (parser : Parser)
    {block later : List String}
    (found : Statement)
    (hPhase :
      parser.phase = .accumulating startLine linesRev)
    (hTermination : parser.termination = none)
    (hClosed :
      Script.closeStatement?
        (pending.map Script.trimLine) =
          some (block, later))
    (hFound :
      found =
        { text := "\n".intercalate (linesRev.reverse ++ block)
          startLine
          endLine :=
            parser.cursor.lineNumber + block.length }) :
    ∃ closed log,
      parser.advanceOver [] pending =
        (.statement found, closed, log) ∧
      closed.Waits
        (parser.cursor.lineNumber + block.length)
        parser.properties later ∧
      closed.current = some found := by
  induction pending generalizing parser linesRev block with
  | nil => cases hClosed
  | cons raw pending ih =>
      simp only [List.map_cons, Script.closeStatement?]
        at hClosed
      split at hClosed
      · rename_i hEnds
        cases hClosed
        have hText :
            joinLines (Script.trimLine raw :: linesRev) =
              found.text := by
          simp [hFound, joinLines]
        have hSame :
            { text := found.text
              startLine
              endLine := parser.cursor.lineNumber + 1 } =
              found := by
          simp [hFound]
        rw [advanceOver_cons]
        simp only [behindLine, takeLine, hPhase,
          takeContinuation, hEnds, if_true, emit, hText,
          hSame]
        exact
          ⟨_, _, rfl, ⟨rfl, rfl, rfl, rfl, hTermination⟩,
            rfl⟩
      · rename_i hContinues
        split at hClosed
        · cases hClosed
        · rename_i tail rest hTail
          cases hClosed
          have hNumber :
              parser.cursor.lineNumber +
                  (Script.trimLine raw :: tail).length =
                parser.cursor.lineNumber + 1 +
                  tail.length := by
            simp only [List.length_cons]
            omega
          have hFoundLater :
              found =
                { text :=
                    "\n".intercalate
                      ((Script.trimLine raw ::
                        linesRev).reverse ++ tail)
                  startLine
                  endLine :=
                    parser.cursor.lineNumber + 1 +
                      tail.length } := by
            rw [hFound, hNumber]
            simp
          rcases ih
              (parser.inStatement startLine
                (Script.trimLine raw :: linesRev) pending)
              rfl hTermination hTail hFoundLater with
            ⟨closed, log, hAdvance, hWaits, hCurrent⟩
          refine
            ⟨closed,
              continuation (Script.trimLine raw) :: log,
              ?_, ?_, hCurrent⟩
          · rw [advanceOver_of_continues hPhase hContinues,
              hAdvance]
          · rw [hNumber]
            exact hWaits

/-
  An open statement that no line closes takes all lines with
  it, and the parser stops.
-/
theorem advanceOver_of_open
    (parser : Parser)
    (incomplete : IncompleteStatement)
    (hPhase :
      parser.phase = .accumulating startLine linesRev)
    (hOpen :
      Script.closeStatement?
        (pending.map Script.trimLine) = none)
    (hIncomplete :
      incomplete =
        { startLine
          fragment :=
            "\n".intercalate
              (linesRev.reverse ++
                pending.map Script.trimLine) }) :
    ∃ stopped log,
      parser.advanceOver [] pending =
        (.failed incomplete, stopped, log) ∧
      stopped.Stopped
        (parser.cursor.lineNumber + pending.length)
        (.stop (.incompleteStatement incomplete)
          parser.properties) := by
  induction pending generalizing parser linesRev with
  | nil =>
      have hFragment :
          joinLines linesRev = incomplete.fragment := by
        simp [hIncomplete, joinLines]
      simp only [advanceOver, atEnd, hPhase, finish,
        hFragment]
      have hSame :
          { startLine, fragment := incomplete.fragment } =
            incomplete := by
        rw [hIncomplete]
      rw [hSame]
      exact ⟨_, _, rfl, rfl, rfl, rfl, rfl, rfl⟩
  | cons raw pending ih =>
      simp only [List.map_cons, Script.closeStatement?]
        at hOpen
      split at hOpen
      · cases hOpen
      · rename_i hContinues
        split at hOpen
        · rename_i hTail
          have hNumber :
              parser.cursor.lineNumber +
                  (raw :: pending).length =
                parser.cursor.lineNumber + 1 +
                  pending.length := by
            simp only [List.length_cons]
            omega
          have hIncompleteLater :
              incomplete =
                { startLine
                  fragment :=
                    "\n".intercalate
                      ((Script.trimLine raw ::
                        linesRev).reverse ++
                        pending.map Script.trimLine) } := by
            simp [hIncomplete]
          rcases ih
              (parser.inStatement startLine
                (Script.trimLine raw :: linesRev) pending)
              rfl hTail hIncompleteLater with
            ⟨stopped, log, hAdvance, hStopped⟩
          refine
            ⟨stopped,
              continuation (Script.trimLine raw) :: log,
              ?_, ?_⟩
          · rw [advanceOver_of_continues hPhase hContinues,
              hAdvance]
          · rw [hNumber]
            exact hStopped
        · cases hOpen

end Parser

end KsqlBatch

------------------------------------------------------------
-- Calls
------------------------------------------------------------

namespace KsqlBatch

namespace Parser

variable {parser : Parser}
variable {number : Nat}
variable {properties : PropertyMap}
variable {line : String}
variable {rest : List String}

/- Between two statements the kind of a line decides. -/
theorem takeLine_of_idle
    (hPhase : parser.phase = .idle)
    (raw : String) :
    parser.takeLine raw =
      match Script.classify (Script.trimLine raw) with
      | .blank => parser.skip
      | .comment => parser.skip
      | .directive =>
          parser.takeDirective (Script.trimLine raw)
      | .text =>
          parser.takeFirstLine (Script.trimLine raw) := by
  unfold takeLine
  cases hKind : Script.classify (Script.trimLine raw) <;>
    simp [hPhase, hKind]

/- The next line of a parser that waits in front of lines. -/
theorem Waits.pending_cons
    (hWaits :
      parser.Waits number properties (line :: rest)) :
    ∃ raw pending,
      parser.cursor.pending = raw :: pending ∧
      Script.trimLine raw = line ∧
      pending.map Script.trimLine = rest :=
  List.map_eq_cons_iff.mp hWaits.lines_eq

/- Behind a line that was read the parser waits for the rest. -/
theorem Waits.behindLine
    {pending : List String}
    (hWaits :
      parser.Waits number properties (line :: rest))
    (hRest : pending.map Script.trimLine = rest) :
    (parser.behindLine pending).Waits
      (number + 1) properties rest where
  phase_eq := hWaits.phase_eq
  lineNumber_eq :=
    congrArg (· + 1) hWaits.lineNumber_eq
  properties_eq := hWaits.properties_eq
  lines_eq := hRest
  termination_eq := hWaits.termination_eq

/- A call that stops the parser at contents without statements. -/
theorem Advance.of_contents_eq_stop
    {lines : List String}
    {termination : Termination}
    (hContents :
      Script.contents number properties lines =
        .stop termination properties)
    (hStopped :
      parser.Stopped (number + lines.length)
        (.stop termination properties)) :
    Advance number properties lines
      termination.outcome parser := by
  have hTermination :
      (Script.contents number properties
        lines).termination = termination := by
    rw [hContents]
    rfl
  rw [← hTermination]
  rw [← hContents] at hStopped
  apply Advance.stop hStopped
  rw [hContents]
  rfl

/- A call in front of no lines finds the end. -/
theorem Waits.advance_nil
    (hWaits : parser.Waits number properties []) :
    Advance number properties []
      parser.advance.1 parser.advance.2.1 := by
  have hPending : parser.cursor.pending = [] :=
    List.map_eq_nil_iff.mp hWaits.lines_eq
  rw [advance_of_idle hWaits.phase_eq, hPending]
  simp only [advanceOver, atEnd, hWaits.phase_eq, finish,
    Option.getD_some]
  exact
    .of_contents_eq_stop Script.contents_nil
      { phase_eq := rfl
        lineNumber_eq := hWaits.lineNumber_eq
        properties_eq := hWaits.properties_eq
        current_eq := rfl
        termination_eq := rfl }

/- A line that means nothing is read over. -/
theorem Waits.advance_of_isInert
    (hWaits :
      parser.Waits number properties (line :: rest))
    (hInert : Script.IsInert line) :
    ∃ next : Parser,
      next.Waits (number + 1) properties rest ∧
      next.advance.1 = parser.advance.1 ∧
      next.advance.2.1 = parser.advance.2.1 := by
  rcases hWaits.pending_cons with
    ⟨raw, pending, hPending, hLine, hRest⟩
  have hNext := hWaits.behindLine hRest
  have hStep :
      (parser.behindLine pending).takeLine raw =
        (parser.behindLine pending).skip := by
    rw [takeLine_of_idle hNext.phase_eq, hLine]
    rcases hInert with hKind | hKind <;> rw [hKind]
  have hAdvance :=
    advance_of_outcome_eq_none hWaits.phase_eq hPending
      hStep rfl hNext.phase_eq rfl
  refine ⟨parser.behindLine pending, hNext, ?_, ?_⟩
  · rw [hAdvance]
    rfl
  · rw [hAdvance]
    rfl

/- A directive sets its property and is read over. -/
theorem Waits.advance_of_directive
    {directive : Script.Directive}
    (hWaits :
      parser.Waits number properties (line :: rest))
    (hKind : Script.classify line = .directive)
    (hRead : Script.Directive.parse? line = some directive) :
    ∃ next : Parser,
      next.Waits (number + 1)
        (properties.insert directive.key directive.value)
        rest ∧
      next.advance.1 = parser.advance.1 ∧
      next.advance.2.1 = parser.advance.2.1 := by
  rcases hWaits.pending_cons with
    ⟨raw, pending, hPending, hLine, hRest⟩
  have hBehind := hWaits.behindLine hRest
  let next : Parser :=
    { parser.behindLine pending with
      properties :=
        parser.properties.insert
          directive.key directive.value }
  have hNext :
      next.Waits (number + 1)
        (properties.insert directive.key directive.value)
        rest :=
    { phase_eq := hBehind.phase_eq
      lineNumber_eq := hBehind.lineNumber_eq
      properties_eq := by
        simp only [next, hWaits.properties_eq]
      lines_eq := hBehind.lines_eq
      termination_eq := hBehind.termination_eq }
  have hStep :
      (parser.behindLine pending).takeLine raw =
        { parser := next
          log :=
            [record .debug
              ("SET '" ++ directive.key ++ "' = '" ++
                directive.value ++ "'")]
          outcome := none } := by
    rw [takeLine_of_idle hBehind.phase_eq, hLine, hKind]
    simp only [takeDirective, hRead]
    rfl
  have hAdvance :=
    advance_of_outcome_eq_none hWaits.phase_eq hPending
      hStep rfl hNext.phase_eq rfl
  refine ⟨next, hNext, ?_, ?_⟩
  · rw [hAdvance]
  · rw [hAdvance]

/- A directive that cannot be read stops the parser. -/
theorem Waits.advance_of_isMalformed
    (hWaits :
      parser.Waits number properties (line :: rest))
    (hMalformed : Script.IsMalformed line) :
    Advance number properties (line :: rest)
      parser.advance.1 parser.advance.2.1 := by
  rcases hWaits.pending_cons with
    ⟨raw, pending, hPending, hLine, hRest⟩
  have hBehind := hWaits.behindLine hRest
  have hNumber :
      (parser.behindLine pending).cursor.lineNumber =
        number + 1 :=
    hBehind.lineNumber_eq
  have hStep :
      (parser.behindLine pending).takeLine raw =
        (parser.behindLine pending).finish
          [record .warn
            ("SET directive did not match '" ++ line ++
              "'")]
          (.malformedDirective (number + 1) line)
          .ended := by
    rw [takeLine_of_idle hBehind.phase_eq, hLine,
      hMalformed.1]
    simp only [takeDirective, hMalformed.2, hNumber]
  rw [advance_of_outcome_eq_some hWaits.phase_eq hPending
    hStep rfl]
  exact
    .of_contents_eq_stop
      (Script.contents_cons_of_isMalformed hMalformed)
      { phase_eq := rfl
        lineNumber_eq := hNumber
        properties_eq := hWaits.properties_eq
        current_eq := rfl
        termination_eq := rfl }

/- A first line that ends no statement opens one. -/
theorem Waits.advance_of_continues
    {raw : String}
    {pending : List String}
    (hWaits :
      parser.Waits number properties (line :: rest))
    (hPending : parser.cursor.pending = raw :: pending)
    (hLine : Script.trimLine raw = line)
    (hKind : Script.classify line = .text)
    (hContinues : ¬ Script.endsStatement line = true) :
    parser.advance =
      (parser.inStatement (number + 1) [line]
        pending).advanceOver [] pending := by
  have hStep :
      (parser.behindLine pending).takeLine raw =
        { parser :=
            parser.inStatement (number + 1) [line] pending
          log := []
          outcome := none } := by
    rw [takeLine_of_idle (by exact hWaits.phase_eq),
      hLine, hKind]
    simp [takeFirstLine, hContinues, Parser.behindLine,
      inStatement, hWaits.lineNumber_eq]
  rw [advance_of_idle hWaits.phase_eq, hPending,
    advanceOver_cons, hStep]
  rfl

/- A call that finds the statement of a block. -/
theorem Advance.of_closed
    {block later : List String}
    (hKind : Script.classify line = .text)
    (hClosed :
      Script.closeStatement? (line :: rest) =
        some (block, later))
    (hNext :
      parser.Waits (number + block.length) properties later)
    (hCurrent :
      parser.current =
        some (Script.statementAt (number + 1) block)) :
    Advance number properties (line :: rest)
      (.statement (Script.statementAt (number + 1) block))
      parser := by
  have hLines : block ++ later = line :: rest :=
    Script.append_eq_of_closeStatement?_eq_some hClosed
  have hLength :
      number + block.length + later.length =
        number + (line :: rest).length := by
    rw [← hLines, List.length_append]
    omega
  exact
    .statement
      { statement := Script.statementAt (number + 1) block
        properties }
      (number + block.length) later hNext hCurrent
      (Script.length_later_lt_of_closeStatement?_eq_some
        hClosed)
      hLength
      (Script.contents_cons_of_closed hKind hClosed)

/- A line that is a statement of its own is found. -/
theorem Waits.advance_of_ends
    (hWaits :
      parser.Waits number properties (line :: rest))
    (hKind : Script.classify line = .text)
    (hEnds : Script.endsStatement line = true) :
    Advance number properties (line :: rest)
      parser.advance.1 parser.advance.2.1 := by
  rcases hWaits.pending_cons with
    ⟨raw, pending, hPending, hLine, hRest⟩
  have hBehind := hWaits.behindLine hRest
  have hSame :
      { text := line
        startLine := number + 1
        endLine := number + 1 } =
        Script.statementAt (number + 1) [line] := by
    simp [Script.statementAt]
  have hStep :
      (parser.behindLine pending).takeLine raw =
        (parser.behindLine pending).emit []
          (Script.statementAt (number + 1) [line]) := by
    rw [takeLine_of_idle hBehind.phase_eq, hLine, hKind]
    simp only [takeFirstLine, hEnds, if_true,
      hBehind.lineNumber_eq, hSame]
  rw [advance_of_outcome_eq_some hWaits.phase_eq hPending
    hStep rfl]
  exact
    .of_closed hKind
      (by simp [Script.closeStatement?, hEnds])
      { phase_eq := rfl
        lineNumber_eq := hBehind.lineNumber_eq
        properties_eq := hWaits.properties_eq
        lines_eq := hRest
        termination_eq := hWaits.termination_eq }
      rfl

/- A statement that a later line closes is found. -/
theorem Waits.advance_of_closed
    {block later : List String}
    (hWaits :
      parser.Waits number properties (line :: rest))
    (hKind : Script.classify line = .text)
    (hContinues : ¬ Script.endsStatement line = true)
    (hClosed :
      Script.closeStatement? rest = some (block, later)) :
    Advance number properties (line :: rest)
      parser.advance.1 parser.advance.2.1 := by
  rcases hWaits.pending_cons with
    ⟨raw, pending, hPending, hLine, hRest⟩
  have hNumber :
      number + (line :: block).length =
        (parser.inStatement (number + 1) [line]
            pending).cursor.lineNumber + block.length := by
    simp only [inStatement, Parser.behindLine,
      hWaits.lineNumber_eq, List.length_cons]
    omega
  have hWhole :
      Script.closeStatement? (line :: rest) =
        some (line :: block, later) := by
    simp [Script.closeStatement?, hContinues, hClosed]
  rw [← hRest] at hClosed
  rcases advanceOver_of_closed
      (parser.inStatement (number + 1) [line] pending)
      (Script.statementAt (number + 1) (line :: block))
      rfl hWaits.termination_eq hClosed
      (by
        rw [← hNumber]
        simp only [Script.statementAt,
          List.reverse_singleton, List.singleton_append,
          Statement.mk.injEq, true_and]
        omega) with
    ⟨found, log, hAdvance, hNext, hCurrent⟩
  rw [hWaits.advance_of_continues hPending hLine hKind
    hContinues, hAdvance]
  rw [← hNumber] at hNext
  have hProperties :
      (parser.inStatement (number + 1) [line]
        pending).properties = properties :=
    hWaits.properties_eq
  rw [hProperties] at hNext
  exact .of_closed hKind hWhole hNext hCurrent

/- A statement that stays open stops the parser. -/
theorem Waits.advance_of_open
    (hWaits :
      parser.Waits number properties (line :: rest))
    (hKind : Script.classify line = .text)
    (hContinues : ¬ Script.endsStatement line = true)
    (hOpen : Script.closeStatement? rest = none) :
    Advance number properties (line :: rest)
      parser.advance.1 parser.advance.2.1 := by
  rcases hWaits.pending_cons with
    ⟨raw, pending, hPending, hLine, hRest⟩
  have hTotal :
      number + (line :: rest).length =
        (parser.inStatement (number + 1) [line]
            pending).cursor.lineNumber +
          pending.length := by
    simp only [inStatement, Parser.behindLine,
      hWaits.lineNumber_eq, ← hRest, List.length_cons,
      List.length_map]
    omega
  have hWhole :
      Script.closeStatement? (line :: rest) = none := by
    simp [Script.closeStatement?, hContinues, hOpen]
  rw [← hRest] at hOpen
  rcases advanceOver_of_open
      (parser.inStatement (number + 1) [line] pending)
      (Script.incompleteAt (number + 1) (line :: rest))
      rfl hOpen
      (by simp [Script.incompleteAt, hRest]) with
    ⟨stopped, log, hAdvance, hStopped⟩
  rw [hWaits.advance_of_continues hPending hLine hKind
    hContinues, hAdvance]
  have hProperties :
      (parser.inStatement (number + 1) [line]
        pending).properties = properties :=
    hWaits.properties_eq
  rw [hProperties, ← hTotal] at hStopped
  exact
    .of_contents_eq_stop
      (Script.contents_cons_of_open hKind hWhole) hStopped

/-
  A call of a parser that waits takes the lines up to the
  end of the next statement, if there is one, and stops the
  parser otherwise.
-/
theorem Waits.advance
    {lines : List String}
    (hWaits : parser.Waits number properties lines) :
    Advance number properties lines
      parser.advance.1 parser.advance.2.1 := by
  induction number, properties, lines
    using Script.contents_induction generalizing parser with
  | exhausted number properties =>
      exact hWaits.advance_nil
  | inert number properties line rest hInert ih =>
      rcases hWaits.advance_of_isInert hInert with
        ⟨next, hNext, hOutcome, hParser⟩
      rw [← hOutcome, ← hParser]
      exact
        (ih hNext).cons
          (Script.contents_cons_of_isInert hInert)
  | directive number properties line rest found hKind hRead
      ih =>
      rcases hWaits.advance_of_directive hKind hRead with
        ⟨next, hNext, hOutcome, hParser⟩
      rw [← hOutcome, ← hParser]
      exact
        (ih hNext).cons
          (Script.contents_cons_of_directive hKind hRead)
  | malformed number properties line rest hMalformed =>
      exact hWaits.advance_of_isMalformed hMalformed
  | statement number properties line rest block later hKind
      hClosed ih =>
      by_cases hEnds : Script.endsStatement line = true
      · exact hWaits.advance_of_ends hKind hEnds
      · rcases Script.closeStatement?_cons_eq_some hEnds
            hClosed with
          ⟨tail, _, hTail⟩
        exact hWaits.advance_of_closed hKind hEnds hTail
  | incomplete number properties line rest hKind hOpen =>
      rcases Script.closeStatement?_cons_eq_none hOpen with
        ⟨hContinues, hTail⟩
      exact hWaits.advance_of_open hKind hContinues hTail

end Parser

end KsqlBatch
