import KsqlBatch.Proofs.Script.Driving
import KsqlBatch.Proofs.Script.Progress
import KsqlBatch.Proofs.Script.Records

/-
  This file follows what the parser logs. Nothing is lost
  between two calls: the records to come are those of the next
  call and those to come behind it. So all ways to drive the
  parser of a script log the records of the script, and once
  it has stopped nothing more.

  Key definitions include:
    * `Parser.due`
    * `MadeCall.log`

  Key theorems include:
    * `Parser.due_eq`
    * `Parser.due_eq_of_makeAll`
    * `Parser.log_drain`
    * `log_parseStatements`
-/

------------------------------------------------------------
-- Records to Come
------------------------------------------------------------

namespace KsqlBatch

namespace Parser

/- The records that a parser has yet to write. -/
def due
    (parser : Parser) : List LogRecord :=
  let number := parser.cursor.lineNumber
  let lines := parser.cursor.pending.map Script.trimLine
  match parser.phase with
  | .idle =>
      Script.records number parser.properties lines
  | .accumulating startLine linesRev =>
      Script.recordsWithin startLine linesRev number
        parser.properties lines
  | .done => []

theorem due_of_done
    {parser : Parser}
    (hPhase : parser.phase = .done) :
    parser.due = [] := by
  unfold due
  rw [hPhase]

/- All records of a script are still due in front of it. -/
theorem due_ofText
    (text : String) :
    (ofText text).due = Script.recordsOf text := by
  have hLines := (waits_ofText text).lines_eq
  unfold Script.recordsOf
  rw [← hLines]
  rfl

end Parser

end KsqlBatch

------------------------------------------------------------
-- Records of a Line
------------------------------------------------------------

namespace KsqlBatch

namespace Parser

variable {parser : Parser}

theorem due_of_idle
    (hPhase : parser.phase = .idle) :
    parser.due =
      Script.records parser.cursor.lineNumber
        parser.properties
        (parser.cursor.pending.map Script.trimLine) := by
  unfold due
  rw [hPhase]

theorem due_of_accumulating
    {startLine : Nat}
    {linesRev : List String}
    (hPhase :
      parser.phase = .accumulating startLine linesRev) :
    parser.due =
      Script.recordsWithin startLine linesRev
        parser.cursor.lineNumber parser.properties
        (parser.cursor.pending.map Script.trimLine) := by
  unfold due
  rw [hPhase]

/- The records that are due between two statements. -/
theorem due_behindLine
    {pending : List String}
    (hPhase : parser.phase = .idle) :
    (parser.behindLine pending).due =
      Script.records (parser.cursor.lineNumber + 1)
        parser.properties
        (pending.map Script.trimLine) := by
  have hBehind :
      (parser.behindLine pending).phase = .idle := hPhase
  exact due_of_idle hBehind

/- A directive writes its record, or the last ones. -/
theorem records_eq_of_takeDirective
    {line : String}
    {pending : List String}
    (hPhase : parser.phase = .idle)
    (hKind : Script.classify line = .directive) :
    let step :=
      (parser.behindLine pending).takeDirective line
    Script.records parser.cursor.lineNumber
        parser.properties
        (line :: pending.map Script.trimLine) =
      step.log ++ step.parser.due := by
  intro step
  cases hRead : Script.Directive.parse? line with
  | some directive =>
      let next : Parser :=
        { parser.behindLine pending with
          properties :=
            parser.properties.insert
              directive.key directive.value }
      have hStep :
          step =
            { parser := next
              log := [setting directive]
              outcome := none } := by
        simp only [step, takeDirective, hRead]
        rfl
      have hNext : next.phase = .idle := hPhase
      rw [Script.records_cons_of_directive hKind hRead, hStep,
        due_of_idle hNext]
      rfl
  | none =>
      have hStep :
          step =
            (parser.behindLine pending).finish
              [unmatched line]
              (.malformedDirective
                (parser.cursor.lineNumber + 1) line)
              .ended := by
        simp only [step, takeDirective, hRead]
        rfl
      rw [Script.records_cons_of_isMalformed ⟨hKind, hRead⟩,
        hStep]
      rfl

/- A first line of a statement writes nothing. -/
theorem records_eq_of_takeFirstLine
    {line : String}
    {pending : List String}
    (hKind : Script.classify line = .text) :
    let step :=
      (parser.behindLine pending).takeFirstLine line
    Script.records parser.cursor.lineNumber
        parser.properties
        (line :: pending.map Script.trimLine) =
      step.log ++ step.parser.due := by
  unfold takeFirstLine
  by_cases hEnds : Script.endsStatement line = true
  · simp only [hEnds, if_true]
    exact Script.records_cons_of_ends hKind hEnds
  · simp only [hEnds, Bool.false_eq_true, if_false]
    exact Script.records_cons_of_continues hKind hEnds

/- A further line of a statement writes its record. -/
theorem records_eq_of_takeContinuation
    {line : String}
    {startLine : Nat}
    {linesRev pending : List String} :
    let step :=
      (parser.behindLine pending).takeContinuation startLine
        linesRev line
    Script.recordsWithin startLine linesRev
        parser.cursor.lineNumber parser.properties
        (line :: pending.map Script.trimLine) =
      step.log ++ step.parser.due := by
  unfold takeContinuation
  by_cases hEnds : Script.endsStatement line = true
  · simp only [hEnds, if_true]
    exact Script.recordsWithin_cons_of_ends hEnds
  · simp only [hEnds, Bool.false_eq_true, if_false]
    exact Script.recordsWithin_cons_of_continues hEnds

/-
  The records that are due in front of a line are those that
  are written when it is taken and those that are due then.
-/
theorem due_eq_of_takeLine
    {raw : String}
    {pending : List String}
    {step : Step}
    (hPending : parser.cursor.pending = raw :: pending)
    (hStep :
      (parser.behindLine pending).takeLine raw = step) :
    parser.due = step.log ++ step.parser.due := by
  rw [← hStep]
  cases hPhase : parser.phase with
  | idle =>
      have hBehind :
          (parser.behindLine pending).phase = .idle := hPhase
      rw [due_of_idle hPhase, hPending, List.map_cons,
        takeLine_of_idle hBehind]
      cases hKind :
          Script.classify (Script.trimLine raw) with
      | blank =>
          rw [Script.records_cons_of_isInert (Or.inl hKind)]
          exact (due_behindLine hPhase).symm
      | comment =>
          rw [Script.records_cons_of_isInert (Or.inr hKind)]
          exact (due_behindLine hPhase).symm
      | directive =>
          exact records_eq_of_takeDirective hPhase hKind
      | text => exact records_eq_of_takeFirstLine hKind
  | accumulating startLine linesRev =>
      have hTake :
          (parser.behindLine pending).takeLine raw =
            (parser.behindLine pending).takeContinuation
              startLine linesRev (Script.trimLine raw) := by
        simp [takeLine, behindLine, hPhase]
      rw [due_of_accumulating hPhase, hPending,
        List.map_cons, hTake]
      exact records_eq_of_takeContinuation
  | done =>
      have hTake :
          (parser.behindLine pending).takeLine raw =
            { parser := parser.behindLine pending
              log := []
              outcome := some .ended } := by
        simp [takeLine, behindLine, hPhase]
      have hBehind :
          (parser.behindLine pending).phase = .done := hPhase
      rw [due_of_done hPhase, hTake]
      exact (due_of_done hBehind).symm

/- At the end of the lines all records are written. -/
theorem due_eq_of_atEnd
    (hPending : parser.cursor.pending = []) :
    parser.due = parser.atEnd.log := by
  unfold atEnd
  cases hPhase : parser.phase with
  | idle =>
      rw [due_of_idle hPhase, hPending, List.map_nil,
        Script.records_nil]
      rfl
  | accumulating startLine linesRev =>
      rw [due_of_accumulating hPhase, hPending, List.map_nil]
      simp [Script.recordsWithin, Script.closeStatement?,
        Termination.closing, Termination.complaints, finish,
        cutOff, finished, joinLines]
  | done => rw [due_of_done hPhase]

/- A parser is done at the end of the lines. -/
theorem due_atEnd
    (parser : Parser) :
    parser.atEnd.parser.due = [] := by
  unfold atEnd
  cases hPhase : parser.phase with
  | idle => exact due_of_done rfl
  | accumulating startLine linesRev => exact due_of_done rfl
  | done => exact due_of_done hPhase

end Parser

end KsqlBatch

------------------------------------------------------------
-- Records of Calls
------------------------------------------------------------

namespace KsqlBatch

namespace Parser

variable {parser : Parser}

/- No line moves the cursor further. -/
theorem cursor_takeLine
    (parser : Parser)
    (raw : String) :
    (parser.takeLine raw).parser.cursor = parser.cursor := by
  by_cases hDone : parser.phase = .done
  · simp [takeLine, hDone]
  · cases goes_takeLine hDone raw with
    | on hCursor hOutcome hOpen => exact hCursor
    | found hCursor statement hOutcome => exact hCursor
    | stopped hCursor hOutcome hStopped => exact hCursor

theorem due_eq_of_advanceOver
    {pending : List String}
    (hPending : parser.cursor.pending = pending) :
    parser.due =
      (parser.advanceOver [] pending).2.2 ++
        (parser.advanceOver [] pending).2.1.due := by
  induction pending generalizing parser with
  | nil =>
      rw [due_eq_of_atEnd hPending]
      simp [advanceOver, due_atEnd]
  | cons raw pending ih =>
      rw [advanceOver_cons, due_eq_of_takeLine hPending rfl]
      have hCursor :=
        (parser.behindLine pending).cursor_takeLine raw
      generalize
        (parser.behindLine pending).takeLine raw = step
          at hCursor
      cases hOutcome : step.outcome with
      | some outcome => simp [hOutcome]
      | none =>
          simp only [hOutcome]
          rw [advanceOver_log,
            ih (by rw [hCursor]; rfl)]
          simp

/-
  The records that are due in front of a call are those that
  it writes and those that are due behind it.
-/
theorem due_eq
    (parser : Parser) :
    parser.due =
      parser.advance.2.2 ++ parser.advance.2.1.due := by
  cases hPhase : parser.phase with
  | idle =>
      rw [advance_of_idle hPhase]
      exact due_eq_of_advanceOver rfl
  | accumulating startLine linesRev =>
      have hAdvance :
          parser.advance =
            parser.advanceOver [] parser.cursor.pending := by
        simp [advance, hPhase]
      rw [hAdvance]
      exact due_eq_of_advanceOver rfl
  | done =>
      rw [advance_of_done hPhase]
      rfl

end Parser

namespace MadeCall

/- What a call logs. -/
def log
    (made : MadeCall) : List LogRecord :=
  match made.call with
  | .advance => made.before.advance.2.2
  | .advanceStatement => made.before.advance.2.2
  | .next => made.before.next.2.2

/- All ways to call the parser log alike. -/
theorem log_eq
    (made : MadeCall) :
    made.log = made.before.advance.2.2 := by
  unfold log
  cases made.call with
  | advance => rfl
  | advanceStatement => rfl
  | next => rw [Parser.next_eq]

/- A call to a parser that is done logs nothing. -/
theorem log_of_done
    {made : MadeCall}
    (hDone : made.before.state = .done) :
    made.log = [] := by
  rw [← Parser.phase_eq_done_iff] at hDone
  rw [log_eq, Parser.advance_of_done hDone]

end MadeCall

namespace Parser

variable {parser : Parser}

/-
  The records that are due in front of calls are those that
  they write and those that are due behind them.
-/
theorem due_eq_of_makeAll
    (parser : Parser)
    (calls : List ParserCall) :
    parser.due =
      (parser.makeAll calls).flatMap MadeCall.log ++
        (parser.after calls.length).due := by
  induction calls generalizing parser with
  | nil => rfl
  | cons call calls ih =>
      rw [makeAll, List.flatMap_cons, MadeCall.log_eq,
        make_eq, List.append_assoc, due_eq, ih]
      rfl

/- Calls to a parser that is done log nothing. -/
theorem log_of_mem_makeAll_of_done
    (hDone : parser.state = .done)
    {calls : List ParserCall}
    {made : MadeCall}
    (hMade : made ∈ parser.makeAll calls) :
    made.log = [] := by
  induction calls with
  | nil => cases hMade
  | cons call calls ih =>
      let first : MadeCall := { before := parser, call }
      have hSame : first.after = parser :=
        MadeCall.after_of_done hDone
      rcases List.mem_cons.mp hMade with rfl | hLater
      · exact MadeCall.log_of_done hDone
      · apply ih
        rw [← hSame]
        exact hLater

/- A loop to the end writes all records that are due. -/
theorem log_drain
    (parser : Parser)
    (statementsRev : List ParsedStatement)
    (logRev : List LogRecord)
    {fuel : Nat}
    (hFuel : parser.cursor.pending.length < fuel) :
    (parser.drain statementsRev logRev fuel).log =
      logRev.reverse ++ parser.due := by
  induction fuel generalizing parser statementsRev logRev with
  | zero => omega
  | succ fuel ih =>
      have hNext := parser.next_eq
      rw [due_eq]
      cases hOutcome : parser.advance.1 with
      | statement found =>
          have hFewer :=
            length_pending_lt_of_found
              (Option.isSome_of_eq_some
                (congrArg Outcome.statement? hOutcome))
          simp only [hOutcome] at hNext
          simp only [drain, hNext]
          rw [ih _ _ _ (by omega)]
          simp
      | ended =>
          have hDone :=
            phase_advance_of_not_found
              (congrArg Outcome.statement? hOutcome)
          simp only [hOutcome] at hNext
          simp only [drain, hNext]
          rw [due_of_done hDone]
          simp
      | failed incomplete =>
          have hDone :=
            phase_advance_of_not_found
              (congrArg Outcome.statement? hOutcome)
          simp only [hOutcome] at hNext
          simp only [drain, hNext]
          rw [drain_of_done hDone, due_of_done hDone]
          simp

end Parser

/- What is logged when a script is read at once. -/
theorem log_parseStatements
    (text : String) :
    (parseStatements text).log = Script.recordsOf text := by
  have hLog :=
    (Parser.ofText text).log_drain [] [] (Nat.lt_succ_self _)
  rw [Parser.due_ofText] at hLog
  exact hLog

/- A parser logs in its own name. -/
theorem Parser.source_of_mem_log
    {parser : Parser}
    {record : LogRecord}
    (hRecord : record ∈ parser.advance.2.2) :
    record.source = .parser := by
  have hDue : record ∈ parser.due := by
    rw [due_eq]
    exact List.mem_append_left _ hRecord
  cases hPhase : parser.phase with
  | idle =>
      rw [due_of_idle hPhase] at hDue
      exact Script.source_of_mem_records hDue
  | accumulating startLine linesRev =>
      rw [due_of_accumulating hPhase] at hDue
      exact Script.source_of_mem_recordsWithin hDue
  | done =>
      rw [due_of_done hPhase] at hDue
      cases hDue

end KsqlBatch
