import KsqlBatch.Proofs.Script.Calls
import KsqlBatch.Proofs.Script.Cursor

/-
  This file counts the lines that calls of the parser read.
  A call reads at least one line if there is any, and a call
  without a line to read stops the parser. So calls come to
  an end, and a loop that is bounded by the number of lines
  does what it would do without a bound.

  Key definitions include:
    * `Step.Goes`
    * `Parser.Reads`
    * `Parser.emitted`

  Key theorems include:
    * `Parser.exists_reads`
    * `Parser.exists_cursor_after`
    * `Parser.length_emitted_le`
    * `Parser.drain_congr`
-/

------------------------------------------------------------
-- Single Lines
------------------------------------------------------------

namespace KsqlBatch

/-
  Where a line takes a parser that has not stopped: on to the
  next line, to the end of a statement, or to a stop. In no
  case a further line is read.
-/
inductive Step.Goes
    (parser : Parser)
    (step : Step) : Prop
| on
    (hCursor : step.parser.cursor = parser.cursor)
    (hOutcome : step.outcome = none)
    (hOpen : step.parser.phase ≠ .done)
| found
    (hCursor : step.parser.cursor = parser.cursor)
    (statement : Statement)
    (hOutcome : step.outcome = some (.statement statement))
| stopped
    (hCursor : step.parser.cursor = parser.cursor)
    (hOutcome : step.outcome = some .ended)
    (hDone : step.parser.phase = .done)

namespace Parser

variable {parser : Parser}

theorem goes_skip
    (hPhase : parser.phase = .idle) :
    parser.skip.Goes parser :=
  .on rfl rfl (by simp [skip, hPhase])

theorem goes_takeDirective
    (hPhase : parser.phase = .idle)
    (line : String) :
    (parser.takeDirective line).Goes parser := by
  unfold takeDirective
  cases Script.Directive.parse? line with
  | some directive => exact .on rfl rfl (by simp [hPhase])
  | none => exact .stopped rfl rfl rfl

theorem goes_takeFirstLine
    (parser : Parser)
    (line : String) :
    (parser.takeFirstLine line).Goes parser := by
  unfold takeFirstLine
  cases Script.endsStatement line with
  | true => exact .found rfl _ rfl
  | false => exact .on rfl rfl (by simp)

theorem goes_takeContinuation
    (parser : Parser)
    (startLine : Nat)
    (linesRev : List String)
    (line : String) :
    (parser.takeContinuation startLine linesRev
      line).Goes parser := by
  unfold takeContinuation
  cases Script.endsStatement line with
  | true => exact .found rfl _ rfl
  | false => exact .on rfl rfl (by simp)

/- What a line does to a parser that has not stopped. -/
theorem goes_takeLine
    (hOpen : parser.phase ≠ .done)
    (raw : String) :
    (parser.takeLine raw).Goes parser := by
  cases hPhase : parser.phase with
  | done => exact absurd hPhase hOpen
  | accumulating startLine linesRev =>
      simp only [takeLine, hPhase]
      exact parser.goes_takeContinuation _ _ _
  | idle =>
      rw [takeLine_of_idle hPhase]
      cases Script.classify (Script.trimLine raw) with
      | blank => exact goes_skip hPhase
      | comment => exact goes_skip hPhase
      | directive => exact goes_takeDirective hPhase _
      | text => exact parser.goes_takeFirstLine _

end Parser

end KsqlBatch

------------------------------------------------------------
-- Lines of a Call
------------------------------------------------------------

namespace KsqlBatch

namespace Parser

/-
  A call reads a number of lines: at least one if there is
  any. It reads lines for a statement that it finds, and it
  stops the parser if it finds none.
-/
structure Reads
    (parser : Parser)
    (count : Nat)
    (outcome : Outcome)
    (reached : Parser) : Prop where
  cursor_eq : reached.cursor = parser.cursor.after count
  count_le : count ≤ parser.cursor.pending.length
  count_pos : parser.cursor.pending ≠ [] → 0 < count
  found_or_done :
    outcome.statement?.isSome = true ∧ 0 < count ∨
      outcome.statement? = none ∧ reached.phase = .done

variable {parser : Parser}

/- Behind a line the cursor has made one call. -/
theorem cursor_behindLine
    {raw : String}
    {pending : List String}
    (hPending : parser.cursor.pending = raw :: pending) :
    (parser.behindLine pending).cursor =
      parser.cursor.call := by
  simp [behindLine, LineCursor.call, LineCursor.nextLine?,
    hPending]

/- Without a line to read a call stops the parser. -/
theorem reads_atEnd
    (hOpen : parser.phase ≠ .done)
    (hPending : parser.cursor.pending = []) :
    parser.Reads 0 (parser.atEnd.outcome.getD .ended)
      parser.atEnd.parser := by
  unfold atEnd
  cases hPhase : parser.phase with
  | done => exact absurd hPhase hOpen
  | idle =>
      exact
        { cursor_eq := rfl
          count_le := Nat.zero_le _
          count_pos := fun hSome => absurd hPending hSome
          found_or_done := Or.inr ⟨rfl, rfl⟩ }
  | accumulating startLine linesRev =>
      exact
        { cursor_eq := rfl
          count_le := Nat.zero_le _
          count_pos := fun hSome => absurd hPending hSome
          found_or_done := Or.inr ⟨rfl, rfl⟩ }

/- A call that goes on behind a line has read one line more. -/
theorem Reads.behind
    {raw : String}
    {pending : List String}
    {next : Parser}
    {count : Nat}
    {outcome : Outcome}
    {reached : Parser}
    (hPending : parser.cursor.pending = raw :: pending)
    (hNext :
      next.cursor = (parser.behindLine pending).cursor)
    (hReads : next.Reads count outcome reached) :
    parser.Reads (count + 1) outcome reached where
  cursor_eq := by
    rw [hReads.cursor_eq, hNext,
      cursor_behindLine hPending]
    rfl
  count_le := by
    have hCount := hReads.count_le
    rw [hNext] at hCount
    rw [hPending]
    exact Nat.succ_le_succ hCount
  count_pos := fun _ => Nat.succ_pos count
  found_or_done := by
    rcases hReads.found_or_done with ⟨hFound, _⟩ | hDone
    · exact Or.inl ⟨hFound, Nat.succ_pos count⟩
    · exact Or.inr hDone

/- Lines are read until one of them has an outcome. -/
theorem exists_reads_advanceOver
    {pending : List String}
    (hOpen : parser.phase ≠ .done)
    (hPending : parser.cursor.pending = pending)
    (logRev : List LogRecord) :
    ∃ count,
      parser.Reads count
        (parser.advanceOver logRev pending).1
        (parser.advanceOver logRev pending).2.1 := by
  induction pending generalizing parser logRev with
  | nil => exact ⟨0, reads_atEnd hOpen hPending⟩
  | cons raw pending ih =>
      have hBehind :
          (parser.behindLine pending).phase ≠ .done := hOpen
      have hGoes := goes_takeLine hBehind raw
      have hOne :
          parser.cursor.after 1 =
            (parser.behindLine pending).cursor := by
        rw [cursor_behindLine hPending]
        rfl
      have hSome :
          1 ≤ parser.cursor.pending.length := by
        rw [hPending]
        exact Nat.succ_le_succ (Nat.zero_le _)
      rw [advanceOver_cons]
      cases hGoes with
      | on hCursor hOutcome hStillOpen =>
          simp only [hOutcome]
          rcases ih hStillOpen (by rw [hCursor]; rfl) _ with
            ⟨count, hReads⟩
          exact ⟨count + 1, hReads.behind hPending hCursor⟩
      | found hCursor statement hOutcome =>
          simp only [hOutcome]
          exact
            ⟨1,
              { cursor_eq := hCursor.trans hOne.symm
                count_le := hSome
                count_pos := fun _ => Nat.one_pos
                found_or_done :=
                  Or.inl ⟨rfl, Nat.one_pos⟩ }⟩
      | stopped hCursor hOutcome hDone =>
          simp only [hOutcome]
          exact
            ⟨1,
              { cursor_eq := hCursor.trans hOne.symm
                count_le := hSome
                count_pos := fun _ => Nat.one_pos
                found_or_done := Or.inr ⟨rfl, hDone⟩ }⟩

/- A call of a parser that has not stopped reads lines. -/
theorem exists_reads
    (hOpen : parser.phase ≠ .done) :
    ∃ count,
      parser.Reads count parser.advance.1
        parser.advance.2.1 := by
  have hAdvance :
      parser.advance =
        parser.advanceOver [] parser.cursor.pending := by
    unfold advance
    cases hPhase : parser.phase with
    | done => exact absurd hPhase hOpen
    | idle => rfl
    | accumulating startLine linesRev => rfl
  rw [hAdvance]
  exact exists_reads_advanceOver hOpen rfl []

/- The lines that a call reads are counted. -/
theorem Reads.lineNumber_eq
    {count : Nat}
    {outcome : Outcome}
    {reached : Parser}
    (hReads : parser.Reads count outcome reached) :
    reached.cursor.lineNumber =
      parser.cursor.lineNumber + count := by
  have hCount := hReads.count_le
  rw [hReads.cursor_eq, LineCursor.after_eq,
    Nat.min_eq_left hCount]

/- A call that reads nothing finds no line and stops. -/
theorem Reads.pos_or_done
    {count : Nat}
    {outcome : Outcome}
    {reached : Parser}
    (hReads : parser.Reads count outcome reached) :
    0 < count ∨
      parser.cursor.nextLine? = none ∧
        reached.phase = .done := by
  cases hPending : parser.cursor.pending with
  | cons line pending =>
      exact Or.inl (hReads.count_pos (by simp [hPending]))
  | nil =>
      rcases hReads.found_or_done with ⟨_, hPos⟩ | ⟨_, hDone⟩
      · exact Or.inl hPos
      · refine Or.inr ⟨?_, hDone⟩
        simp [LineCursor.nextLine?, hPending]

/- Fewer lines are left behind a statement that is found. -/
theorem length_pending_lt_of_found
    (hFound : parser.advance.1.statement?.isSome = true) :
    parser.advance.2.1.cursor.pending.length <
      parser.cursor.pending.length := by
  by_cases hDone : parser.phase = .done
  · rw [advance_of_done hDone] at hFound
    cases hFound
  · rcases exists_reads hDone with ⟨count, hReads⟩
    have hLe := hReads.count_le
    rcases hReads.found_or_done with ⟨_, hPos⟩ | ⟨hNone, _⟩
    · rw [hReads.cursor_eq, LineCursor.after_eq,
        List.length_drop]
      omega
    · rw [hNone] at hFound
      cases hFound

/- A call that finds no statement leaves the parser done. -/
theorem phase_advance_of_not_found
    (hNone : parser.advance.1.statement? = none) :
    parser.advance.2.1.phase = .done := by
  by_cases hDone : parser.phase = .done
  · rw [advance_of_done hDone]
    exact hDone
  · rcases exists_reads hDone with ⟨count, hReads⟩
    rcases hReads.found_or_done with
      ⟨hFound, _⟩ | ⟨_, hStopped⟩
    · rw [hNone] at hFound
      cases hFound
    · exact hStopped

end Parser

end KsqlBatch

------------------------------------------------------------
-- Lines of Several Calls
------------------------------------------------------------

namespace KsqlBatch

/- Calls of a cursor add up. -/
theorem LineCursor.after_after
    (cursor : LineCursor)
    (calls later : Nat) :
    (cursor.after calls).after later =
      cursor.after (calls + later) := by
  induction calls generalizing cursor with
  | zero => rw [after, Nat.zero_add]
  | succ calls ih => rw [after, ih, Nat.succ_add, after]

namespace Parser

variable {parser : Parser}

/- The last of several calls is made on what precedes it. -/
theorem after_succ
    (parser : Parser)
    (calls : Nat) :
    parser.after (calls + 1) =
      (parser.after calls).advance.2.1 := by
  induction calls generalizing parser with
  | zero => rfl
  | succ calls ih =>
      rw [after, ih parser.advance.2.1, after]

/- All lines that calls read were there to be read. -/
theorem exists_cursor_after
    (parser : Parser)
    (calls : Nat) :
    ∃ count,
      count ≤ parser.cursor.pending.length ∧
      (parser.after calls).cursor =
        parser.cursor.after count := by
  induction calls with
  | zero => exact ⟨0, Nat.zero_le _, rfl⟩
  | succ calls ih =>
      rcases ih with ⟨count, hCount, hCursor⟩
      rw [after_succ]
      by_cases hDone : (parser.after calls).phase = .done
      · rw [advance_of_done hDone]
        exact ⟨count, hCount, hCursor⟩
      · rcases exists_reads hDone with ⟨more, hReads⟩
        have hMore := hReads.count_le
        rw [hCursor, LineCursor.after_eq, List.length_drop]
          at hMore
        refine ⟨count + more, by omega, ?_⟩
        rw [hReads.cursor_eq, hCursor, LineCursor.after_after]

/- Why the parser has stopped says which lines it has read. -/
theorem Waits.lineNumber_of_termination
    {number : Nat}
    {properties : PropertyMap}
    {lines : List String}
    {calls : Nat}
    {termination : Termination}
    (hWaits : parser.Waits number properties lines)
    (hTermination :
      (parser.after calls).termination =
        some termination) :
    (parser.after calls).cursor.lineNumber =
      termination.lastLine (number + lines.length) := by
  rcases hWaits.after calls with
    ⟨_, _, _, hNext, _⟩ | hStopped
  · rw [hNext.termination_eq] at hTermination
    cases hTermination
  · rw [hStopped.termination_eq] at hTermination
    rw [hStopped.lineNumber_eq,
      Option.some.inj hTermination]

/- The statements that calls find. -/
def emitted
    (parser : Parser) : (calls : Nat) → List Statement
| 0 => []
| calls + 1 =>
    parser.advance.1.statement?.toList ++
      parser.advance.2.1.emitted calls

/- A parser that has stopped finds nothing. -/
theorem emitted_of_done
    (hPhase : parser.phase = .done)
    (calls : Nat) :
    parser.emitted calls = [] := by
  induction calls with
  | zero => rfl
  | succ calls ih =>
      rw [emitted, advance_of_done hPhase]
      exact ih

/- Each statement that is found takes a line away. -/
theorem length_emitted_le
    (parser : Parser)
    (calls : Nat) :
    (parser.emitted calls).length ≤
      parser.cursor.pending.length := by
  induction calls generalizing parser with
  | zero => exact Nat.zero_le _
  | succ calls ih =>
      rw [emitted, List.length_append]
      cases hFound : parser.advance.1.statement? with
      | none =>
          rw [emitted_of_done
            (phase_advance_of_not_found hFound)]
          exact Nat.zero_le _
      | some found =>
          have hFewer :=
            length_pending_lt_of_found
              (Option.isSome_of_eq_some hFound)
          have hLater := ih parser.advance.2.1
          rw [Option.toList_some, List.length_singleton]
          omega

end Parser

end KsqlBatch

------------------------------------------------------------
-- Bounds on Calls
------------------------------------------------------------

namespace KsqlBatch

namespace Parser

/-
  Any two bounds on the calls of a loop amount to the same if
  they leave room for a call more than there are lines.
-/
theorem drain_congr
    (parser : Parser)
    (statementsRev : List ParsedStatement)
    (logRev : List LogRecord)
    {fuel other : Nat}
    (hFuel : parser.cursor.pending.length < fuel)
    (hOther : parser.cursor.pending.length < other) :
    parser.drain statementsRev logRev fuel =
      parser.drain statementsRev logRev other := by
  induction fuel generalizing parser other statementsRev
    logRev with
  | zero => omega
  | succ fuel ih =>
      cases other with
      | zero => omega
      | succ other =>
          have hNext := parser.next_eq
          cases hOutcome : parser.advance.1 with
          | statement found =>
              have hFewer :=
                length_pending_lt_of_found
                  (Option.isSome_of_eq_some
                    (congrArg Outcome.statement? hOutcome))
              simp only [hOutcome] at hNext
              simp only [drain, hNext]
              exact
                ih parser.advance.2.1 _ _ (by omega)
                  (by omega)
          | ended =>
              simp only [hOutcome] at hNext
              simp only [drain, hNext]
          | failed incomplete =>
              have hDone :=
                phase_advance_of_not_found
                  (congrArg Outcome.statement? hOutcome)
              simp only [hOutcome] at hNext
              simp only [drain, hNext]
              rw [drain_of_done hDone, drain_of_done hDone]

end Parser

end KsqlBatch
