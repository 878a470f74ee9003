import KsqlBatch.Proofs.Script.Advance

/-
  This file follows the parser through any number of calls
  and shows that calling it to the end collects the contents
  of its script.

  Key definitions include:
    * `Script.contentsOf`
    * `Parser.after`

  Key theorems include:
    * `Parser.Waits.after`
    * `Parser.Waits.stopped_after`
    * `statements_parseStatements`
    * `termination_parseStatements`
-/

------------------------------------------------------------
-- Sequences of Calls
------------------------------------------------------------

namespace KsqlBatch

namespace Script

/- The contents of a script. -/
def contentsOf
    (text : String) : Contents :=
  contents 0 PropertyMap.empty (trimmedLines text)

/- The last line that is read lies behind the first lines. -/
theorem le_lastLine_contents
    (number : Nat)
    (properties : PropertyMap)
    (lines : List String) :
    number ≤
      (contents number properties lines).termination.lastLine
        (number + lines.length) := by
  induction number, properties, lines
    using contents_induction with
  | exhausted number properties =>
      simp [Termination.lastLine]
  | inert number properties line rest hInert ih =>
      rw [contents_cons_of_isInert hInert, List.length_cons,
        Nat.add_comm rest.length 1, ← Nat.add_assoc]
      exact Nat.le_of_succ_le ih
  | directive number properties line rest found hKind hRead
      ih =>
      rw [contents_cons_of_directive hKind hRead,
        List.length_cons, Nat.add_comm rest.length 1,
        ← Nat.add_assoc]
      exact Nat.le_of_succ_le ih
  | malformed number properties line rest hMalformed =>
      rw [contents_cons_of_isMalformed hMalformed]
      exact Nat.le_succ number
  | statement number properties line rest block later hKind
      hClosed ih =>
      have hLines : block ++ later = line :: rest :=
        append_eq_of_closeStatement?_eq_some hClosed
      rw [contents_cons_of_closed hKind hClosed, ← hLines,
        List.length_append, ← Nat.add_assoc]
      exact Nat.le_trans (Nat.le_add_right _ _) ih
  | incomplete number properties line rest hKind hOpen =>
      rw [contents_cons_of_open hKind hOpen]
      exact Nat.le_add_right _ _

end Script

namespace Parser

/- The parser after a number of calls. -/
def after
    (parser : Parser) : (calls : Nat) → Parser
| 0 => parser
| calls + 1 => parser.advance.2.1.after calls

variable {parser : Parser}

/- Calls do not change a parser that has stopped. -/
theorem after_of_done
    (hPhase : parser.phase = .done)
    (calls : Nat) :
    parser.after calls = parser := by
  induction calls with
  | zero => rfl
  | succ calls ih =>
      rw [after, advance_of_done hPhase]
      exact ih

/- Only the end of the contents matters to a stopped parser. -/
theorem Stopped.of_same_end
    {total : Nat}
    {contents longer : Script.Contents}
    (hStopped : parser.Stopped total contents)
    (hTermination :
      longer.termination = contents.termination)
    (hProperties :
      longer.properties = contents.properties) :
    parser.Stopped total longer where
  phase_eq := hStopped.phase_eq
  lineNumber_eq := by
    rw [hTermination]
    exact hStopped.lineNumber_eq
  properties_eq := by
    rw [hProperties]
    exact hStopped.properties_eq
  current_eq := hStopped.current_eq
  termination_eq := by
    rw [hTermination]
    exact hStopped.termination_eq

/-
  After any number of calls the parser waits in front of
  lines whose contents end as all contents do, or else it has
  stopped at their end.
-/
theorem Waits.after
    {number : Nat}
    {properties : PropertyMap}
    {lines : List String}
    (hWaits : parser.Waits number properties lines)
    (calls : Nat) :
    (∃ next later rest,
      (parser.after calls).Waits next later rest ∧
      next + rest.length = number + lines.length ∧
      (Script.contents number properties
          lines).termination =
        (Script.contents next later rest).termination ∧
      (Script.contents number properties
          lines).statements.drop calls =
        (Script.contents next later rest).statements ∧
      rest.length + calls ≤ lines.length) ∨
    (parser.after calls).Stopped (number + lines.length)
      (Script.contents number properties lines) := by
  induction calls generalizing parser number properties lines
    with
  | zero =>
      exact Or.inl
        ⟨number, properties, lines, hWaits, rfl, rfl, rfl,
          Nat.le_refl _⟩
  | succ calls ih =>
      have hAdvance := hWaits.advance
      rw [Parser.after]
      generalize parser.advance.1 = outcome at hAdvance
      generalize parser.advance.2.1 = reached at hAdvance ⊢
      cases hAdvance with
      | statement parsed next later hNext hCurrent hShorter
          hTotal hContents =>
          rw [hContents, ← hTotal]
          rcases ih hNext with
            ⟨last, final, rest, hLast, hSum, hEnd, hDrop,
              hFewer⟩ | hStopped
          · refine Or.inl
              ⟨last, final, rest, hLast, hSum, hEnd, hDrop,
                ?_⟩
            omega
          · exact Or.inr (hStopped.of_same_end rfl rfl)
      | stop hStopped hEmpty =>
          refine Or.inr ?_
          rw [after_of_done hStopped.phase_eq]
          exact hStopped

/- The parser never reads on behind the end of the contents. -/
theorem Waits.lineNumber_after_le
    {number : Nat}
    {properties : PropertyMap}
    {lines : List String}
    (hWaits : parser.Waits number properties lines)
    (calls : Nat) :
    (parser.after calls).cursor.lineNumber ≤
      (Script.contents number properties
        lines).termination.lastLine
          (number + lines.length) := by
  rcases hWaits.after calls with
    ⟨next, later, rest, hNext, hTotal, hEnd, _, _⟩ |
      hStopped
  · rw [hNext.lineNumber_eq, hEnd, ← hTotal]
    exact Script.le_lastLine_contents next later rest
  · exact Nat.le_of_eq hStopped.lineNumber_eq

/- A parser that does nothing any more has stopped. -/
theorem Waits.stopped_of_done
    {number : Nat}
    {properties : PropertyMap}
    {lines : List String}
    {calls : Nat}
    (hWaits : parser.Waits number properties lines)
    (hDone : (parser.after calls).state = .done) :
    (parser.after calls).Stopped (number + lines.length)
      (Script.contents number properties lines) := by
  rcases hWaits.after calls with
    ⟨next, later, rest, hNext, _⟩ | hStopped
  · simp [Parser.state, hNext.phase_eq, Phase.state]
      at hDone
  · exact hStopped

/- One call more than there are lines stops the parser. -/
theorem Waits.stopped_after
    {number : Nat}
    {properties : PropertyMap}
    {lines : List String}
    {calls : Nat}
    (hWaits : parser.Waits number properties lines)
    (hCalls : lines.length < calls) :
    (parser.after calls).Stopped (number + lines.length)
      (Script.contents number properties lines) := by
  rcases hWaits.after calls with
    ⟨next, later, rest, _, _, _, _, hFewer⟩ | hStopped
  · omega
  · exact hStopped

end Parser

end KsqlBatch

------------------------------------------------------------
-- Whole Scripts
------------------------------------------------------------

namespace KsqlBatch

namespace Parser

variable {parser : Parser}

/- What the next statement is follows from a call. -/
theorem next_eq
    (parser : Parser) :
    parser.next =
      (match parser.advance.1 with
        | .statement statement =>
            some
              (.ok
                { statement
                  properties :=
                    parser.advance.2.1.properties })
        | .failed incomplete => some (.error incomplete)
        | .ended => none,
        parser.advance.2.1, parser.advance.2.2) := by
  rcases hAdvance : parser.advance with ⟨outcome, reached, log⟩
  cases outcome <;> simp [next, hAdvance]

/-
  What the parser yields after a number of calls stands at
  this place in the contents.
-/
theorem Waits.getElem?_of_next
    {number : Nat}
    {properties : PropertyMap}
    {lines : List String}
    {calls : Nat}
    {parsed : ParsedStatement}
    (hWaits : parser.Waits number properties lines)
    (hYields :
      (parser.after calls).next.1 = some (.ok parsed)) :
    (Script.contents number properties
      lines).statements[calls]? = some parsed := by
  rw [next_eq] at hYields
  rcases hWaits.after calls with
    ⟨next, later, rest, hNext, _, _, hDrop, _⟩ | hStopped
  · have hAdvance := hNext.advance
    generalize (parser.after calls).advance.1 = outcome
      at hAdvance hYields
    generalize (parser.after calls).advance.2.1 = reached
      at hAdvance hYields
    cases hAdvance with
    | statement found last final hReached hCurrent hShorter
        hTotal hContents =>
        have hFound : found = parsed := by
          simpa [hReached.properties_eq] using hYields
        have hHead :
            ((Script.contents number properties
                lines).statements.drop calls)[0]? =
              some found := by
          rw [hDrop, hContents]
          rfl
        rw [List.getElem?_drop, Nat.add_zero] at hHead
        rw [hHead, hFound]
    | stop hStopped hEmpty =>
        cases hEnd :
            (Script.contents next later rest).termination <;>
          simp [hEnd, Termination.outcome] at hYields
  · simp [advance_of_done hStopped.phase_eq] at hYields

/- A parser that has stopped gives nothing more. -/
theorem drain_of_done
    (hPhase : parser.phase = .done)
    (statementsRev : List ParsedStatement)
    (logRev : List LogRecord)
    (fuel : Nat) :
    parser.drain statementsRev logRev fuel =
      { statements := statementsRev.reverse
        termination := parser.termination
        log := logRev.reverse } := by
  cases fuel with
  | zero => rfl
  | succ fuel =>
      have hNext : parser.next = (none, parser, []) := by
        rw [next_eq, advance_of_done hPhase]
      simp [drain, hNext]

/-
  Calls to the end collect the statements that the lines
  contain, and leave the reason why reading stops.
-/
theorem Waits.drain
    {number : Nat}
    {properties : PropertyMap}
    {lines : List String}
    (hWaits : parser.Waits number properties lines)
    (statementsRev : List ParsedStatement)
    (logRev : List LogRecord)
    {fuel : Nat}
    (hFuel : lines.length < fuel) :
    (parser.drain statementsRev logRev fuel).statements =
        statementsRev.reverse ++
          (Script.contents number properties
            lines).statements ∧
      (parser.drain statementsRev logRev fuel).termination =
        some
          (Script.contents number properties
            lines).termination := by
  induction fuel generalizing parser number properties lines
    statementsRev logRev with
  | zero => omega
  | succ fuel ih =>
      have hAdvance := hWaits.advance
      have hNext := parser.next_eq
      generalize parser.advance.1 = outcome
        at hAdvance hNext
      generalize parser.advance.2.1 = reached
        at hAdvance hNext
      cases hAdvance with
      | statement parsed next later hReached hCurrent hShorter
          hTotal hContents =>
          simp only [hReached.properties_eq] at hNext
          have hRest :=
            ih hReached (parsed :: statementsRev)
              (parser.advance.2.2.reverse ++ logRev)
              (by omega)
          simp only [Parser.drain, hNext]
          rw [hContents]
          simpa using hRest
      | stop hStopped hEmpty =>
          rw [hEmpty, List.append_nil]
          cases hOutcome :
              (Script.contents number properties
                lines).termination.outcome with
          | statement found =>
              exact absurd hOutcome
                (Termination.outcome_ne_statement _ found)
          | ended =>
              simp only [hOutcome] at hNext
              simp only [Parser.drain, hNext,
                hStopped.termination_eq, and_self]
          | failed incomplete =>
              simp only [hOutcome] at hNext
              simp only [Parser.drain, hNext]
              rw [drain_of_done hStopped.phase_eq]
              exact ⟨rfl, hStopped.termination_eq⟩

/- There are more calls to make than there are lines. -/
theorem length_lt_callBound_ofText
    (text : String) :
    (Script.trimmedLines text).length <
      (ofText text).callBound := by
  have hWaits := waits_ofText text
  unfold callBound
  rw [← hWaits.lines_eq, List.length_map]
  exact Nat.lt_succ_self _

end Parser

/- The statements of a script are those it contains. -/
theorem statements_parseStatements
    (text : String) :
    (parseStatements text).statements =
      (Script.contentsOf text).statements := by
  have hWaits := Parser.waits_ofText text
  have hBound := Parser.length_lt_callBound_ofText text
  exact (hWaits.drain [] [] hBound).1

/- Reading a script stops where its contents end. -/
theorem termination_parseStatements
    (text : String) :
    (parseStatements text).termination =
      some (Script.contentsOf text).termination := by
  have hWaits := Parser.waits_ofText text
  have hBound := Parser.length_lt_callBound_ofText text
  exact (hWaits.drain [] [] hBound).2

end KsqlBatch
