import KsqlBatch.Proofs.Script.Driving
import KsqlBatch.Proofs.Script.Progress

/-
  This file compares ways to drive a parser. Whatever the
  calls are, each of them finds the parser that advancing as
  often leaves, so calls at the same place of two sequences
  come to the same. A loop that advances while there are
  statements collects what the script contains.

  Key definitions include:
    * `MadeCall.AgreesWith`
    * `Parser.collect`

  Key theorems include:
    * `Parser.getElem?_makeAll`
    * `MadeCall.agreesWith_of_before_eq`
    * `Parser.Waits.collect`
-/

------------------------------------------------------------
-- Calls at the Same Place
------------------------------------------------------------

namespace KsqlBatch

namespace MadeCall

/-
  Two calls come to the same: they have the same outcome and
  leave the same behind. If the one asks for the next item and
  the other one advances, the item is a statement just if the
  outcome is one, with the properties in force behind the
  call; and so it is with errors and with the end.
-/
structure AgreesWith
    (made other : MadeCall) : Prop where
  outcome_eq : made.outcome = other.outcome
  state_eq : made.after.state = other.after.state
  current_eq : made.after.current = other.after.current
  properties_eq :
    made.after.properties = other.after.properties
  termination_eq :
    made.after.termination = other.after.termination
  statement_iff :
    made.call = .next →
    other.call = .advance →
    ∀ parsed,
      made.answer = .item (some (.ok parsed)) ↔
        other.answer = .outcome (.statement parsed.statement) ∧
          parsed.properties = other.after.properties
  error_iff :
    made.call = .next →
    other.call = .advance →
    ∀ incomplete,
      made.answer = .item (some (.error incomplete)) ↔
        other.answer = .outcome (.failed incomplete)
  end_iff :
    made.call = .next →
    other.call = .advance →
    (made.answer = .item none ↔
      other.answer = .outcome .ended)

/- Calls of the same parser come to the same. -/
theorem agreesWith_of_before_eq
    {made other : MadeCall}
    (hBefore : made.before = other.before) :
    made.AgreesWith other := by
  have hOutcome : made.outcome = other.outcome := by
    unfold outcome
    rw [hBefore]
  have hAfter : made.after = other.after := by
    rw [made.after_eq, other.after_eq, hBefore]
  have hAnswer := made.answer_eq
  have hOther := other.answer_eq
  rw [hOutcome, hAfter] at hAnswer
  constructor
  · exact hOutcome
  · rw [hAfter]
  · rw [hAfter]
  · rw [hAfter]
  · rw [hAfter]
  · intro hNext hAdvance parsed
    rw [hNext] at hAnswer
    rw [hAdvance] at hOther
    rw [hAnswer, hOther]
    rcases parsed with ⟨statement, properties⟩
    cases other.outcome with
    | statement found =>
        simp [ParserCall.answer, eq_comm]
    | ended => simp [ParserCall.answer]
    | failed incomplete => simp [ParserCall.answer]
  · intro hNext hAdvance incomplete
    rw [hNext] at hAnswer
    rw [hAdvance] at hOther
    rw [hAnswer, hOther]
    cases other.outcome with
    | statement found => simp [ParserCall.answer]
    | ended => simp [ParserCall.answer]
    | failed found => simp [ParserCall.answer]
  · intro hNext hAdvance
    rw [hNext] at hAnswer
    rw [hAdvance] at hOther
    rw [hAnswer, hOther]
    cases other.outcome with
    | statement found => simp [ParserCall.answer]
    | ended => simp [ParserCall.answer]
    | failed incomplete => simp [ParserCall.answer]

end MadeCall

/-
  Each call is made on the parser that advancing as often as
  there are calls in front of it leaves.
-/
theorem Parser.getElem?_makeAll
    (parser : Parser)
    (calls : List ParserCall)
    (place : Nat) :
    (parser.makeAll calls)[place]? =
      calls[place]?.map fun call =>
        { before := parser.after place, call } := by
  induction calls generalizing parser place with
  | nil => rfl
  | cons call calls ih =>
      cases place with
      | zero => rfl
      | succ place =>
          rw [makeAll, List.getElem?_cons_succ,
            List.getElem?_cons_succ, ih, make_eq]
          rfl

end KsqlBatch

------------------------------------------------------------
-- Advancing in a Loop
------------------------------------------------------------

namespace KsqlBatch

namespace Parser

/-
  Advance while there are statements, and take each of them
  with the properties in force behind its call. Comes to an
  end with the statements and the parser.
-/
def collect
    (parser : Parser) : List ParsedStatement × Parser :=
  match _hFound : parser.advance.1.statement? with
  | some statement =>
      let reached := parser.advance.2.1
      let rest := reached.collect
      ({ statement, properties := reached.properties } ::
          rest.1,
        rest.2)
  | none => ([], parser.advance.2.1)
termination_by parser.cursor.pending.length
decreasing_by
  exact
    length_pending_lt_of_found
      (Option.isSome_of_eq_some _hFound)

variable {parser : Parser}

theorem collect_of_found
    {statement : Statement}
    (hFound : parser.advance.1.statement? = some statement) :
    parser.collect =
      ({ statement
         properties := parser.advance.2.1.properties } ::
          parser.advance.2.1.collect.1,
        parser.advance.2.1.collect.2) := by
  rw [collect]
  split
  · rename_i found hOther
    rw [hFound] at hOther
    cases hOther
    rfl
  · rename_i hNone
    rw [hFound] at hNone
    cases hNone

theorem collect_of_not_found
    (hNone : parser.advance.1.statement? = none) :
    parser.collect = ([], parser.advance.2.1) := by
  rw [collect]
  split
  · rename_i found hFound
    rw [hNone] at hFound
    cases hFound
  · rfl

/-
  The loop collects the statements that the lines contain and
  stops at the end of their contents.
-/
theorem Waits.collect
    {number : Nat}
    {properties : PropertyMap}
    {lines : List String}
    (hWaits : parser.Waits number properties lines) :
    parser.collect.1 =
        (Script.contents number properties
          lines).statements ∧
      parser.collect.2.Stopped (number + lines.length)
        (Script.contents number properties lines) := by
  -- Each statement leaves fewer lines to read.
  induction hLength : lines.length using Nat.strongRecOn
    generalizing parser number properties lines with
  | ind length ih =>
      have hAdvance := hWaits.advance
      generalize hOutcome : parser.advance.1 = outcome
        at hAdvance
      generalize hReached : parser.advance.2.1 = reached
        at hAdvance
      cases hAdvance with
      | statement parsed next later hNext hCurrent hShorter
          hTotal hContents =>
          have hFound :=
            congrArg Outcome.statement? hOutcome
          rw [collect_of_found hFound, hReached,
            hNext.properties_eq, hContents]
          have hRest :=
            ih later.length (by omega) hNext rfl
          rw [← hLength, ← hTotal]
          exact
            ⟨congrArg (parsed :: ·) hRest.1,
              hRest.2.of_same_end rfl rfl⟩
      | stop hStopped hEmpty =>
          have hNone :
              parser.advance.1.statement? = none := by
            rw [hOutcome]
            cases (Script.contents number properties
              lines).termination <;> rfl
          rw [collect_of_not_found hNone, hReached, hEmpty,
            ← hLength]
          exact ⟨rfl, hStopped⟩

end Parser

end KsqlBatch
