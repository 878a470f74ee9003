import KsqlBatch.Proofs.Script.Calls
import KsqlBatch.Proofs.Script.Properties

/-
  This file follows a parser that is called in several ways,
  in any order and any number of times. Between two calls the
  parser waits for the next statement or has stopped, and once
  it has stopped calls neither find anything nor change it.

  Key definitions include:
    * `ParserCall`
    * `Parser.make`
    * `MadeCall`
    * `Parser.makeAll`
    * `MadeCall.IsSound`
    * `IsSoundHistory`
    * `Parser.Stands`

  Key theorems include:
    * `Parser.make_eq`
    * `MadeCall.stands_after`
    * `MadeCall.isSound`

  The main result is `isSoundHistory_makeAll`.
-/

------------------------------------------------------------
-- Calls
------------------------------------------------------------

namespace KsqlBatch

/-
  A way to call the parser: for an outcome, for the statement
  in an outcome, or for a statement with its properties.
-/
inductive ParserCall where
| advance
| advanceStatement
| next
deriving DecidableEq, Repr, Inhabited

/- What a call gives back. -/
inductive ParserAnswer where
| outcome (given : Outcome)
| statement (found : Option Statement)
| item
    (yielded :
      Option (Except IncompleteStatement ParsedStatement))
deriving Inhabited

namespace ParserAnswer

/- The statement in an answer. -/
def statement? : ParserAnswer → Option Statement
| .outcome given => given.statement?
| .statement found => found
| .item (some (.ok parsed)) => some parsed.statement
| .item (some (.error _)) => none
| .item none => none

/- An answer says that there is nothing more. -/
def isEnd : ParserAnswer → Bool
| .outcome given => given == .ended
| .statement found => found.isNone
| .item yielded => yielded.isNone

end ParserAnswer

/- The form in which a call gives an outcome. -/
def ParserCall.answer
    (call : ParserCall)
    (outcome : Outcome)
    (properties : PropertyMap) : ParserAnswer :=
  match call with
  | .advance => .outcome outcome
  | .advanceStatement => .statement outcome.statement?
  | .next =>
      match outcome with
      | .statement statement =>
          .item (some (.ok { statement, properties }))
      | .failed incomplete =>
          .item (some (.error incomplete))
      | .ended => .item none

namespace Parser

/- Call the parser. -/
def make
    (parser : Parser) : ParserCall → ParserAnswer × Parser
| .advance =>
    (.outcome parser.advance.1, parser.advance.2.1)
| .advanceStatement =>
    (.statement parser.advance.1.statement?,
      parser.advance.2.1)
| .next => (.item parser.next.1, parser.next.2.1)

/- However the parser is called, it advances. -/
theorem make_eq
    (parser : Parser)
    (call : ParserCall) :
    parser.make call =
      (call.answer parser.advance.1
        parser.advance.2.1.properties,
        parser.advance.2.1) := by
  cases call with
  | advance => rfl
  | advanceStatement => rfl
  | next =>
      rw [make, next_eq]
      cases parser.advance.1 <;> rfl

end Parser

/- A call that was made, with the parser it was made on. -/
structure MadeCall where
  before : Parser
  call : ParserCall
deriving Inhabited

namespace MadeCall

/- What the call gave back. -/
def answer
    (made : MadeCall) : ParserAnswer :=
  (made.before.make made.call).1

/- The parser after the call. -/
def after
    (made : MadeCall) : Parser :=
  (made.before.make made.call).2

/- The outcome that the call had, in whatever form. -/
def outcome
    (made : MadeCall) : Outcome :=
  made.before.advance.1

end MadeCall

/- Make calls one after the other. -/
def Parser.makeAll
    (parser : Parser) : List ParserCall → List MadeCall
| [] => []
| call :: calls =>
    { before := parser, call } ::
      (parser.make call).2.makeAll calls

/- The last statement that calls gave back. -/
def lastEmitted
    (history : List MadeCall) : Option Statement :=
  (history.filterMap (·.answer.statement?)).getLast?

/- The error that an outcome is. -/
def Outcome.error? : Outcome → Option IncompleteStatement
| .statement _ => none
| .ended => none
| .failed incomplete => some incomplete

end KsqlBatch

------------------------------------------------------------
-- Sound Calls
------------------------------------------------------------

namespace KsqlBatch

/-
  A call behind earlier ones does what it should. It leaves
  the parser idle, with the latest statement as its current
  one, or done, with a reason and without a statement. No
  property is lost. The call that stops the parser finds
  nothing more or an incomplete statement, and the reason
  says which. Calls to a parser that is done do nothing.
-/
structure MadeCall.IsSound
    (earlier : List MadeCall)
    (made : MadeCall) : Prop where
  idle_or_done :
    made.after.state = .idle ∨ made.after.state = .done
  done_iff :
    made.after.state = .done ↔
      made.after.termination.isSome = true
  current_of_idle :
    made.after.state = .idle →
    made.after.current = lastEmitted (earlier ++ [made])
  current_of_done :
    made.after.state = .done → made.after.current = none
  keys_kept :
    made.before.properties.KeysIn made.after.properties
  answer_eq :
    made.answer =
      made.call.answer made.outcome made.after.properties
  ended_or_failed :
    made.before.state ≠ .done →
    made.after.state = .done →
    made.outcome = .ended ∨
      ∃ incomplete, made.outcome = .failed incomplete
  failed_iff :
    made.before.state ≠ .done →
    made.after.state = .done →
    ∀ incomplete,
      made.outcome = .failed incomplete ↔
        made.after.termination =
          some (.incompleteStatement incomplete)
  ended_when_done :
    made.before.state = .done → made.answer.isEnd = true
  unchanged_when_done :
    made.before.state = .done → made.after = made.before

/-
  Calls that follow one another are sound. At most one of
  them meets an error, and those after it find nothing more.
-/
structure IsSoundHistory
    (history : List MadeCall) : Prop where
  calls_sound :
    ∀ earlier made later,
      history = earlier ++ made :: later →
      made.IsSound earlier
  one_error :
    (history.filterMap (·.outcome.error?)).length ≤ 1
  ended_after_error :
    history.Pairwise fun made other =>
      made.outcome.error?.isSome = true →
      other.answer.isEnd = true

end KsqlBatch

------------------------------------------------------------
-- Keys in Contents
------------------------------------------------------------

namespace KsqlBatch

namespace Script

/- Properties in force are set in all that follows. -/
theorem keysIn_contents
    (number : Nat)
    (properties : PropertyMap)
    (lines : List String) :
    properties.KeysIn
        (contents number properties lines).properties ∧
      ∀ parsed ∈
          (contents number properties lines).statements,
        properties.KeysIn parsed.properties := by
  induction number, properties, lines
    using contents_induction with
  | exhausted number properties =>
      rw [contents_nil]
      exact ⟨PropertyMap.KeysIn.refl _, by simp⟩
  | inert number properties line rest hInert ih =>
      rw [contents_cons_of_isInert hInert]
      exact ih
  | directive number properties line rest found hKind hRead
      ih =>
      have hInsert :=
        properties.keysIn_insert found.key found.value
      rw [contents_cons_of_directive hKind hRead]
      constructor
      · exact hInsert.trans ih.1
      · intro parsed hParsed
        exact hInsert.trans (ih.2 parsed hParsed)
  | malformed number properties line rest hMalformed =>
      rw [contents_cons_of_isMalformed hMalformed]
      exact ⟨PropertyMap.KeysIn.refl _, by simp⟩
  | statement number properties line rest block later hKind
      hClosed ih =>
      rw [contents_cons_of_closed hKind hClosed]
      constructor
      · exact ih.1
      · intro parsed hParsed
        rcases List.mem_cons.mp hParsed with rfl | hLater
        · exact PropertyMap.KeysIn.refl _
        · exact ih.2 parsed hLater
  | incomplete number properties line rest hKind hOpen =>
      rw [contents_cons_of_open hKind hOpen]
      exact ⟨PropertyMap.KeysIn.refl _, by simp⟩

end Script

end KsqlBatch

------------------------------------------------------------
-- One Call
------------------------------------------------------------

namespace KsqlBatch

namespace Parser

/-
  Between two calls the parser waits, with the last statement
  as its current one, or it has stopped.
-/
inductive Stands
    (parser : Parser)
    (last : Option Statement) : Prop
| waiting
    {number : Nat}
    {properties : PropertyMap}
    {lines : List String}
    (hWaits : parser.Waits number properties lines)
    (hCurrent : parser.current = last)
| stopped
    {total : Nat}
    {contents : Script.Contents}
    (hStopped : parser.Stopped total contents)

variable {parser : Parser}
variable {last : Option Statement}

theorem Waits.state_eq
    {number : Nat}
    {properties : PropertyMap}
    {lines : List String}
    (hWaits : parser.Waits number properties lines) :
    parser.state = .idle := by
  rw [state, hWaits.phase_eq]
  rfl

theorem Stopped.state_eq
    {total : Nat}
    {contents : Script.Contents}
    (hStopped : parser.Stopped total contents) :
    parser.state = .done := by
  rw [state, hStopped.phase_eq]
  rfl

/- Only a parser that has stopped is done. -/
theorem phase_eq_done_iff
    (parser : Parser) :
    parser.phase = .done ↔ parser.state = .done := by
  unfold state
  cases parser.phase with
  | idle => simp [Phase.state]
  | accumulating startLine linesRev => simp [Phase.state]
  | done => simp [Phase.state]

theorem Stands.idle_or_done
    (hStands : parser.Stands last) :
    parser.state = .idle ∨ parser.state = .done := by
  cases hStands with
  | waiting hWaits hCurrent => exact Or.inl hWaits.state_eq
  | stopped hStopped => exact Or.inr hStopped.state_eq

theorem Stands.done_iff
    (hStands : parser.Stands last) :
    parser.state = .done ↔
      parser.termination.isSome = true := by
  cases hStands with
  | waiting hWaits hCurrent =>
      simp [hWaits.state_eq, hWaits.termination_eq]
  | stopped hStopped =>
      simp [hStopped.state_eq, hStopped.termination_eq]

theorem Stands.current_of_idle
    (hStands : parser.Stands last)
    (hIdle : parser.state = .idle) :
    parser.current = last := by
  cases hStands with
  | waiting hWaits hCurrent => exact hCurrent
  | stopped hStopped => simp [hStopped.state_eq] at hIdle

theorem Stands.current_of_done
    (hStands : parser.Stands last)
    (hDone : parser.state = .done) :
    parser.current = none := by
  cases hStands with
  | waiting hWaits hCurrent =>
      simp [hWaits.state_eq] at hDone
  | stopped hStopped => exact hStopped.current_eq

end Parser

namespace MadeCall

variable {made : MadeCall}

theorem answer_eq
    (made : MadeCall) :
    made.answer =
      made.call.answer made.outcome made.after.properties := by
  unfold answer after outcome
  rw [Parser.make_eq]

theorem after_eq
    (made : MadeCall) :
    made.after = made.before.advance.2.1 := by
  unfold after
  rw [Parser.make_eq]

/- A call gives back the statement that it finds. -/
theorem statement?_answer
    (made : MadeCall) :
    made.answer.statement? = made.outcome.statement? := by
  rw [answer_eq]
  cases made.call <;> cases made.outcome <;> rfl

/- A call that finds nothing says so. -/
theorem isEnd_of_outcome_eq_ended
    (hEnded : made.outcome = .ended) :
    made.answer.isEnd = true := by
  rw [answer_eq, hEnded]
  cases made.call <;> rfl

/- Calls to a parser that is done find nothing. -/
theorem outcome_of_done
    (hDone : made.before.state = .done) :
    made.outcome = .ended := by
  rw [← Parser.phase_eq_done_iff] at hDone
  rw [outcome, Parser.advance_of_done hDone]

/- Calls to a parser that is done leave it as it is. -/
theorem after_of_done
    (hDone : made.before.state = .done) :
    made.after = made.before := by
  rw [← Parser.phase_eq_done_iff] at hDone
  rw [after_eq, Parser.advance_of_done hDone]

end MadeCall

/- A statement that is given back becomes the last one. -/
theorem lastEmitted_append
    (earlier : List MadeCall)
    (made : MadeCall) :
    lastEmitted (earlier ++ [made]) =
      made.outcome.statement?.or (lastEmitted earlier) := by
  unfold lastEmitted
  rw [List.filterMap_append, List.getLast?_append,
    ← made.statement?_answer]
  cases hFound : made.answer.statement? <;> simp [hFound]

namespace MadeCall

variable {made : MadeCall}
variable {last : Option Statement}

/-
  What a call does to a parser that waits: it finds the next
  statement, or the parser stops.
-/
theorem stands_after
    (hStands : made.before.Stands last) :
    made.after.Stands (made.outcome.statement?.or last) := by
  cases hStands with
  | waiting hWaits hCurrent =>
      have hAdvance := hWaits.advance
      rw [after_eq, outcome]
      generalize made.before.advance.1 = found at hAdvance ⊢
      generalize made.before.advance.2.1 = reached
        at hAdvance ⊢
      cases hAdvance with
      | statement parsed next later hReached hFound hShorter
          hTotal hContents =>
          exact .waiting hReached hFound
      | stop hStopped hEmpty => exact .stopped hStopped
  | stopped hStopped =>
      rw [after_of_done hStopped.state_eq]
      exact .stopped hStopped

/- No property is lost in a call. -/
theorem keys_kept
    (hStands : made.before.Stands last) :
    made.before.properties.KeysIn
      made.after.properties := by
  cases hStands with
  | @waiting number properties lines hWaits hCurrent =>
      have hAdvance := hWaits.advance
      have hKeys :=
        Script.keysIn_contents number properties lines
      rw [after_eq, hWaits.properties_eq]
      generalize made.before.advance.1 = found at hAdvance
      generalize made.before.advance.2.1 = reached
        at hAdvance ⊢
      cases hAdvance with
      | statement parsed next later hReached hFound hShorter
          hTotal hContents =>
          rw [hReached.properties_eq]
          apply hKeys.2 parsed
          rw [hContents]
          exact List.mem_cons_self
      | stop hStopped hEmpty =>
          rw [hStopped.properties_eq]
          exact hKeys.1
  | stopped hStopped =>
      rw [after_of_done hStopped.state_eq]
      exact PropertyMap.KeysIn.refl _

/-
  The call that stops the parser has the outcome that goes
  with the reason.
-/
theorem exists_termination
    (hStands : made.before.Stands last)
    (hBefore : made.before.state ≠ .done)
    (hAfter : made.after.state = .done) :
    ∃ termination : Termination,
      made.after.termination = some termination ∧
      made.outcome = termination.outcome := by
  cases hStands with
  | waiting hWaits hCurrent =>
      have hAdvance := hWaits.advance
      rw [after_eq] at hAfter ⊢
      rw [outcome]
      generalize made.before.advance.1 = found at hAdvance ⊢
      generalize made.before.advance.2.1 = reached
        at hAdvance hAfter ⊢
      cases hAdvance with
      | statement parsed next later hReached hFound hShorter
          hTotal hContents =>
          simp [hReached.state_eq] at hAfter
      | stop hStopped hEmpty =>
          exact ⟨_, hStopped.termination_eq, rfl⟩
  | stopped hStopped =>
      exact absurd hStopped.state_eq hBefore

/- Only a call that stops the parser meets an error. -/
theorem done_of_error
    (hStands : made.before.Stands last)
    (hError : made.outcome.error?.isSome = true) :
    made.after.state = .done := by
  cases hStands with
  | waiting hWaits hCurrent =>
      have hAdvance := hWaits.advance
      rw [outcome] at hError
      rw [after_eq]
      generalize made.before.advance.1 = found
        at hAdvance hError
      generalize made.before.advance.2.1 = reached
        at hAdvance ⊢
      cases hAdvance with
      | statement parsed next later hReached hFound hShorter
          hTotal hContents =>
          simp [Outcome.error?] at hError
      | stop hStopped hEmpty => exact hStopped.state_eq
  | stopped hStopped =>
      rw [after_of_done hStopped.state_eq]
      exact hStopped.state_eq

/- Each call behind earlier ones is sound. -/
theorem isSound
    {earlier : List MadeCall}
    (hStands : made.before.Stands (lastEmitted earlier)) :
    made.IsSound earlier := by
  have hAfter := stands_after hStands
  rw [← lastEmitted_append] at hAfter
  constructor
  · exact hAfter.idle_or_done
  · exact hAfter.done_iff
  · exact hAfter.current_of_idle
  · exact hAfter.current_of_done
  · exact keys_kept hStands
  · exact made.answer_eq
  · intro hWasNotDone hDone
    rcases exists_termination hStands hWasNotDone hDone with
      ⟨termination, _, hOutcome⟩
    rw [hOutcome]
    cases termination with
    | exhausted => exact Or.inl rfl
    | malformedDirective lineNumber line => exact Or.inl rfl
    | incompleteStatement incomplete =>
        exact Or.inr ⟨incomplete, rfl⟩
  · intro hWasNotDone hDone incomplete
    rcases exists_termination hStands hWasNotDone hDone with
      ⟨termination, hTermination, hOutcome⟩
    rw [hOutcome, hTermination]
    cases termination with
    | exhausted => simp [Termination.outcome]
    | malformedDirective lineNumber line =>
        simp [Termination.outcome]
    | incompleteStatement found => simp [Termination.outcome]
  · intro hDone
    exact isEnd_of_outcome_eq_ended (outcome_of_done hDone)
  · exact after_of_done

end MadeCall

end KsqlBatch

------------------------------------------------------------
-- Any Number of Calls
------------------------------------------------------------

namespace KsqlBatch

namespace Parser

variable {parser : Parser}

/- The calls of a history are sound behind earlier ones. -/
theorem Stands.isSound_of_makeAll
    {earlier : List MadeCall}
    {calls : List ParserCall}
    (hStands : parser.Stands (lastEmitted earlier))
    {front later : List MadeCall}
    {made : MadeCall}
    (hHistory :
      parser.makeAll calls = front ++ made :: later) :
    made.IsSound (earlier ++ front) := by
  induction calls generalizing parser earlier front with
  | nil => simp [makeAll] at hHistory
  | cons call calls ih =>
      rw [makeAll] at hHistory
      cases front with
      | nil =>
          have hMade : { before := parser, call } = made :=
            List.head_eq_of_cons_eq hHistory
          rw [List.append_nil]
          apply MadeCall.isSound
          rw [← hMade]
          exact hStands
      | cons first front =>
          have hFirst : { before := parser, call } = first :=
            List.head_eq_of_cons_eq hHistory
          have hNext :
              first.after.Stands
                (lastEmitted (earlier ++ [first])) := by
            rw [lastEmitted_append]
            apply MadeCall.stands_after
            rw [← hFirst]
            exact hStands
          rw [List.append_cons]
          apply ih hNext
          rw [← hFirst]
          exact List.tail_eq_of_cons_eq hHistory

/- Calls to a parser that is done find nothing. -/
theorem outcome_of_mem_makeAll_of_done
    (hDone : parser.state = .done)
    {calls : List ParserCall}
    {made : MadeCall}
    (hMade : made ∈ parser.makeAll calls) :
    made.outcome = .ended := by
  induction calls with
  | nil => simp [makeAll] at hMade
  | cons call calls ih =>
      let first : MadeCall := { before := parser, call }
      have hSame : first.after = parser :=
        MadeCall.after_of_done hDone
      rcases List.mem_cons.mp hMade with rfl | hLater
      · exact MadeCall.outcome_of_done hDone
      · apply ih
        rw [← hSame]
        exact hLater

/- Behind an error calls find nothing. -/
theorem Stands.outcome_after_error
    {last : Option Statement}
    (hStands : parser.Stands last)
    {call : ParserCall}
    (hError : parser.advance.1.error?.isSome = true)
    {calls : List ParserCall}
    {other : MadeCall}
    (hOther :
      other ∈ (parser.make call).2.makeAll calls) :
    other.outcome = .ended := by
  let made : MadeCall := { before := parser, call }
  have hDone : made.after.state = .done :=
    MadeCall.done_of_error hStands hError
  exact outcome_of_mem_makeAll_of_done hDone hOther

/- At most one call meets an error. -/
theorem Stands.one_error
    {last : Option Statement}
    (hStands : parser.Stands last)
    (calls : List ParserCall) :
    ((parser.makeAll calls).filterMap
      fun made => made.outcome.error?).length ≤ 1 := by
  induction calls generalizing parser last with
  | nil => simp [makeAll]
  | cons call calls ih =>
      let made : MadeCall := { before := parser, call }
      have hNext : made.after.Stands _ :=
        MadeCall.stands_after hStands
      have hCalls :
          parser.makeAll (call :: calls) =
            made :: made.after.makeAll calls := rfl
      rw [hCalls, List.filterMap_cons]
      cases hError : made.outcome.error? with
      | none => exact ih hNext
      | some incomplete =>
          have hNone :
              ((made.after.makeAll calls).filterMap
                fun other => other.outcome.error?) = [] := by
            rw [List.filterMap_eq_nil_iff]
            intro other hOther
            have hEnded : other.outcome = .ended :=
              hStands.outcome_after_error
                (Option.isSome_of_eq_some hError) hOther
            rw [hEnded]
            rfl
          rw [hNone]
          exact Nat.le_refl 1

/- Calls behind an error say that there is nothing more. -/
theorem Stands.ended_after_error
    {last : Option Statement}
    (hStands : parser.Stands last)
    (calls : List ParserCall) :
    (parser.makeAll calls).Pairwise fun made other =>
      made.outcome.error?.isSome = true →
      other.answer.isEnd = true := by
  induction calls generalizing parser last with
  | nil => exact List.Pairwise.nil
  | cons call calls ih =>
      let made : MadeCall := { before := parser, call }
      have hNext : made.after.Stands _ :=
        MadeCall.stands_after hStands
      rw [makeAll, List.pairwise_cons]
      constructor
      · intro other hOther hError
        apply MadeCall.isEnd_of_outcome_eq_ended
        exact hStands.outcome_after_error hError hOther
      · exact ih hNext

end Parser

/-
  Whatever calls are made on the parser of a script, in
  whatever order, they are sound, and at most one of them
  meets an error, with nothing but ends behind it.
-/
theorem isSoundHistory_makeAll
    (text : String)
    (calls : List ParserCall) :
    IsSoundHistory
      ((Parser.ofText text).makeAll calls) := by
  have hStands :
      (Parser.ofText text).Stands (lastEmitted []) :=
    .waiting (Parser.waits_ofText text) rfl
  constructor
  · intro earlier made later hHistory
    have hSound : made.IsSound ([] ++ earlier) :=
      hStands.isSound_of_makeAll hHistory
    rw [List.nil_append] at hSound
    exact hSound
  · exact hStands.one_error calls
  · exact hStands.ended_after_error calls

end KsqlBatch
