import KsqlBatch.Proofs.Batch.Trace
import KsqlBatch.Proofs.Script.Agreement

/-
  This file follows the loop that runs the statements of a
  buffer. The bound on its calls is never met, it only comes
  to an end once the parser has said why, and as long as no
  statement fails it sees what other loops over the parser
  see.

  Key theorems include:
    * `Runner.runStatements_congr`
    * `Parser.Waits.termination_of_runStatements`

  The main results are `parser_progress` and `loops_agree`.
-/

------------------------------------------------------------
-- The Loop over Statements
------------------------------------------------------------

namespace KsqlBatch

/-
  Any two bounds on the calls of the loop amount to the same
  if they leave room for a call more than there are lines.
-/
theorem Runner.runStatements_congr
    {m : Type → Type}
    [Monad m]
    (runner : Runner m)
    (path : String)
    (parser : Parser)
    (executed : Nat)
    {fuel other : Nat}
    (hFuel : parser.cursor.pending.length < fuel)
    (hOther : parser.cursor.pending.length < other) :
    runner.runStatements path parser executed fuel =
      runner.runStatements path parser executed other := by
  induction fuel generalizing parser executed other with
  | zero => omega
  | succ fuel ih =>
      cases other with
      | zero => omega
      | succ other =>
          have hNext := parser.next_eq
          unfold runStatements
          cases hOutcome : parser.advance.1 with
          | statement found =>
              have hFewer :=
                Parser.length_pending_lt_of_found
                  (Option.isSome_of_eq_some
                    (congrArg Outcome.statement? hOutcome))
              simp only [hOutcome] at hNext
              rw [hNext]
              refine bind_congr ?_
              intro _
              refine bind_congr ?_
              intro answer
              cases answer with
              | error error => rfl
              | ok result =>
                  refine bind_congr ?_
                  intro _
                  exact
                    ih parser.advance.2.1 (executed + 1)
                      (by omega) (by omega)
          | ended =>
              simp only [hOutcome] at hNext
              rw [hNext]
          | failed incomplete =>
              simp only [hOutcome] at hNext
              rw [hNext]

namespace Parser

variable {parser : Parser}
variable {number : Nat}
variable {properties : PropertyMap}
variable {lines : List String}

/-
  Whatever the executor, the files and the callbacks do: if
  the loop comes to its end, the parser has stopped.
-/
theorem Waits.termination_of_runStatements
    {σ : Type}
    {runner : Runner (Session σ)}
    {path : String}
    {executed count fuel : Nat}
    {reached : Parser}
    {s : σ}
    (hWaits : parser.Waits number properties lines)
    (hFuel : lines.length < fuel)
    (hRun :
      ((runner.runStatements path parser executed fuel).run
        s).1 = .ok (count, reached)) :
    reached.termination =
      some
        (Script.contents number properties
          lines).termination := by
  induction fuel generalizing parser number properties lines
    executed s with
  | zero => omega
  | succ fuel ih =>
      have hAdvance := hWaits.advance
      have hNext := parser.next_eq
      generalize parser.advance.1 = outcome
        at hAdvance hNext
      generalize parser.advance.2.1 = next
        at hAdvance hNext
      unfold Runner.runStatements at hRun
      cases hAdvance with
      | statement parsed last later hReached hCurrent hShorter
          hTotal hContents =>
          simp only [hReached.properties_eq] at hNext
          rw [hNext] at hRun
          simp only [Session.run_bind] at hRun
          rw [hContents]
          split at hRun
          · simp at hRun
          · rw [Session.run_bind] at hRun
            exact ih hReached (by omega) hRun
      | stop hStopped hEmpty =>
          cases hOutcome :
              (Script.contents number properties
                lines).termination.outcome with
          | statement found =>
              exact absurd hOutcome
                (Termination.outcome_ne_statement _ found)
          | ended =>
              simp only [hOutcome] at hNext
              rw [hNext] at hRun
              simp only [Session.run_bind, Session.run_pure,
                Except.ok.injEq, Prod.mk.injEq] at hRun
              rw [← hRun.2]
              exact hStopped.termination_eq
          | failed incomplete =>
              simp only [hOutcome] at hNext
              rw [hNext] at hRun
              simp only [Session.run_bind, Session.run_pure,
                Except.ok.injEq, Prod.mk.injEq] at hRun
              rw [← hRun.2]
              exact hStopped.termination_eq

end Parser

end KsqlBatch

------------------------------------------------------------
-- Progress
------------------------------------------------------------

namespace KsqlBatch

/-
  The parser of a text makes progress. A call before it has
  stopped reads at least one line or finds that there is none
  and stops; the parser has stopped after one call more than
  there are lines, and never finds more statements than there
  are lines. No line is read twice, and where the parser has
  stopped says which lines were read: all of them, or those up
  to the directive that cannot be read. So reading a script
  always says why it stopped, and so does the loop that runs a
  buffer; the bounds on their calls make no difference.
-/
theorem parser_progress
    (text : String) :
    let parser := Parser.ofText text
    let total := (LineCursor.ofText text).yields.length
    (∀ calls,
      (parser.after calls).state ≠ .done →
      ∃ count,
        (parser.after (calls + 1)).cursor =
          (parser.after calls).cursor.after count ∧
        (parser.after (calls + 1)).cursor.lineNumber =
          (parser.after calls).cursor.lineNumber + count ∧
        (0 < count ∨
          (parser.after calls).cursor.nextLine? = none ∧
          (parser.after (calls + 1)).state = .done)) ∧
    (∀ calls,
      total < calls → (parser.after calls).state = .done) ∧
    (∀ calls, (parser.emitted calls).length ≤ total) ∧
    (∀ calls,
      ∃ read,
        read ≤ total ∧
        (parser.after calls).cursor =
          (LineCursor.ofText text).after read ∧
        (parser.after calls).cursor.lineNumber = read ∧
        ∀ termination,
          (parser.after calls).termination =
            some termination →
          read = termination.lastLine total) ∧
    (parseStatements text).termination.isSome = true ∧
    (∀ fuel,
      total < fuel →
      parser.drain [] [] fuel = parseStatements text) ∧
    ∀ (σ : Type) (runner : Runner (Session σ)) (path : String)
      (s : σ),
      (∀ fuel,
        total < fuel →
        runner.runStatements path parser 0 fuel =
          runner.runStatements path parser 0
            parser.callBound) ∧
      ∀ executed reached,
        ((runner.runStatements path parser 0
          parser.callBound).run s).1 =
            .ok (executed, reached) →
        reached.termination.isSome = true := by
  intro parser total
  have hWaits := Parser.waits_ofText text
  have hBound := Parser.length_lt_callBound_ofText text
  have hTotal : total = parser.cursor.pending.length :=
    congrArg List.length (LineCursor.yields_eq _ 0)
  have hLines : (Script.trimmedLines text).length = total :=
    List.length_map _
  have hRoom :
      parser.cursor.pending.length < parser.callBound :=
    Nat.lt_succ_self _
  refine ⟨?_, ?_, ?_, ?_, ?_, ?_, ?_⟩
  · intro calls hOpen
    have hPhase : (parser.after calls).phase ≠ .done :=
      fun hDone =>
        hOpen ((Parser.phase_eq_done_iff _).mp hDone)
    rcases Parser.exists_reads hPhase with ⟨count, hReads⟩
    rw [Parser.after_succ, ← Parser.phase_eq_done_iff]
    exact
      ⟨count, hReads.cursor_eq, hReads.lineNumber_eq,
        hReads.pos_or_done⟩
  · intro calls hCalls
    exact (hWaits.stopped_after (by omega)).state_eq
  · intro calls
    rw [hTotal]
    exact parser.length_emitted_le calls
  · intro calls
    rcases parser.exists_cursor_after calls with
      ⟨read, hRead, hCursor⟩
    have hNumber :
        (parser.after calls).cursor.lineNumber = read := by
      rw [hCursor, LineCursor.after_eq,
        Nat.min_eq_left hRead]
      exact Nat.zero_add read
    refine ⟨read, by omega, hCursor, hNumber, ?_⟩
    intro termination hTermination
    have hLast :=
      hWaits.lineNumber_of_termination hTermination
    rw [hLines, Nat.zero_add] at hLast
    exact hNumber.symm.trans hLast
  · rw [termination_parseStatements]
    rfl
  · intro fuel hFuel
    exact parser.drain_congr [] [] (by omega) hRoom
  · intro σ runner path s
    constructor
    · intro fuel hFuel
      exact
        runner.runStatements_congr path parser 0 (by omega)
          hRoom
    · intro executed reached hRun
      rw [hWaits.termination_of_runStatements hBound hRun]
      rfl

end KsqlBatch

------------------------------------------------------------
-- Loops
------------------------------------------------------------

namespace KsqlBatch

namespace Machine

variable {σ : Type}
variable {machine : Machine σ}

/-
  As long as no statement fails, a buffer is run to the end
  of its script.
-/
theorem runBuffer_of_never_failing
    (hNever :
      ∀ statement properties s,
        (machine.reply (.execute statement properties)
          s).1.isOk = true)
    (disk : FileSystem Id)
    (policy : ListingPolicy)
    (path content : String)
    (s : σ) :
    let run :=
      ((Runner.traced machine.toExecutor disk
        policy).runBuffer path content).run s
    run.1 = .ok (scriptReport path content) ∧
      run.2.2.filterMap Event.call? =
        scriptCalls content := by
  intro run
  have hAppears :
      ((Runner.traced machine.toExecutor disk
        policy).runBuffer path content).outward =
        (machine.dispatch (scriptCalls content) >>= fun _ =>
          pure (scriptReport path content)).run :=
    Runner.runBuffer_appearsAs machine.toExecutor disk policy
      path content
  have hSeen :
      (run.1, run.2.1, run.2.2.filter Event.isOutward) =
        (machine.dispatch (scriptCalls content) >>= fun _ =>
          pure (scriptReport path content)).run.run s := by
    rw [← hAppears, Session.run_outward]
  have hCourse :=
    machine.course_dispatch (scriptCalls content) s
  generalize hOutcome :
    (machine.dispatch (scriptCalls content)).run.run s =
      outcome at hCourse
  cases hCourse with
  | served exchanges hReplies =>
      rw [Attempt.run_bind_of_ok hOutcome, ExceptT.run_pure,
        Session.run_pure, List.append_nil, Prod.mk.injEq,
        Prod.mk.injEq] at hSeen
      rcases hSeen with ⟨hResult, _, hEvents⟩
      refine ⟨hResult, ?_⟩
      rw [← Event.filterMap_call?_outward, hEvents,
        Exchange.filterMap_call?_events]
      exact calls_of_replies_eq_ok hReplies
  | failed exchanges call unmade error hCalls hReplies =>
      -- The call that failed would be one of the script.
      have hMade :
          ∀ made ∈ exchanges.map Exchange.call ++ [call],
            ∀ s, (machine.reply made s).1.isOk = true := by
        intro made hMade s
        have hScript : made ∈ scriptCalls content := by
          rw [hCalls, List.append_cons]
          exact List.mem_append_left unmade hMade
        have hExecute := isExecute_of_mem_scriptCalls hScript
        cases made with
        | execute statement properties =>
            exact hNever statement properties s
        | listStreams => cases hExecute
      have hOk :=
        isOk_of_mem_replies hMade s (.error error)
          (by rw [hReplies]; simp)
      exact absurd hOk Bool.false_ne_true

end Machine

/-
  The ways to drive the parser of a text agree. Two sequences
  of calls come to the same at each place, in whatever form
  they ask for outcomes. So a loop that advances while there
  are statements, one that takes all items and leaves out
  errors, and one that runs statements up to the first error
  see the same statements with the same properties, and stop
  for the same reason.
-/
theorem loops_agree
    {σ : Type}
    (machine : Machine σ)
    (disk : FileSystem Id)
    (policy : ListingPolicy)
    (path text : String)
    (s : σ)
    (hNever :
      ∀ statement properties s,
        (machine.reply (.execute statement properties)
          s).1.isOk = true) :
    let parser := Parser.ofText text
    let parsed := parseStatements text
    let run :=
      ((Runner.traced machine.toExecutor disk
        policy).runBuffer path text).run s
    (∀ calls others : List ParserCall,
      calls.length = others.length →
      ∀ place,
        place < calls.length →
        ∃ made other,
          (parser.makeAll calls)[place]? = some made ∧
          calls[place]? = some made.call ∧
          (parser.makeAll others)[place]? = some other ∧
          others[place]? = some other.call ∧
          made.AgreesWith other) ∧
    parser.collect.1 = parsed.statements ∧
    parser.collect.2.termination = parsed.termination ∧
    run.2.2.filterMap Event.call? =
      parsed.statements.map Call.ofParsed ∧
    ∃ report,
      run.1 = .ok report ∧
      report.executed = parsed.statements.length ∧
      some report.termination = parsed.termination := by
  intro parser parsed run
  have hCollect := (Parser.waits_ofText text).collect
  have hRun :=
    Machine.runBuffer_of_never_failing hNever disk policy path
      text s
  refine ⟨?_, ?_, ?_, hRun.2, ?_⟩
  · intro calls others hLength place hPlace
    have hOther : place < others.length := hLength ▸ hPlace
    refine
      ⟨{ before := parser.after place, call := calls[place] },
        { before := parser.after place
          call := others[place] }, ?_, ?_, ?_, ?_, ?_⟩
    · rw [Parser.getElem?_makeAll,
        List.getElem?_eq_getElem hPlace]
      rfl
    · exact List.getElem?_eq_getElem hPlace
    · rw [Parser.getElem?_makeAll,
        List.getElem?_eq_getElem hOther]
      rfl
    · exact List.getElem?_eq_getElem hOther
    · exact MadeCall.agreesWith_of_before_eq rfl
  · exact
      hCollect.1.trans (statements_parseStatements text).symm
  · exact
      hCollect.2.termination_eq.trans
        (termination_parseStatements text).symm
  · exact
      ⟨_, hRun.1, rfl,
        some_termination_scriptReport path text⟩

/-
  A script that ends inside a statement, driven in two ways
  that swap items and outcomes, and in the three loops.
-/
theorem loops_agree_of_unfinished_script :
    let text := "SET 'k' = 'v';\nSELECT 1;\nSELECT\n2"
    let parser := Parser.ofText text
    let machine :=
      Scripted.machine
        { streams := []
          rejections := []
          failingListing := none }
    let run :=
      ((Runner.traced machine.toExecutor
          (FileSystem.ofScripts "scripts" [])
          .never).runBuffer "a.ksql" text).run 0
    let only : ParsedStatement :=
      { statement :=
          { text := "SELECT 1;", startLine := 2, endLine := 2 }
        properties := PropertyMap.empty.insert "k" "v" }
    (∃ made other,
      (parser.makeAll [.next, .advance, .next])[1]? =
          some made ∧
        (parser.makeAll [.advance, .next, .advance])[1]? =
          some other ∧
        made.AgreesWith other ∧
        made.answer =
          .outcome
            (.failed { startLine := 3, fragment := "SELECT\n2" })) ∧
      parser.collect.1 = [only] ∧
      run.2.2.filterMap Event.call? =
        [.execute only.statement only.properties] ∧
      ∃ report,
        run.1 = .ok report ∧
        report.termination =
          .incompleteStatement
            { startLine := 3, fragment := "SELECT\n2" } := by
  intro text parser machine run only
  rcases
    loops_agree machine (FileSystem.ofScripts "scripts" [])
      .never "a.ksql" text 0 (fun _ _ _ => rfl) with
    ⟨hCalls, hCollect, _, hRun, report, hReport, _, hStop⟩
  have hStatements :
      (parseStatements text).statements = [only] := by
    decide +kernel
  have hTermination :
      (parseStatements text).termination =
        some
          (.incompleteStatement
            { startLine := 3, fragment := "SELECT\n2" }) := by
    decide +kernel
  rw [hStatements] at hCollect hRun
  rw [hTermination] at hStop
  refine
    ⟨?_, hCollect, hRun, report, hReport,
      Option.some.inj hStop⟩
  rcases
    hCalls [.next, .advance, .next]
      [.advance, .next, .advance] rfl 1 (by decide) with
    ⟨made, other, hMade, _, hOther, _, hAgrees⟩
  have hFailed :
      (parser.after 1).advance.1 =
        .failed
          { startLine := 3, fragment := "SELECT\n2" } := by
    decide +kernel
  refine ⟨made, other, hMade, hOther, hAgrees, ?_⟩
  rw [Parser.getElem?_makeAll] at hMade
  rw [← Option.some.inj hMade]
  exact congrArg ParserAnswer.outcome hFailed

end KsqlBatch
