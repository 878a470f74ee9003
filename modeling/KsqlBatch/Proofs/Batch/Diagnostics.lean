import KsqlBatch.Proofs.Batch.Buffers
import KsqlBatch.Proofs.Engine.Requests
import KsqlBatch.Proofs.Script.Logging

/-
  This file says which records a run writes when it stops
  early. The parser complains of a directive that cannot be
  read and of a statement that stays open, and the runner of
  a script that was not read to its end and of a statement
  that failed. There are no other complaints, and no stop
  without one.

  Key definitions include:
    * `Runner.keeping`
    * `Runner.notes`
    * `Runner.Kept`

  Key theorems include:
    * `Runner.kept_runStatements`
    * `Runner.kept_runBuffer`

  The main result is `stops_are_diagnosed`.
-/

------------------------------------------------------------
-- Runners that Keep Events
------------------------------------------------------------

namespace KsqlBatch

variable {σ : Type}

namespace Session

/- A session beside events that are kept. -/
def beside
    {α : Type}
    (session : Session σ α) :
    Session (σ × List Event) α :=
  fun (s, kept) =>
    match session s with
    | (a, s, events) => (a, (s, kept), events)

/- Keep an event. -/
def keep
    (event : Event) : Session (σ × List Event) Unit :=
  fun (s, kept) => ((), (s, kept ++ [event]), [])

end Session

/-
  A runner that keeps what it reports itself. What the
  executor notes is not kept.
-/
def Runner.keeping
    (executor : Executor (Session σ))
    (files : FileSystem (Session (σ × List Event)))
    (policy : ListingPolicy) :
    Runner (Session (σ × List Event)) where
  executor :=
    Executor.traced Session.keep
      { execute := fun statement properties =>
          (executor.execute statement properties).beside
        listStreams := executor.listStreams.beside }
  files
  report := Session.keep
  policy

/- The answers to calls in a state, errors or not. -/
def Executor.answers
    (executor : Executor (Session σ))
    (calls : List Call)
    (s : σ) : List (Except RunError Exchange) :=
  ((executor.answerAll calls).run s).1

/- The records that a runner writes in its own name. -/
def Runner.notes
    (events : List Event) : List LogRecord :=
  (events.filterMap Event.log?).filter fun record =>
    record.source = .batch

end KsqlBatch

------------------------------------------------------------
-- Runs of Single Steps
------------------------------------------------------------

namespace KsqlBatch

variable {σ : Type}

/- The first call goes first, the others start behind it. -/
theorem Executor.answers_cons
    (executor : Executor (Session σ))
    (call : Call)
    (calls : List Call)
    (s : σ) :
    executor.answers (call :: calls) s =
      ((executor.answer call).run s).1 ::
        executor.answers calls
          ((executor.answer call).run s).2.1 := by
  unfold answers
  rw [answerAll_cons, Session.run_bind, Session.run_bind]
  rfl

namespace Runner

variable (executor : Executor (Session σ))
variable (files : FileSystem (Session (σ × List Event)))
variable (policy : ListingPolicy)

theorem run_report_keeping
    (event : Event)
    (s : σ)
    (kept : List Event) :
    ((keeping executor files policy).report event).run
        (s, kept) =
      ((), (s, kept ++ [event]), []) := rfl

theorem run_note_keeping
    (level : LogLevel)
    (message : String)
    (s : σ)
    (kept : List Event) :
    ((keeping executor files policy).note level
        message).run (s, kept) =
      ((),
        (s,
          kept ++
            [.log { level, source := .batch, message }]),
        []) := rfl

theorem run_reportAll_keeping
    (log : List LogRecord)
    (s : σ)
    (kept : List Event) :
    ((keeping executor files policy).reportAll log).run
        (s, kept) =
      ((), (s, kept ++ log.map .log), []) := by
  induction log generalizing kept with
  | nil =>
      rw [List.map_nil, List.append_nil]
      rfl
  | cons record log ih =>
      unfold reportAll
      rw [Session.run_bind, run_report_keeping, ih,
        List.append_assoc]
      rfl

/- A call is kept, and then the executor answers it. -/
theorem run_execute_keeping
    (statement : Statement)
    (properties : PropertyMap)
    (s : σ)
    (kept : List Event) :
    let answer :=
      (executor.execute statement properties).run s
    ((keeping executor files policy).executor.execute
        statement properties).run (s, kept) =
      (answer.1,
        (answer.2.1,
          kept ++ [.execute statement properties]),
        answer.2.2) := rfl

end Runner

end KsqlBatch

------------------------------------------------------------
-- Notes of the Loop
------------------------------------------------------------

namespace KsqlBatch

namespace Runner

/- The record of a statement that has failed. -/
def failure
    (path : String)
    (statement : Statement)
    (error : RunError) : LogRecord where
  level := .error
  source := .batch
  message := describeFailure path statement error

/- The record of a file that was not read to its end. -/
def stop
    (report : FileReport) : LogRecord where
  level := .warn
  source := .batch
  message := describeStop report

@[simp]
theorem notes_append
    (events later : List Event) :
    notes (events ++ later) = notes events ++ notes later := by
  unfold notes
  rw [List.filterMap_append, List.filter_append]

/- What a parser logs is not the runner's. -/
theorem notes_log
    (parser : Parser) :
    notes (parser.advance.2.2.map .log) = [] := by
  unfold notes
  rw [List.filterMap_map, List.filter_eq_nil_iff]
  intro record hRecord
  rcases List.mem_filterMap.mp hRecord with
    ⟨logged, hLogged, hSame⟩
  have hSource := Parser.source_of_mem_log hLogged
  rw [Option.some.inj hSame] at hSource
  rw [hSource]
  decide

theorem filterMap_call?_log
    (log : List LogRecord) :
    (log.map Event.log).filterMap Event.call? = [] := by
  rw [List.filterMap_map, List.filterMap_eq_nil_iff]
  exact fun _ _ => rfl

/-
  What the runner keeps when it comes to a result: its notes
  are those of a verdict if all statements are executed, and
  else the failure of the last one.
-/
inductive Kept
    {σ α : Type}
    (executor : Executor (Session σ))
    (path : String)
    (verdict : α → List LogRecord)
    (s : σ)
    (events : List Event) : Except RunError α → Prop
| served
    (a : α)
    (hAnswers :
      ∀ answer ∈
          executor.answers (events.filterMap Event.call?) s,
        answer.isOk = true)
    (hNotes : notes events = verdict a) :
    Kept executor path verdict s events (.ok a)
| failed
    (earlier : List Call)
    (statement : Statement)
    (properties : PropertyMap)
    (served : List Exchange)
    (error : RunError)
    (hCalls :
      events.filterMap Event.call? =
        earlier ++ [.execute statement properties])
    (hAnswers :
      executor.answers (events.filterMap Event.call?) s =
        served.map .ok ++ [.error error])
    (hNotes :
      notes events = [failure path statement error]) :
    Kept executor path verdict s events (.error error)

variable {σ α : Type}
variable {executor : Executor (Session σ)}
variable {path : String}
variable {verdict : α → List LogRecord}
variable {s : σ}
variable {events front : List Event}
variable {result : Except RunError α}

/- What is neither a call nor a note may stand in front. -/
theorem Kept.behind
    (hFront : front.filterMap Event.call? = [])
    (hNotes : notes front = [])
    (hKept : Kept executor path verdict s events result) :
    Kept executor path verdict s (front ++ events)
      result := by
  have hCalls :
      (front ++ events).filterMap Event.call? =
        events.filterMap Event.call? := by
    rw [List.filterMap_append, hFront, List.nil_append]
  have hAll : notes (front ++ events) = notes events := by
    rw [notes_append, hNotes, List.nil_append]
  cases hKept with
  | served a hAnswers hVerdict =>
      refine .served a ?_ (hAll.trans hVerdict)
      rw [hCalls]
      exact hAnswers
  | failed earlier statement properties served error hLast
      hAnswers hOne =>
      refine
        .failed earlier statement properties served error
          (hCalls.trans hLast) ?_ (hAll.trans hOne)
      rw [hCalls]
      exact hAnswers

/- So may a statement that is executed. -/
theorem Kept.behind_served
    {statement : Statement}
    {properties : PropertyMap}
    {outcome : ExecutionResult}
    (hAnswer :
      ((executor.execute statement properties).run s).1 =
        .ok outcome)
    (hKept :
      Kept executor path verdict
        ((executor.execute statement properties).run s).2.1
        events result) :
    Kept executor path verdict s
      (.execute statement properties ::
        .result statement outcome :: events) result := by
  let call : Call := .execute statement properties
  have hServed :
      ((executor.answer call).run s).1 =
        .ok (.executed statement properties outcome) := by
    rw [executor.answer_execute, Session.run_bind, hAnswer]
    rfl
  have hState :
      ((executor.answer call).run s).2.1 =
        ((executor.execute statement
          properties).run s).2.1 := by
    rw [executor.answer_execute, Session.run_bind]
    rfl
  have hAnswers :
      executor.answers
          (call :: events.filterMap Event.call?) s =
        .ok (.executed statement properties outcome) ::
          executor.answers (events.filterMap Event.call?)
            ((executor.execute statement
              properties).run s).2.1 := by
    rw [executor.answers_cons, hServed, hState]
  cases hKept with
  | served a hOthers hNone =>
      refine .served a ?_ hNone
      intro answer hAnswer
      rcases List.mem_cons.mp (hAnswers ▸ hAnswer) with
        rfl | hLater
      · rfl
      · exact hOthers answer hLater
  | failed earlier last others exchanges error hLast hOthers
      hOne =>
      refine
        .failed (call :: earlier) last others
          (.executed statement properties outcome ::
            exchanges)
          error (congrArg (call :: ·) hLast) ?_ hOne
      rw [hOthers] at hAnswers
      exact hAnswers

/- A statement that fails is the last one. -/
theorem kept_of_failed
    {statement : Statement}
    {properties : PropertyMap}
    {error : RunError}
    (hAnswer :
      ((executor.execute statement properties).run s).1 =
        .error error) :
    Kept executor path verdict s
      [.execute statement properties,
        .log (failure path statement error)]
      (.error error) := by
  have hFailed :
      ((executor.answer
          (.execute statement properties)).run s).1 =
        .error error := by
    rw [executor.answer_execute, Session.run_bind, hAnswer]
    rfl
  refine
    .failed [] statement properties [] error rfl ?_ rfl
  have hAnswers :=
    executor.answers_cons (.execute statement properties) [] s
  rw [hFailed] at hAnswers
  exact hAnswers

/- Without a further statement the loop comes to its end. -/
theorem runStatements_of_not_found
    {m : Type → Type}
    [Monad m]
    {runner : Runner m}
    {parser : Parser}
    (hNone : parser.advance.1.statement? = none)
    (path : String)
    (executed fuel : Nat) :
    runner.runStatements path parser executed (fuel + 1) = (do
      runner.reportAll parser.advance.2.2
      return .ok (executed, parser.advance.2.1)) := by
  have hNext := parser.next_eq
  rw [runStatements]
  cases hOutcome : parser.advance.1 with
  | statement found =>
      rw [hOutcome] at hNone
      cases hNone
  | ended =>
      simp only [hOutcome] at hNext
      rw [hNext]
  | failed incomplete =>
      simp only [hOutcome] at hNext
      rw [hNext]

/- A further statement is executed, and the loop goes on. -/
theorem runStatements_of_found
    {m : Type → Type}
    [Monad m]
    {runner : Runner m}
    {parser : Parser}
    {found : Statement}
    (hFound : parser.advance.1.statement? = some found)
    (path : String)
    (executed fuel : Nat) :
    runner.runStatements path parser executed (fuel + 1) = (do
      runner.reportAll parser.advance.2.2
      match ← runner.executor.execute found
          parser.advance.2.1.properties with
      | .error error =>
          runner.note .error (describeFailure path found error)
          return .error error
      | .ok result =>
          runner.report (.result found result)
          runner.runStatements path parser.advance.2.1
            (executed + 1) fuel) := by
  have hNext := parser.next_eq
  rw [runStatements]
  cases hOutcome : parser.advance.1 with
  | statement other =>
      rw [hOutcome] at hFound
      cases hFound
      simp only [hOutcome] at hNext
      rewrite [hNext]
      rfl
  | ended =>
      rw [hOutcome] at hFound
      cases hFound
  | failed incomplete =>
      rw [hOutcome] at hFound
      cases hFound

/-
  The loop keeps its calls, and notes nothing else than the
  failure of a statement.
-/
theorem kept_runStatements
    (executor : Executor (Session σ))
    (files : FileSystem (Session (σ × List Event)))
    (policy : ListingPolicy)
    (path : String)
    (parser : Parser)
    (executed fuel : Nat)
    (s : σ)
    (kept : List Event) :
    let run :=
      ((keeping executor files policy).runStatements path
        parser executed fuel).run (s, kept)
    ∃ events,
      run.2.1.2 = kept ++ events ∧
      Kept executor path (fun _ => []) s events run.1 := by
  induction fuel generalizing parser executed s kept with
  | zero =>
      refine ⟨[], (List.append_nil kept).symm, ?_⟩
      exact .served _ (fun _ hNone => by cases hNone) rfl
  | succ fuel ih =>
      let log : List Event := parser.advance.2.2.map .log
      have hCalls : log.filterMap Event.call? = [] :=
        filterMap_call?_log _
      have hNotes : notes log = [] := notes_log parser
      cases hFound : parser.advance.1.statement? with
      | none =>
          rw [runStatements_of_not_found hFound,
            Session.run_bind, run_reportAll_keeping]
          refine ⟨log, rfl, ?_⟩
          refine .served _ ?_ hNotes
          rw [hCalls]
          exact fun _ hNone => by cases hNone
      | some found =>
          let properties := parser.advance.2.1.properties
          rw [runStatements_of_found hFound,
            Session.run_bind, run_reportAll_keeping,
            Session.run_bind, run_execute_keeping]
          cases hAnswer :
              ((executor.execute found properties).run
                s).1 with
          | error error =>
              dsimp only
              rw [Session.run_bind, run_note_keeping]
              refine
                ⟨log ++
                    [.execute found properties,
                      .log (failure path found error)],
                  ?_, ?_⟩
              · simp [log, failure, properties]
              · exact
                  (kept_of_failed hAnswer).behind hCalls
                    hNotes
          | ok outcome =>
              dsimp only
              rw [Session.run_bind, run_report_keeping]
              rcases
                ih parser.advance.2.1 (executed + 1)
                  ((executor.execute found
                    properties).run s).2.1
                  (kept ++ log ++
                    [.execute found properties] ++
                    [.result found outcome])
                with ⟨events, hEvents, hKept⟩
              refine
                ⟨log ++
                    (.execute found properties ::
                      .result found outcome :: events),
                  ?_, ?_⟩
              · refine hEvents.trans ?_
                simp
              · exact
                  (hKept.behind_served hAnswer).behind hCalls
                    hNotes

/- What the runner notes of a script it has come through. -/
def remarks
    (report : FileReport) : List LogRecord :=
  if report.isClean then [] else [stop report]

/- What is reported when the loop has come to its end. -/
def reportOf
    (path : String)
    (reached : Nat × Parser) : FileReport where
  path
  executed := reached.1
  termination := reached.2.termination.getD .exhausted

variable {files : FileSystem (Session (σ × List Event))}
variable {policy : ListingPolicy}
variable {text : String}
variable {final : σ}
variable {kept own : List Event}

/- Behind the loop the runner makes its remarks. -/
theorem run_runBuffer_of_ok
    {reached : Nat × Parser}
    (hLoop :
      ((keeping executor files policy).runStatements path
          (Parser.ofText text) 0
          (Parser.ofText text).callBound).run (s, []) =
        (.ok reached, (final, kept), own)) :
    ((keeping executor files policy).runBuffer path
        text).run (s, []) =
      (.ok (reportOf path reached),
        (final,
          kept ++
            (remarks (reportOf path reached)).map .log),
        own) := by
  unfold runBuffer remarks
  rw [Session.run_bind, hLoop]
  cases hClean : (reportOf path reached).isClean with
  | true =>
      unfold reportOf at hClean ⊢
      simp [hClean]
  | false =>
      unfold reportOf at hClean ⊢
      simp [hClean, run_note_keeping, stop]

/- A failure ends the loop and all that follows. -/
theorem run_runBuffer_of_error
    {error : RunError}
    (hLoop :
      ((keeping executor files policy).runStatements path
          (Parser.ofText text) 0
          (Parser.ofText text).callBound).run (s, []) =
        (.error error, (final, kept), own)) :
    ((keeping executor files policy).runBuffer path
        text).run (s, []) =
      (.error error, (final, kept), own) := by
  unfold runBuffer
  rw [Session.run_bind, hLoop]
  simp

/- The remarks are what is noted when they are made. -/
theorem notes_remarks
    (report : FileReport) :
    notes ((remarks report).map .log) = remarks report := by
  unfold remarks
  cases report.isClean <;> rfl

/-
  The runner says of a script that it was not read to its
  end, or which statement has failed.
-/
theorem kept_runBuffer
    (executor : Executor (Session σ))
    (files : FileSystem (Session (σ × List Event)))
    (policy : ListingPolicy)
    (path text : String)
    (s : σ) :
    let run :=
      ((keeping executor files policy).runBuffer path
        text).run (s, [])
    Kept executor path remarks s run.2.1.2 run.1 := by
  rcases
    kept_runStatements executor files policy path
      (Parser.ofText text) 0 (Parser.ofText text).callBound
      s []
    with ⟨events, hEvents, hKept⟩
  rw [List.nil_append] at hEvents
  rcases hLoop :
      ((keeping executor files policy).runStatements path
        (Parser.ofText text) 0
        (Parser.ofText text).callBound).run (s, []) with
    ⟨result, ⟨final, kept⟩, own⟩
  rw [hLoop] at hEvents hKept
  subst hEvents
  cases hKept with
  | failed earlier statement properties served error hCalls
      hAnswers hNotes =>
      rw [run_runBuffer_of_error hLoop]
      exact
        .failed earlier statement properties served error
          hCalls hAnswers hNotes
  | served reached hAnswers hNotes =>
      rw [run_runBuffer_of_ok hLoop]
      dsimp only at hAnswers hNotes ⊢
      refine .served _ ?_ ?_
      · rw [List.filterMap_append, filterMap_call?_log,
          List.append_nil]
        exact hAnswers
      · rw [notes_append, hNotes, notes_remarks,
          List.nil_append]

/- The report says why reading the script stopped. -/
theorem termination_runBuffer
    {report : FileReport}
    (hReport :
      (((keeping executor files policy).runBuffer path
        text).run (s, [])).1 = .ok report) :
    report.termination =
      (Script.contentsOf text).termination := by
  rcases hLoop :
      ((keeping executor files policy).runStatements path
        (Parser.ofText text) 0
        (Parser.ofText text).callBound).run (s, []) with
    ⟨result, ⟨final, kept⟩, own⟩
  cases result with
  | error error =>
      rw [run_runBuffer_of_error hLoop] at hReport
      cases hReport
  | ok reached =>
      rw [run_runBuffer_of_ok hLoop] at hReport
      have hTermination :=
        (Parser.waits_ofText
          text).termination_of_runStatements
            (Parser.length_lt_callBound_ofText text)
            (congrArg Prod.fst hLoop)
      rw [← Except.ok.inj hReport]
      unfold reportOf
      rw [hTermination]
      rfl

end Runner

end KsqlBatch

------------------------------------------------------------
-- Diagnoses
------------------------------------------------------------

namespace KsqlBatch

namespace Runner

variable {σ : Type}
variable {executor : Executor (Session σ)}
variable {path : String}
variable {s : σ}
variable {events : List Event}
variable {result : Except RunError FileReport}

/- There is one note at most. -/
theorem Kept.length_notes_le
    (hKept : Kept executor path remarks s events result) :
    (notes events).length ≤ 1 := by
  cases hKept with
  | served report hAnswers hNotes =>
      rw [hNotes]
      unfold remarks
      cases report.isClean <;> simp
  | failed earlier statement properties served error hCalls
      hAnswers hNotes =>
      rw [hNotes]
      exact Nat.le_refl 1

/- The runner warns of a script just if it stops early. -/
theorem Kept.warns_iff
    (hKept : Kept executor path remarks s events result) :
    (∃ record ∈ notes events, record.level = .warn) ↔
      ∃ report,
        result = .ok report ∧ report.isClean = false := by
  cases hKept with
  | served report hAnswers hNotes =>
      rw [hNotes]
      unfold remarks
      cases hClean : report.isClean with
      | true => simp [hClean]
      | false => simp [hClean, stop]
  | failed earlier statement properties served error hCalls
      hAnswers hNotes =>
      rw [hNotes]
      simp [failure]

/- It reports an error just if a statement fails. -/
theorem Kept.reports_iff
    (hKept : Kept executor path remarks s events result) :
    (∃ record ∈ notes events, record.level = .error) ↔
      ∃ answer ∈
          executor.answers (events.filterMap Event.call?) s,
        answer.isOk = false := by
  cases hKept with
  | served report hAnswers hNotes =>
      rw [hNotes]
      unfold remarks
      refine iff_of_false ?_ ?_
      · cases report.isClean <;> simp [stop]
      · rintro ⟨answer, hAnswer, hFailed⟩
        rw [hAnswers answer hAnswer] at hFailed
        cases hFailed
  | failed earlier statement properties served error hCalls
      hAnswers hNotes =>
      rw [hNotes, hAnswers]
      refine iff_of_true ?_ ?_
      · exact ⟨_, List.mem_singleton_self _, rfl⟩
      · exact
          ⟨.error error,
            List.mem_append_right _
              (List.mem_singleton_self _),
            rfl⟩

/- What is noted goes with the result. -/
theorem Kept.notes_of_ok
    {report : FileReport}
    (hKept :
      Kept executor path remarks s events (.ok report)) :
    notes events = remarks report := by
  cases hKept with
  | served report hAnswers hNotes => exact hNotes

theorem Kept.notes_of_error
    {error : RunError}
    (hKept :
      Kept executor path remarks s events (.error error)) :
    ∃ statement properties,
      (events.filterMap Event.call?).getLast? =
          some (.execute statement properties) ∧
        notes events = [failure path statement error] := by
  cases hKept with
  | failed earlier statement properties served error hCalls
      hAnswers hNotes =>
      refine ⟨statement, properties, ?_, hNotes⟩
      rw [hCalls]
      exact List.getLast?_concat

end Runner

/-
  However a parser is driven until it is done, it logs of each
  line that continues a statement that it does, and of each
  directive outside of statements what it sets. Then it warns
  of a directive that cannot be read, or reports the error
  that a statement stays open, and the last record says that
  it has finished. Calls behind that log nothing. A loop over
  so many calls as there are lines and one more is enough.

  A runner that is given the script notes at most one thing,
  whatever the executor does. It warns just if it reports that
  the script was not read to its end, and reports an error
  just if a statement has failed, which is the last one.
-/
theorem stops_are_diagnosed
    (text : String) :
    let parser := Parser.ofText text
    let contents := Script.contentsOf text
    let lines := Script.trimmedLines text
    let before :=
      contents.recordsFrom lines.length 1 lines ++
        contents.termination.complaints
    let logged :=
      before ++ [Parser.finished contents.termination]
    (∀ calls : List ParserCall,
      (parser.after calls.length).state = .done →
      (parser.makeAll calls).flatMap MadeCall.log = logged ∧
      ∀ later,
        ∀ made ∈ (parser.after calls.length).makeAll later,
          made.log = []) ∧
    (∀ calls : List ParserCall,
      lines.length < calls.length →
      (parser.after calls.length).state = .done) ∧
    (parseStatements text).log = logged ∧
    (∀ termination, Parser.finished termination ∉ before) ∧
    logged.filter (fun record => record.level = .warn) =
      (match contents.termination with
        | .malformedDirective _ line =>
            [Parser.unmatched line]
        | _ => []) ∧
    logged.filter (fun record => record.level = .error) =
      (match contents.termination with
        | .incompleteStatement incomplete =>
            [Parser.cutOff incomplete]
        | _ => []) ∧
    logged.filter (fun record => record.level = .trace) =
      ((lines.zipIdx 1).filter fun (_, number) =>
        contents.Continues number).map
          (fun (line, _) => Parser.continuation line) ∧
    ∀ (σ : Type) (executor : Executor (Session σ))
      (files : FileSystem (Session (σ × List Event)))
      (policy : ListingPolicy) (path : String) (s : σ),
      let run :=
        ((Runner.keeping executor files policy).runBuffer path
          text).run (s, [])
      let calls := run.2.1.2.filterMap Event.call?
      let answers := executor.answers calls s
      let noted := Runner.notes run.2.1.2
      noted.length ≤ 1 ∧
      ((∃ record ∈ noted, record.level = .warn) ↔
        ∃ report,
          run.1 = .ok report ∧ report.isClean = false) ∧
      ((∃ record ∈ noted, record.level = .error) ↔
        ∃ answer ∈ answers, answer.isOk = false) ∧
      (∀ report,
        run.1 = .ok report →
        report.termination = contents.termination ∧
        noted = Runner.remarks report) ∧
      ∀ error,
        run.1 = .error error →
        ∃ statement properties,
          calls.getLast? =
              some (.execute statement properties) ∧
            noted =
              [Runner.failure path statement error] := by
  intro parser contents lines before logged
  have hLogged : Script.recordsOf text = logged := by
    rw [Script.recordsOf_eq]
    exact (List.append_assoc _ _ _).symm
  refine ⟨?_, ?_, ?_, ?_, ?_, ?_, ?_, ?_⟩
  · intro calls hDone
    have hDue := parser.due_eq_of_makeAll calls
    rw [Parser.due_of_done
        ((Parser.phase_eq_done_iff _).mpr hDone),
      List.append_nil, Parser.due_ofText, hLogged] at hDue
    refine ⟨hDue.symm, ?_⟩
    intro later made hMade
    exact Parser.log_of_mem_makeAll_of_done hDone hMade
  · intro calls hCalls
    have hWaits := Parser.waits_ofText text
    exact (hWaits.stopped_after hCalls).state_eq
  · rw [log_parseStatements, hLogged]
  · intro termination
    exact Script.finished_not_mem termination text
  · rw [← hLogged]
    exact Script.filter_warn_recordsOf text
  · rw [← hLogged]
    exact Script.filter_error_recordsOf text
  · rw [← hLogged]
    exact Script.filter_trace_recordsOf text
  · intro σ executor files policy path s run calls answers
      noted
    have hKept :
        Runner.Kept executor path Runner.remarks s run.2.1.2
          run.1 :=
      Runner.kept_runBuffer executor files policy path text s
    refine ⟨hKept.length_notes_le, hKept.warns_iff,
      hKept.reports_iff, ?_, ?_⟩
    · intro report hReport
      rw [hReport] at hKept
      exact
        ⟨Runner.termination_runBuffer hReport,
          hKept.notes_of_ok⟩
    · intro error hError
      rw [hError] at hKept
      exact hKept.notes_of_error

/-
  A script with a directive, a statement over two lines, and
  a directive that cannot be read, which is never got to if
  the statement is rejected.
-/
theorem stops_are_diagnosed_of_malformed_script :
    let text :=
      "SET 'k' = 'v';\nSELECT\n1;\nSET x\nSELECT 2;"
    let parser := Parser.ofText text
    let malformed : Termination :=
      .malformedDirective 4 "SET x"
    let calls : List ParserCall := [.next, .advance]
    let willing : Scripted :=
      { streams := []
        rejections := []
        failingListing := none }
    let unwilling : Scripted :=
      { willing with
        rejections :=
          [{ text := "SELECT\n1;"
             status := 400
             message := "no" }] }
    let noted (script : Scripted) :=
      let runner :=
        Runner.keeping script.executor
          (FileSystem.ofScripts "scripts" []).lift .never
      Runner.notes
        ((runner.runBuffer "a.ksql" text).run (0, [])).2.1.2
    (parser.after calls.length).state = .done ∧
      (parser.makeAll calls).flatMap MadeCall.log =
        [Parser.setting { key := "k", value := "v" },
          Parser.continuation "1;", Parser.unmatched "SET x",
          Parser.finished malformed] ∧
      (∃ record ∈ noted willing, record.level = .warn) ∧
      ∃ record ∈ noted unwilling, record.level = .error := by
  intro text parser malformed calls willing unwilling noted
  rcases stops_are_diagnosed text with
    ⟨hCalls, _, _, _, _, _, _, hRuns⟩
  have hDone :
      (parser.after calls.length).state = .done := by
    decide +kernel
  refine ⟨hDone, ?_, ?_, ?_⟩
  · rw [(hCalls calls hDone).1]
    decide +kernel
  · apply
      (hRuns Nat willing.executor _ .never "a.ksql"
        0).2.1.mpr
    refine
      ⟨{ path := "a.ksql"
         executed := 1
         termination := malformed }, ?_, rfl⟩
    decide +kernel
  · apply
      (hRuns Nat unwilling.executor _ .never "a.ksql"
        0).2.2.1.mpr
    decide +kernel

end KsqlBatch
