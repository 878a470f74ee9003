import KsqlBatch.Batch.Runner
import KsqlBatch.Proofs.Engine.Dispatch
import KsqlBatch.Proofs.Script.Calls

/-
  This file plans the calls of a batch from what the disk
  holds, and shows that running the batch amounts to
  dispatching its plan, whatever the executor does.

  Key definitions include:
    * `Plan`
    * `planFiles`
    * `planInput`
    * `Plan.batchCalls`
    * `Runner.traced`

  Key theorems include:
    * `Runner.runStatements_appearsAs`
    * `Runner.runFiles_appearsAs`
    * `Runner.run_appearsAs`
-/

------------------------------------------------------------
-- Plans
------------------------------------------------------------

namespace KsqlBatch

/-
  The calls that are made as long as they succeed, and what
  comes of it in the end.
-/
structure Plan (α : Type) where
  calls : List Call
  ending : Except RunError α

/- The calls for a script. -/
def scriptCalls
    (content : String) : List Call :=
  (parseStatements content).statements.map Call.ofParsed

/- What is reported of a script whose calls succeed. -/
def scriptReport
    (path content : String) : FileReport where
  path
  executed := (parseStatements content).statements.length
  termination :=
    (parseStatements content).termination.getD .exhausted

/- Reading a script says which file is not read, and why. -/
theorem BatchInput.readScript_disk
    (disk : FileSystem Id)
    (path : String) :
    BatchInput.readScript disk path =
      match (disk.readText path : Except FileFault String)
        with
      | .error fault => Except.error (.file path fault)
      | .ok text => Except.ok text := by
  unfold BatchInput.readScript
  cases (disk.readText path : Except FileFault String) with
  | error fault => rfl
  | ok text => rfl

/- A text that is read is the text of a script. -/
theorem readScript_of_readText
    {disk : FileSystem Id}
    {path content : String}
    (hRead : Id.run (disk.readText path) = .ok content) :
    Id.run (BatchInput.readScript disk path) =
      .ok content := by
  simp only [Id.run] at hRead
  rw [BatchInput.readScript_disk, hRead]
  rfl

/- The plan for files, up to the first that is not read. -/
def planFiles
    (disk : FileSystem Id) :
    List String → Plan (List FileReport)
| [] => { calls := [], ending := .ok [] }
| path :: paths =>
    match BatchInput.readScript disk path with
    | .error error => { calls := [], ending := .error error }
    | .ok content =>
        let plan := planFiles disk paths
        { calls := scriptCalls content ++ plan.calls
          ending :=
            plan.ending.map (scriptReport path content :: ·) }

/- Behind a file that is not read nothing is planned. -/
theorem planFiles_cons_of_error
    {disk : FileSystem Id}
    {path : String}
    {error : RunError}
    (hRead :
      Id.run (BatchInput.readScript disk path) =
        .error error)
    (paths : List String) :
    planFiles disk (path :: paths) =
      { calls := [], ending := .error error } := by
  rw [planFiles]
  simp only [Id.run] at hRead
  rw [hRead]

/- The calls for a file that is read come first. -/
theorem planFiles_cons_of_ok
    {disk : FileSystem Id}
    {path content : String}
    (hRead :
      Id.run (BatchInput.readScript disk path) =
        .ok content)
    (paths : List String) :
    planFiles disk (path :: paths) =
      { calls :=
          scriptCalls content ++ (planFiles disk paths).calls
        ending :=
          (planFiles disk paths).ending.map
            (scriptReport path content :: ·) } := by
  rw [planFiles]
  simp only [Id.run] at hRead
  rw [hRead]

/- The plan for the files of an input. -/
def planInput
    (disk : FileSystem Id)
    (input : BatchInput) : Plan (List FileReport) :=
  match input.resolve disk with
  | .error error => { calls := [], ending := .error error }
  | .ok paths => planFiles disk paths

/- A file that is not read fails the plan with its path. -/
theorem planFiles_cons_of_fault
    {disk : FileSystem Id}
    {path : String}
    {fault : FileFault}
    (hRead : Id.run (disk.readText path) = .error fault)
    (paths : List String) :
    planFiles disk (path :: paths) =
      { calls := [], ending := .error (.file path fault) } := by
  refine planFiles_cons_of_error ?_ paths
  simp only [Id.run] at hRead
  rw [BatchInput.readScript_disk, hRead]
  rfl

/-
  Files that are read come first, with the calls for each of
  them in order, and then the plan for the others.
-/
theorem planFiles_append
    {disk : FileSystem Id}
    {paths contents : List String}
    (hRead :
      paths.map (fun path => Id.run (disk.readText path)) =
        contents.map .ok)
    (later : List String) :
    planFiles disk (paths ++ later) =
      { calls :=
          contents.flatMap scriptCalls ++
            (planFiles disk later).calls
        ending :=
          (planFiles disk later).ending.map
            (List.zipWith scriptReport paths contents ++
              ·) } := by
  induction paths generalizing contents with
  | nil =>
      cases contents with
      | nil =>
          rw [List.nil_append]
          rcases planFiles disk later with ⟨calls, ending⟩
          cases ending <;> rfl
      | cons content contents => simp at hRead
  | cons path paths ih =>
      cases contents with
      | nil => simp at hRead
      | cons content contents =>
          simp only [List.map_cons, List.cons.injEq] at hRead
          rw [List.cons_append,
            planFiles_cons_of_ok
              (readScript_of_readText hRead.1),
            ih hRead.2]
          cases (planFiles disk later).ending <;>
            simp [Except.map]

/- For an input that is not resolved nothing is planned. -/
theorem planInput_of_error
    {disk : FileSystem Id}
    {input : BatchInput}
    {error : RunError}
    (hResolve : Id.run (input.resolve disk) = .error error) :
    planInput disk input =
      { calls := [], ending := .error error } := by
  simp only [Id.run] at hResolve
  unfold planInput
  rw [hResolve]

/- An input is the files it is resolved to. -/
theorem planInput_of_ok
    {disk : FileSystem Id}
    {input : BatchInput}
    {paths : List String}
    (hResolve : Id.run (input.resolve disk) = .ok paths) :
    planInput disk input = planFiles disk paths := by
  simp only [Id.run] at hResolve
  unfold planInput
  rw [hResolve]

/- The calls that list the streams if that is due. -/
def listingCalls
    (due : Bool) : List Call :=
  if due then [.listStreams] else []

namespace ListingPolicy

/- The calls before the first file. -/
def callsBefore
    (policy : ListingPolicy) : List Call :=
  listingCalls policy.includesBefore

/- The calls after the last file. -/
def callsAfter
    (policy : ListingPolicy) : List Call :=
  listingCalls policy.includesAfter

theorem length_callsBefore_le
    (policy : ListingPolicy) :
    policy.callsBefore.length ≤ 1 := by
  cases policy <;> decide

end ListingPolicy

namespace Plan

/- All calls of a batch: the last ones need all files. -/
def batchCalls
    (plan : Plan (List FileReport))
    (policy : ListingPolicy) : List Call :=
  policy.callsBefore ++ plan.calls ++
    match plan.ending with
    | .error _ => []
    | .ok _ => policy.callsAfter

/- What is reported of a batch whose calls succeed. -/
def conclude
    (plan : Plan (List FileReport))
    (policy : ListingPolicy)
    (exchanges : List Exchange) :
    Except RunError BatchReport :=
  plan.ending.map fun files =>
    { files
      streamsBefore :=
        (exchanges.take
          policy.callsBefore.length).flatMap
            Exchange.streams
      streamsAfter :=
        (exchanges.drop
          (policy.callsBefore ++ plan.calls).length).flatMap
            Exchange.streams }

end Plan

end KsqlBatch

------------------------------------------------------------
-- Runners over a Disk
------------------------------------------------------------

namespace KsqlBatch

/- A disk that a run does not change. -/
def FileSystem.lift
    {m : Type → Type}
    [Monad m]
    (disk : FileSystem Id) : FileSystem m where
  readBytes path := pure (disk.readBytes path)
  isRegularFile path := pure (disk.isRegularFile path)
  listDirectory path := pure (disk.listDirectory path)

/- The runner over an executor whose calls are reported. -/
def Runner.traced
    {σ : Type}
    (executor : Executor (Session σ))
    (disk : FileSystem Id)
    (policy : ListingPolicy) : Runner (Session σ) where
  executor := executor.traced Session.report
  files := disk.lift
  report := Session.report
  policy

namespace Runner

variable {σ : Type}
variable (executor : Executor (Session σ))
variable (disk : FileSystem Id)
variable (policy : ListingPolicy)

@[simp]
theorem traced_report :
    (traced executor disk policy).report = Session.report :=
  rfl

@[simp]
theorem traced_files :
    (traced executor disk policy).files = disk.lift :=
  rfl

end Runner

/- The text of a file is the one on the disk. -/
theorem FileSystem.readText_lift
    {m : Type → Type}
    [Monad m] [LawfulMonad m]
    (disk : FileSystem Id)
    (path : String) :
    (disk.lift : FileSystem m).readText path =
      pure (disk.readText path) := by
  simp only [readText, lift, pure_bind]
  cases (disk.readBytes path : Except FileFault ByteArray)
    with
  | error fault => rfl
  | ok bytes => rfl

namespace BatchInput

variable {m : Type → Type}
variable [Monad m] [LawfulMonad m]

/- The files of an input are those on the disk. -/
theorem resolve_lift
    (disk : FileSystem Id)
    (input : BatchInput) :
    input.resolve (disk.lift : FileSystem m) =
      pure (input.resolve disk) := by
  cases input with
  | file path => rfl
  | directory path =>
      simp only [resolve, FileSystem.lift, pure_bind]
      cases (disk.listDirectory path : Except ListingFault _)
        with
      | error fault => rfl
      | ok entries => rfl

/- The text of a script is the one on the disk. -/
theorem readScript_lift
    (disk : FileSystem Id)
    (path : String) :
    readScript (disk.lift : FileSystem m) path =
      pure (readScript disk path) := by
  rw [readScript_disk]
  unfold readScript
  rw [FileSystem.readText_lift, pure_bind]
  cases (disk.readText path : Except FileFault String) with
  | error fault => rfl
  | ok text => rfl

end BatchInput

end KsqlBatch

------------------------------------------------------------
-- Files
------------------------------------------------------------

namespace KsqlBatch

namespace Runner

open Session

variable {σ : Type}
variable (executor : Executor (Session σ))
variable (disk : FileSystem Id)
variable (policy : ListingPolicy)

/- Log records are not seen. -/
theorem outward_note
    (level : LogLevel)
    (message : String) :
    ((traced executor disk policy).note level
      message).outward = pure () :=
  outward_report_of_not_isOutward rfl

theorem outward_reportAll
    (log : List LogRecord) :
    ((traced executor disk policy).reportAll log).outward =
      pure () := by
  induction log with
  | nil => exact outward_pure ()
  | cons record log ih =>
      unfold reportAll
      rw [outward_bind, ih]
      have hRecord :
          (((traced executor disk policy).report
            (.log record)).outward : Session σ Unit) =
            pure () :=
        outward_report_of_not_isOutward rfl
      rw [hRecord, pure_bind]

/- A statement is executed as it is called for. -/
theorem execute_appearsAs
    {α : Type}
    {statement : Statement}
    {properties : PropertyMap}
    {note : RunError → Session σ Unit}
    {rest : Session σ (Except RunError α)}
    {attempt : Attempt σ α}
    (hNote : ∀ error, (note error).outward = pure ())
    (hRest : rest.AppearsAs attempt) :
    AppearsAs
      ((traced executor disk policy).executor.execute
          statement properties >>= fun answer =>
        match answer with
        | .error error => do
            note error
            return .error error
        | .ok result => do
            (traced executor disk policy).report
              (.result statement result)
            rest)
      (executor.ask (.execute statement properties) >>=
        fun _ => attempt) := by
  refine Executor.appearsAs_ask_bind
    (executor.answer_execute statement properties) ?_ ?_
  · intro error
    simp only [outward_bind, outward_pure, hNote, pure_bind]
  · intro result
    simp only [outward_bind, traced_report]
    rw [outward_report_of_isOutward rfl, hRest]
    rfl

/- Streams are listed as it is called for. -/
theorem listStreams_appearsAs :
    (traced executor disk policy).listStreams.AppearsAs
      (executor.ask .listStreams >>= fun exchange =>
        pure exchange.streams) := by
  have hNote := outward_note executor disk policy
  unfold listStreams
  refine Executor.appearsAs_ask_bind
    executor.answer_listStreams ?_ ?_
  · intro error
    exact outward_pure (Except.error error)
  · intro streams
    simp only [outward_bind, outward_pure, hNote, pure_bind,
      traced_report]
    rw [outward_report_of_isOutward rfl]
    rfl

/-
  From a parser that waits in front of some lines, the
  statements that the lines contain are executed. The parser
  it comes to an end with does not depend on the executor.
-/
theorem runStatements_appearsAs
    {parser : Parser}
    {number : Nat}
    {properties : PropertyMap}
    {lines : List String}
    {fuel : Nat}
    (hWaits : parser.Waits number properties lines)
    (hFuel : lines.length < fuel)
    (path : String)
    (executed : Nat) :
    ∃ reached : Parser,
      reached.termination =
          some
            (Script.contents number properties
              lines).termination ∧
        ((traced executor disk policy).runStatements path
            parser executed fuel).AppearsAs
          (executor.dispatch
              ((Script.contents number properties
                lines).statements.map Call.ofParsed) >>=
            fun _ =>
              pure
                (executed +
                  (Script.contents number properties
                    lines).statements.length,
                  reached)) := by
  -- Each call of the parser leaves fewer lines to read.
  induction fuel generalizing parser number properties lines
    executed with
  | zero => omega
  | succ fuel ih =>
      have hAdvance := hWaits.advance
      have hNext := parser.next_eq
      have hLog :=
        outward_reportAll executor disk policy
          parser.advance.2.2
      generalize parser.advance.1 = outcome
        at hAdvance hNext
      generalize parser.advance.2.1 = reached
        at hAdvance hNext
      unfold runStatements
      cases hAdvance with
      | statement parsed next later hReached hCurrent hShorter
          hTotal hContents =>
          simp only [hReached.properties_eq] at hNext
          rcases ih hReached (by omega) (executed + 1) with
            ⟨last, hTermination, hRest⟩
          refine ⟨last, ?_, ?_⟩
          · rw [hContents]
            exact hTermination
          · rw [hNext, hContents]
            refine AppearsAs.behind hLog ?_
            simp only [Script.Contents.statements_prepend,
              List.map_cons, Executor.dispatch_cons,
              bind_assoc, pure_bind]
            refine execute_appearsAs executor disk policy ?_ ?_
            · intro error
              exact outward_note executor disk policy _ _
            · rw [List.length_cons, ← Nat.add_assoc,
                Nat.add_right_comm executed]
              exact hRest
      | stop hStopped hEmpty =>
          refine ⟨reached, hStopped.termination_eq, ?_⟩
          rw [hEmpty]
          cases hOutcome :
              (Script.contents number properties
                lines).termination.outcome with
          | statement found =>
              exact absurd hOutcome
                (Termination.outcome_ne_statement _ found)
          | ended =>
              simp only [hOutcome] at hNext
              rw [hNext]
              exact AppearsAs.behind hLog
                (AppearsAs.pure_ok (executed, reached))
          | failed incomplete =>
              simp only [hOutcome] at hNext
              rw [hNext]
              exact AppearsAs.behind hLog
                (AppearsAs.pure_ok (executed, reached))

/- Nothing is seen of the note that a file stopped early. -/
theorem finish_appearsAs
    (report : FileReport) :
    AppearsAs
      (do
        if ! report.isClean then
          (traced executor disk policy).note .warn
            (describeStop report)
        return .ok report)
      (pure report : Attempt σ FileReport) := by
  cases hClean : report.isClean with
  | false =>
      exact AppearsAs.behind (outward_note _ _ _ _ _)
        (AppearsAs.pure_ok report)
  | true => exact AppearsAs.pure_ok report

/- A script that has been read is run to its end. -/
theorem runBuffer_appearsAs
    (path content : String) :
    ((traced executor disk policy).runBuffer path
        content).AppearsAs
      (executor.dispatch (scriptCalls content) >>= fun _ =>
        pure (scriptReport path content)) := by
  have hWaits := Parser.waits_ofText content
  have hBound := Parser.length_lt_callBound_ofText content
  rcases runStatements_appearsAs executor disk policy hWaits
    hBound path 0 with ⟨reached, hTermination, hRun⟩
  have hReport :
      scriptReport path content =
        { path
          executed :=
            0 + (Script.contentsOf content).statements.length
          termination :=
            reached.termination.getD .exhausted } := by
    unfold scriptReport
    rw [statements_parseStatements,
      termination_parseStatements, hTermination, Nat.zero_add]
    rfl
  have hAttempt :
      (executor.dispatch (scriptCalls content) >>= fun _ =>
          pure (scriptReport path content)) =
        (executor.dispatch
            ((Script.contentsOf content).statements.map
              Call.ofParsed) >>= fun _ =>
          pure
            (0 + (Script.contentsOf
              content).statements.length, reached)) >>=
          fun ending =>
            pure
              { path
                executed := ending.1
                termination :=
                  ending.2.termination.getD .exhausted } := by
    unfold scriptCalls
    rw [statements_parseStatements, hReport]
    simp only [bind_assoc, pure_bind]
  rw [hAttempt]
  refine AppearsAs.bind hRun ?_ ?_
  · intro error
    rfl
  · intro ending
    exact finish_appearsAs executor disk policy _

/- A file is read and run. -/
theorem runFile_appearsAs
    (path : String) :
    ((traced executor disk policy).runFile path).AppearsAs
      (ExceptT.mk
          (pure (Id.run (BatchInput.readScript disk path))) >>=
        fun content =>
          executor.dispatch (scriptCalls content) >>= fun _ =>
            pure (scriptReport path content)) := by
  unfold runFile
  refine AppearsAs.behind (outward_note _ _ _ _ _) ?_
  refine AppearsAs.bind ?_ ?_ ?_
  · unfold AppearsAs
    rw [traced_files, BatchInput.readScript_lift]
    exact outward_pure _
  · intro error
    rfl
  · intro content
    exact runBuffer_appearsAs executor disk policy path
      content

/- Files are run as they are planned. -/
theorem runFiles_appearsAs
    (paths : List String) :
    ((traced executor disk policy).runFiles paths).AppearsAs
      (executor.dispatch (planFiles disk paths).calls >>=
        fun _ =>
          ExceptT.mk
            (pure (planFiles disk paths).ending)) := by
  induction paths with
  | nil =>
      unfold runFiles planFiles
      rw [Executor.dispatch_nil, pure_bind]
      exact AppearsAs.pure_except (.ok [])
  | cons path paths ih =>
      have hAttempt :
          (executor.dispatch
              (planFiles disk (path :: paths)).calls >>=
            fun _ =>
              ExceptT.mk
                (pure
                  (planFiles disk (path :: paths)).ending)) =
          (ExceptT.mk
              (pure
                (Id.run (BatchInput.readScript disk path))) >>=
            fun content =>
              executor.dispatch (scriptCalls content) >>=
                fun _ => pure (scriptReport path content)) >>=
          fun report =>
            (executor.dispatch (planFiles disk paths).calls >>=
              fun _ =>
                ExceptT.mk
                  (pure (planFiles disk paths).ending)) >>=
            fun reports => pure (report :: reports) := by
        cases hRead :
            Id.run (BatchInput.readScript disk path) with
        | error error =>
            rw [planFiles_cons_of_error hRead]
            simp
        | ok content =>
            rw [planFiles_cons_of_ok hRead]
            simp only [Executor.dispatch_append, bind_assoc,
              pure_bind, Attempt.mk_ok_bind]
            cases (planFiles disk paths).ending with
            | error error =>
                simp only [Except.map, Attempt.mk_error_bind]
            | ok reports =>
                simp only [Except.map, Attempt.mk_ok_bind]
                rfl
      rw [hAttempt]
      unfold runFiles
      refine AppearsAs.bind
        (runFile_appearsAs executor disk policy path) ?_ ?_
      · intro error
        rfl
      · intro report
        refine AppearsAs.bind ih ?_ ?_
        · intro error
          rfl
        · intro reports
          exact AppearsAs.pure_ok (report :: reports)

end Runner

end KsqlBatch

------------------------------------------------------------
-- Batches
------------------------------------------------------------

namespace KsqlBatch

namespace Runner

open Session

variable {σ : Type}
variable (executor : Executor (Session σ))
variable (disk : FileSystem Id)
variable (policy : ListingPolicy)

/- Streams are listed where this is due. -/
theorem listIf_appearsAs
    (due : Bool) :
    ((traced executor disk policy).listIf due).AppearsAs
      (executor.dispatch (listingCalls due) >>=
        fun exchanges =>
          pure (exchanges.flatMap Exchange.streams)) := by
  cases due with
  | false => exact AppearsAs.pure_ok []
  | true =>
      have hAttempt :
          (executor.dispatch (listingCalls true) >>=
              fun exchanges =>
                pure (exchanges.flatMap Exchange.streams)) =
            executor.ask .listStreams >>= fun exchange =>
              pure exchange.streams := by
        simp [listingCalls, Executor.dispatch_cons]
      rw [hAttempt]
      exact listStreams_appearsAs executor disk policy

/- The files of an input are run as they are planned. -/
theorem runInput_appearsAs
    (input : BatchInput) :
    ((traced executor disk policy).runInput input).AppearsAs
      (executor.dispatch (planInput disk input).calls >>=
        fun _ =>
          ExceptT.mk
            (pure (planInput disk input).ending)) := by
  unfold runInput
  rw [traced_files, BatchInput.resolve_lift, pure_bind]
  cases hResolve : Id.run (input.resolve disk) with
  | error error =>
      rw [planInput_of_error hResolve]
      simp only [Id.run] at hResolve
      rw [hResolve, Executor.dispatch_nil, pure_bind]
      exact AppearsAs.pure_except (.error error)
  | ok paths =>
      rw [planInput_of_ok hResolve]
      simp only [Id.run] at hResolve
      rw [hResolve]
      exact runFiles_appearsAs executor disk policy paths

/-
  The parts of a batch follow one another: the listing, the
  files, and the other listing if all files were run.
-/
theorem dispatch_batchCalls
    (plan : Plan (List FileReport)) :
    (executor.dispatch (plan.batchCalls policy) >>=
        fun exchanges =>
          ExceptT.mk
            (pure (plan.conclude policy exchanges))) =
      (executor.dispatch policy.callsBefore >>=
          fun exchanges =>
            pure (exchanges.flatMap Exchange.streams)) >>=
        fun streamsBefore =>
          (executor.dispatch plan.calls >>= fun _ =>
            ExceptT.mk (pure plan.ending)) >>=
          fun files =>
            (executor.dispatch policy.callsAfter >>=
              fun exchanges =>
                pure (exchanges.flatMap Exchange.streams)) >>=
            fun streamsAfter =>
              pure { files, streamsBefore, streamsAfter } := by
  unfold Plan.batchCalls Plan.conclude
  -- The report takes the listings from their places among
  -- all exchanges, so it matters how many there are.
  simp only [Executor.dispatch_append, bind_assoc, pure_bind]
  refine Executor.dispatch_bind_congr ?_
  intro listed hListed
  refine Executor.dispatch_bind_congr ?_
  intro exchanges hExchanges
  rw [← hListed, ← hExchanges]
  cases plan.ending with
  | error error =>
      simp only [Except.map, Attempt.mk_error_bind,
        Executor.dispatch_nil, pure_bind]
  | ok files =>
      simp only [Except.map, Attempt.mk_ok_bind]
      refine bind_congr ?_
      intro relisted
      have hBefore :
          (listed ++ exchanges ++ relisted).take
            (listed.map Exchange.call).length = listed := by
        rw [List.length_map, List.append_assoc,
          List.take_left]
      have hAfter :
          (listed ++ exchanges ++ relisted).drop
              (listed.map Exchange.call ++
                exchanges.map Exchange.call).length =
            relisted := by
        rw [← List.map_append, List.length_map,
          List.drop_left]
      rw [hBefore, hAfter]
      rfl

/-
  Whatever the executor does: seen from outside, a batch
  amounts to dispatching the calls that are planned for it.
-/
theorem run_appearsAs
    (input : BatchInput) :
    ((traced executor disk policy).run input).AppearsAs
      (executor.dispatch
          ((planInput disk input).batchCalls policy) >>=
        fun exchanges =>
          ExceptT.mk
            (pure
              ((planInput disk input).conclude policy
                exchanges))) := by
  rw [dispatch_batchCalls]
  unfold run
  refine AppearsAs.bind
    (listIf_appearsAs executor disk policy
      policy.includesBefore) ?_ ?_
  · intro error
    rfl
  intro streamsBefore
  refine AppearsAs.bind
    (runInput_appearsAs executor disk policy input) ?_ ?_
  · intro error
    rfl
  intro files
  refine AppearsAs.bind
    (listIf_appearsAs executor disk policy
      policy.includesAfter) ?_ ?_
  · intro error
    rfl
  intro streamsAfter
  exact AppearsAs.behind (outward_note _ _ _ _ _)
    (AppearsAs.pure_ok _)

end Runner

end KsqlBatch
