import Mathlib.Control.Monad.Basic
import KsqlBatch.Proofs.Batch.Preview
import KsqlBatch.Proofs.Batch.Printing
import KsqlBatch.Proofs.CommandLine.Arguments
import KsqlBatch.Proofs.Settings.Loading

/-
  This file shows what can be seen of the program from
  outside: it is what a batch run hands on, and how this run
  ends.

  Key definitions include:
    * `ProgramRun`
    * `Program.complete`
    * `Program.loaded`
    * `Program.machine?`

  Key theorems include:
    * `Program.exists_machine?_eq`
    * `Program.outward_run`
    * `Program.complete_eq`

  The main result is `Program.complete_shows_run`.
-/

------------------------------------------------------------
-- Lines of Previews
------------------------------------------------------------

namespace KsqlBatch

namespace Preview

/- The line that a preview shows for a statement. -/
theorem display_result :
    result.display =
      "ExecutionResult\x7bqueryId=-, " ++
        "status=DRY_RUN, message=-\x7d" := by
  rfl

/- The preview shows one line for each statement. -/
theorem display_exchanges
    (calls : List Call) :
    (calls.map exchange).flatMap Exchange.display =
      (calls.filterMap Call.parsed?).map
        fun _ => result.display := by
  induction calls with
  | nil => rfl
  | cons call calls ih =>
      rw [List.map_cons, List.flatMap_cons, ih]
      cases call <;> rfl

/-
  A preview shows one line for each statement, and nothing
  for the listings.
-/
theorem display_successes
    {σ : Type}
    {disk : FileSystem Id}
    {input : BatchInput}
    {paths contents : List String}
    (hResolve : Id.run (input.resolve disk) = .ok paths)
    (hRead :
      paths.map (fun path => Id.run (disk.readText path)) =
        contents.map .ok)
    (policy : ListingPolicy)
    (s : σ) :
    ((machineOver σ).successes
        ((machineOver σ).batchRun disk policy input s).calls
        s).flatMap Exchange.display =
      (contents.flatMap fun content =>
        (parseStatements content).statements).map
          fun _ => result.display := by
  have hServed :
      ∃ exchanges,
        ((machineOver σ).batchRun disk policy input s).Served
          (machineOver σ) (planInput disk input) policy s
          exchanges := by
    refine Machine.batchRun_served ?_
    rw [replies_machineOver]
    intro reply hReply
    rcases List.mem_map.mp hReply with ⟨served, _, rfl⟩
    rfl
  rcases hServed with ⟨exchanges, hServed⟩
  have hPlanned :
      (planInput disk input).calls =
        contents.flatMap scriptCalls := by
    rw [planInput_of_read hResolve hRead]
  unfold Machine.successes
  rw [replies_machineOver, Machine.filterMap_toOption_map_ok,
    display_exchanges, hServed.calls_eq,
    filterMap_parsed?_batchCalls hPlanned]

end Preview

end KsqlBatch

------------------------------------------------------------
-- The Program from Outside
------------------------------------------------------------

namespace KsqlBatch

/- What is seen of the program, and the server behind it. -/
structure ProgramRun where
  exitCode : Nat
  output : String
  errorOutput : String
  final : Server

namespace Program

/- Lines as they are printed. -/
def printed
    (lines : List String) : String :=
  String.join (lines.map (· ++ "\n"))

/- A disk, an environment and a server. -/
def host
    (disk : FileSystem Id)
    (environment : List (String × String)) :
    Host (Session Server) where
  files := disk.lift
  environment
  transport := Server.transport
  report := Session.report

/- The program from its arguments to its end. -/
def complete
    (disk : FileSystem Id)
    (environment : List (String × String))
    (server : Server)
    (arguments : List String) : ProgramRun :=
  match (run (host disk environment) arguments).run server with
  | (ending, final, events) =>
      { exitCode := ending.exitCode
        output :=
          printed (events.flatMap Event.lines) ++
            ending.output
        errorOutput := ending.errorOutput
        final }

/- The connection that is loaded for an invocation. -/
def loaded
    (disk : FileSystem Id)
    (environment : List (String × String))
    (invocation : Invocation) :
    Except RunError (Option Connection) :=
  match invocation.config with
  | none => .ok none
  | some path =>
      (Id.run
        (Loader.load disk environment
          (layers path invocation.endpoint))).1.map some

/- What executes the statements of an invocation. -/
def machine?
    (invocation : Invocation)
    (connection : Option Connection) :
    Option (Machine Server) :=
  if invocation.dryRun then some (Preview.machineOver Server)
  else
    connection.map fun connection =>
      (Client.ofConnection connection).machine

end Program

end KsqlBatch

------------------------------------------------------------
-- Accepted Invocations
------------------------------------------------------------

namespace KsqlBatch

/- Only a preview may do without a configuration. -/
theorem Command.config_of_parse_eq_run
    {arguments : List String}
    {invocation : Invocation}
    (hAccepted :
      Command.parse arguments = .ok (.run invocation)) :
    invocation.dryRun = true ∨
      invocation.config.isSome = true := by
  rcases Command.parse_eq_run_iff.mp hAccepted with
    ⟨given, _, hCheck⟩
  rcases Given.check_eq_ok_iff.mp hCheck with
    ⟨hConfig, _, _, _, hDryRun, hPreview⟩
  rw [← hDryRun, ← hConfig]
  cases hGiven : given.config with
  | none => exact Or.inl (hPreview hGiven).1
  | some path => exact Or.inr rfl

namespace Program

variable {disk : FileSystem Id}
variable {environment : List (String × String)}
variable {arguments : List String}
variable {invocation : Invocation}
variable {connection : Option Connection}

/- A connection is loaded if a configuration is given. -/
theorem isSome_of_loaded
    (hLoaded :
      loaded disk environment invocation = .ok connection)
    (hConfig : invocation.config.isSome = true) :
    connection.isSome = true := by
  rcases Option.isSome_iff_exists.mp hConfig with ⟨path, hPath⟩
  simp only [loaded, hPath] at hLoaded
  cases hLoad :
      (Id.run
        (Loader.load disk environment
          (layers path invocation.endpoint))).1 with
  | error error => simp [hLoad, Except.map] at hLoaded
  | ok found =>
      rw [hLoad] at hLoaded
      rw [← Except.ok.inj hLoaded]
      rfl

/- For an accepted invocation it is known what executes. -/
theorem exists_machine?_eq
    (hAccepted :
      Command.parse arguments = .ok (.run invocation))
    (hLoaded :
      loaded disk environment invocation = .ok connection) :
    ∃ machine,
      machine? invocation connection = some machine := by
  unfold machine?
  rcases Command.config_of_parse_eq_run hAccepted with
    hDry | hConfig
  · rw [if_pos hDry]
    exact ⟨_, rfl⟩
  · have hFound := isSome_of_loaded hLoaded hConfig
    rcases Option.isSome_iff_exists.mp hFound with
      ⟨found, hSome⟩
    rw [hSome]
    split
    · exact ⟨_, rfl⟩
    · exact ⟨_, rfl⟩

end Program

end KsqlBatch

------------------------------------------------------------
-- The Outward View
------------------------------------------------------------

namespace KsqlBatch

namespace Program

open Session

variable (disk : FileSystem Id)
variable (environment : List (String × String))

/- Log records are not seen. -/
theorem outward_note
    (level : LogLevel)
    (message : String) :
    (note (host disk environment) level message).outward =
      pure () :=
  outward_report_of_not_isOutward rfl

theorem outward_noteAll
    (log : List LogRecord) :
    (noteAll (host disk environment) log).outward =
      pure () := by
  induction log with
  | nil => exact outward_pure ()
  | cons record log ih =>
      have hRecord :
          ((host disk environment).report
            (.log record)).outward = pure () :=
        outward_report_of_not_isOutward rfl
      unfold noteAll
      rw [outward_bind, hRecord, pure_bind]
      exact ih

theorem outward_noteUnfinished
    (reports : List FileReport) :
    (noteUnfinished (host disk environment)
      reports).outward = pure () := by
  induction reports with
  | nil => exact outward_pure ()
  | cons report reports ih =>
      unfold noteUnfinished
      cases report.isClean with
      | true => exact ih
      | false =>
          refine (outward_bind _ _).trans ?_
          rw [outward_note, pure_bind]
          exact ih

/- Loading leaves nothing to be seen but the connection. -/
theorem outward_configure
    (invocation : Invocation) :
    (configure (host disk environment) invocation).outward =
      pure (loaded disk environment invocation) := by
  unfold configure loaded
  cases invocation.config with
  | none => exact outward_pure _
  | some path =>
      have hLoad :
          Loader.load (host disk environment).files
              (host disk environment).environment
              (layers path invocation.endpoint) =
            pure
              (Id.run
                (Loader.load disk environment
                  (layers path invocation.endpoint))) :=
        Loader.load_lift (Session Server) disk environment _
      simp only [hLoad, pure_bind, outward_bind,
        outward_note, outward_noteAll, outward_pure]

variable {disk : FileSystem Id}
variable {environment : List (String × String)}
variable {arguments : List String}
variable {invocation : Invocation}
variable {connection : Option Connection}
variable {machine : Machine Server}

/- What is carried out is the run of a batch. -/
theorem outward_execute
    (hLoaded :
      loaded disk environment invocation = .ok connection)
    (hMachine :
      machine? invocation connection = some machine) :
    (execute (host disk environment) invocation).outward =
      ((Runner.plain machine.toExecutor disk
        invocation.policy).run invocation.input).outward := by
  unfold execute
  rw [outward_bind, outward_configure, hLoaded, pure_bind]
  unfold machine? at hMachine
  cases hDry : invocation.dryRun with
  | true =>
      rw [if_pos hDry] at hMachine
      rw [← Option.some.inj hMachine]
      rfl
  | false =>
      simp only [hDry, Bool.false_eq_true, if_false]
        at hMachine ⊢
      rcases Option.map_eq_some_iff.mp hMachine with
        ⟨found, hFound, hClient⟩
      rw [hFound, ← hClient]
      refine (outward_bind _ _).trans ?_
      have hConnecting :
          ((host disk environment).report
            (.log (Client.ofConnection
              found).connecting)).outward = pure () :=
        outward_report_of_not_isOutward rfl
      rw [hConnecting, pure_bind]
      rfl

/- The program is the run of a batch, and an ending. -/
theorem outward_run
    (hAccepted :
      Command.parse arguments = .ok (.run invocation))
    (hLoaded :
      loaded disk environment invocation = .ok connection)
    (hMachine :
      machine? invocation connection = some machine) :
    (run (host disk environment) arguments).outward = (do
      let result ←
        ((Runner.plain machine.toExecutor disk
          invocation.policy).run invocation.input).outward
      return ending result) := by
  unfold run
  simp only [hAccepted]
  unfold conclude
  rw [outward_bind, outward_execute hLoaded hMachine]
  refine bind_congr ?_
  intro result
  cases result with
  | error error =>
      exact outward_pure _
  | ok report =>
      simp only [outward_bind, outward_noteUnfinished,
        pure_bind, outward_pure]

end Program

end KsqlBatch

------------------------------------------------------------
-- Endings
------------------------------------------------------------

namespace KsqlBatch

/- A file is clean if it was read to its end. -/
theorem FileReport.isClean_iff
    (report : FileReport) :
    report.isClean = true ↔
      report.termination = .exhausted := by
  unfold FileReport.isClean
  cases report.termination <;> simp [Termination.isClean]

namespace Program

/- A run ends the program without any further output. -/
theorem output_ending
    (result : Except RunError BatchReport) :
    (ending result).output = "" := by
  cases result with
  | error error => rfl
  | ok report => rfl

/- Success means that all files were read to their ends. -/
theorem exitCode_ending_eq_zero_iff
    (result : Except RunError BatchReport) :
    (ending result).exitCode = 0 ↔
      ∃ report,
        result = .ok report ∧
        ∀ file ∈ report.files,
          file.termination = .exhausted := by
  cases result with
  | error error => simp [ending]
  | ok report =>
      have hClean :
          (ending (.ok report)).exitCode = 0 ↔
            report.isClean = true := by
        simp [ending]
      rw [hClean]
      unfold BatchReport.isClean
      simp [FileReport.isClean_iff]

/- Anything else than success is one kind of failure. -/
theorem exitCode_ending
    (result : Except RunError BatchReport) :
    (ending result).exitCode = 0 ∨
      (ending result).exitCode = 1 := by
  cases result with
  | error error => exact Or.inr rfl
  | ok report =>
      simp only [ending]
      split
      · exact Or.inl rfl
      · exact Or.inr rfl

end Program

end KsqlBatch

------------------------------------------------------------
-- Output of the Program
------------------------------------------------------------

namespace KsqlBatch

namespace Program

variable {disk : FileSystem Id}
variable {environment : List (String × String)}
variable {arguments : List String}
variable {invocation : Invocation}
variable {connection : Option Connection}
variable {machine : Machine Server}

/- All that is shown of the program is its outward view. -/
theorem complete_eq_outward
    (disk : FileSystem Id)
    (environment : List (String × String))
    (server : Server)
    (arguments : List String) :
    complete disk environment server arguments =
      match (run (host disk environment)
          arguments).outward.run server with
      | (ending, final, events) =>
          { exitCode := ending.exitCode
            output :=
              printed (events.flatMap Event.lines) ++
                ending.output
            errorOutput := ending.errorOutput
            final } := by
  unfold complete
  rw [Session.run_outward]
  dsimp only
  rw [Event.flatMap_lines_filter Event.isOutward_of_isCallback]

/- The program shows what is handed on, and how it ends. -/
theorem complete_eq
    (hAccepted :
      Command.parse arguments = .ok (.run invocation))
    (hLoaded :
      loaded disk environment invocation = .ok connection)
    (hMachine :
      machine? invocation connection = some machine)
    (server : Server) :
    let run :=
      machine.batchRun disk invocation.policy
        invocation.input server
    complete disk environment server arguments =
      { exitCode := (ending run.result).exitCode
        output :=
          printed
            ((machine.successes run.calls server).flatMap
              Exchange.display)
        errorOutput := (ending run.result).errorOutput
        final := run.final } := by
  intro batch
  rcases
    machine.run_plain disk invocation.policy
      invocation.input server with
    ⟨hResult, hFinal, _⟩
  have hLines :=
    machine.lines_run_plain disk invocation.policy
      invocation.input server
  rw [← Session.lines_outward] at hLines
  rw [complete_eq_outward,
    outward_run hAccepted hLoaded hMachine]
  simp only [Session.run_bind, Session.run_pure,
    List.append_nil, hLines, output_ending,
    String.append_empty]
  simp only [Session.run_outward, hResult, hFinal]
  rfl

/-
  What the program shows of an accepted invocation whose
  configuration is loaded. It prints the results of the calls
  that succeed in a run of the batch, in their order; it ends
  with an error if the run does; and its status says whether
  all files were read to their ends. A preview sends nothing
  and prints one line for each statement.
-/
theorem complete_shows_run
    (disk : FileSystem Id)
    (environment : List (String × String))
    (arguments : List String)
    (invocation : Invocation)
    (connection : Option Connection)
    (server : Server)
    (hAccepted :
      Command.parse arguments = .ok (.run invocation))
    (hLoaded :
      loaded disk environment invocation = .ok connection) :
    let shown := complete disk environment server arguments
    ∃ machine,
      machine? invocation connection = some machine ∧
      let run :=
        machine.batchRun disk invocation.policy
          invocation.input server
      let successes := machine.successes run.calls server
      run.callbacks = successes.map Exchange.callback ∧
      shown.output =
        printed (successes.flatMap Exchange.display) ∧
      (∀ report,
        run.result = .ok report →
        shown.errorOutput = "") ∧
      (∀ error,
        run.result = .error error →
        shown.errorOutput =
          "Error: " ++ error.message ++ "\n") ∧
      (shown.exitCode = 0 ↔
        ∃ report,
          run.result = .ok report ∧
          ∀ file ∈ report.files,
            file.termination = .exhausted) ∧
      (shown.exitCode = 0 ∨ shown.exitCode = 1) ∧
      shown.final = run.final ∧
      (invocation.dryRun = true →
        shown.final = server ∧
        ∀ paths contents : List String,
          Id.run (invocation.input.resolve disk) =
            .ok paths →
          paths.map
              (fun path => Id.run (disk.readText path)) =
            contents.map .ok →
          shown.output =
            printed
              ((contents.flatMap fun content =>
                (parseStatements content).statements).map
                  fun _ =>
                    "ExecutionResult\x7bqueryId=-, " ++
                      "status=DRY_RUN, message=-\x7d")) := by
  intro shown
  rcases exists_machine?_eq hAccepted hLoaded with
    ⟨machine, hMachine⟩
  refine ⟨machine, hMachine, ?_⟩
  intro run successes
  have hShown : shown = _ :=
    complete_eq hAccepted hLoaded hMachine server
  rw [hShown]
  refine
    ⟨machine.callbacks_batchRun disk _ _ server, rfl, ?_, ?_,
      exitCode_ending_eq_zero_iff run.result,
      exitCode_ending run.result, rfl, ?_⟩
  · intro report hReport
    simp only [run] at hReport ⊢
    rw [hReport]
    rfl
  · intro error hError
    simp only
    rw [hError]
    rfl
  · intro hDry
    rw [machine?, if_pos hDry] at hMachine
    have hPreview := Option.some.inj hMachine
    subst hPreview
    refine ⟨Preview.final_batchRun disk _ _ server, ?_⟩
    intro paths contents hResolve hRead
    rw [Preview.display_successes hResolve hRead,
      Preview.display_result]

/-
  A preview of a directory in which one file is no script,
  and a run whose second statement is rejected.
-/
theorem complete_shows_run_of_two_invocations :
    let disk :=
      FileSystem.ofScripts "scripts"
        [("ksql.ini", .ok "ksqldb.endpoint = localhost\n"),
          ("a.ksql", .ok "SELECT 1;\nSELECT 2;\n")]
    let server :=
      Server.prepared
        [{ status := 200, body := "[]".toUTF8 },
          { status := 400, body := "unknown".toUTF8 }]
    let preview :=
      complete disk [] server ["--dry-run", "-d", "scripts"]
    let failing :=
      complete disk [] server
        ["--config=scripts/ksql.ini", "-f", "scripts/a.ksql",
          "--list-streams", "never"]
    (preview.output =
        printed
          (List.replicate 2
            ("ExecutionResult\x7bqueryId=-, " ++
              "status=DRY_RUN, message=-\x7d")) ∧
      preview.exitCode = 1 ∧
      preview.final = server) ∧
    (failing.output =
        "ExecutionResult\x7bqueryId=-, status=-, " ++
          "message=-\x7d\n" ∧
      failing.exitCode = 1 ∧
      failing.errorOutput =
        "Error: ksqlDB rejected statement (status 400): " ++
          "unknown\n\nSELECT 2;\n\n") := by
  intro disk server preview failing
  let connection : Connection :=
    { endpoint := "localhost"
      port := 443
      useTls := true
      timeoutSecs := 30
      credentials := none }
  constructor
  · rcases
      complete_shows_run disk []
        ["--dry-run", "-d", "scripts"]
        { config := none
          endpoint := none
          input := .directory "scripts"
          policy := .before
          dryRun := true }
        none server (by decide +kernel) (by rfl) with
      ⟨machine, hMachine, _, _, _, _, hZero, hCode, _,
        hDryRun⟩
    rcases hDryRun rfl with ⟨hFinal, hOutput⟩
    have hResult :
        (machine.batchRun disk .before (.directory "scripts")
            server).result =
          .ok
            { files :=
                [{ path := "scripts/a.ksql"
                   executed := 2
                   termination := .exhausted },
                  { path := "scripts/ksql.ini"
                    executed := 0
                    termination :=
                      .incompleteStatement
                        { startLine := 1
                          fragment :=
                            "ksqldb.endpoint = localhost" } }]
              streamsBefore := []
              streamsAfter := [] } := by
      rw [← Option.some.inj hMachine]
      decide +kernel
    refine ⟨?_, ?_, hFinal⟩
    · exact
        (hOutput ["scripts/a.ksql", "scripts/ksql.ini"]
          ["SELECT 1;\nSELECT 2;\n",
            "ksqldb.endpoint = localhost\n"]
          (by rfl) (by rfl)).trans (by decide +kernel)
    · refine hCode.resolve_left ?_
      intro hSuccess
      rcases hZero.mp hSuccess with ⟨report, hReport, hClean⟩
      rw [← Except.ok.inj (hResult.symm.trans hReport)]
        at hClean
      exact absurd hClean (by decide)
  · rcases
      complete_shows_run disk []
        ["--config=scripts/ksql.ini", "-f", "scripts/a.ksql",
          "--list-streams", "never"]
        { config := some "scripts/ksql.ini"
          endpoint := none
          input := .file "scripts/a.ksql"
          policy := .never
          dryRun := false }
        (some connection) server
        (by decide +kernel) (by decide +kernel) with
      ⟨machine, hMachine, _, hOutput, _, hError, hZero,
        hCode, _, _⟩
    have hClient :
        (Client.ofConnection connection).machine = machine :=
      Option.some.inj hMachine
    subst hClient
    have hRejected :
        ((Client.ofConnection connection).machine.batchRun
            disk .never (.file "scripts/a.ksql")
            server).result =
          .error (.rejected "SELECT 2;" 400 "unknown") := by
      decide +kernel
    refine ⟨hOutput.trans (by decide +kernel), ?_, ?_⟩
    · refine hCode.resolve_left ?_
      intro hSuccess
      rcases hZero.mp hSuccess with ⟨report, hReport, _⟩
      rw [hRejected] at hReport
      cases hReport
    · exact hError _ hRejected

end Program

end KsqlBatch
