import KsqlBatch.Batch.Input
import KsqlBatch.Batch.Report
import KsqlBatch.Engine.Executor
import KsqlBatch.Script.Parser
import KsqlBatch.Script.Reading

/-
  This file runs batches. Each file is parsed on its own, and
  its statements are executed one by one as they are found.
  The first failure ends the run.

  Key definitions include:
    * `Runner`
    * `Runner.runStatements`
    * `Runner.runBuffer`
    * `Runner.runFile`
    * `Runner.run`
-/

------------------------------------------------------------
-- Runners
------------------------------------------------------------

namespace KsqlBatch

/- Everything that a run needs. -/
structure Runner (m : Type → Type) where
  executor : Executor m
  files : FileSystem m
  report : Event → m Unit
  policy : ListingPolicy

namespace Runner

variable {m : Type → Type}
variable [Monad m]

/- Report log records. -/
def reportAll
    (runner : Runner m) :
    List LogRecord → m Unit
| [] => pure ()
| record :: log => do
    runner.report (.log record)
    runner.reportAll log

/- Report one record of the run. -/
def note
    (runner : Runner m)
    (level : LogLevel)
    (message : String) : m Unit :=
  runner.report (.log { level, source := .batch, message })

/- List the streams of the engine and hand them on. -/
def listStreams
    (runner : Runner m) :
    m (Except RunError (List StreamInfo)) := do
  match ← runner.executor.listStreams with
  | .error error => return .error error
  | .ok streams =>
      runner.note .info
        ("Engine reports " ++ toString streams.length ++
          " streams")
      runner.report (.streams streams)
      return .ok streams

end Runner

end KsqlBatch

------------------------------------------------------------
-- Files
------------------------------------------------------------

namespace KsqlBatch

namespace Runner

variable {m : Type → Type}
variable [Monad m]

/- The record of a statement that has failed. -/
def describeFailure
    (path : String)
    (statement : Statement)
    (error : RunError) : String :=
  "Encountered error while executing " ++ path ++ ":" ++
    toString statement.startLine ++ ":\n\n" ++
    statement.text ++ "\n\n" ++ error.message

/-
  Execute the statements that a parser finds. Comes to an
  end with their number and the parser. The fuel bounds the
  calls of the parser.
-/
def runStatements
    (runner : Runner m)
    (path : String)
    (parser : Parser)
    (executed : Nat) :
    (fuel : Nat) → m (Except RunError (Nat × Parser))
| 0 => pure (.ok (executed, parser))
| fuel + 1 =>
    match parser.next with
    | (none, parser, log) => do
        runner.reportAll log
        return .ok (executed, parser)
    | (some (.error _), parser, log) => do
        runner.reportAll log
        return .ok (executed, parser)
    | (some (.ok parsed), parser, log) => do
        runner.reportAll log
        match ← runner.executor.execute
            parsed.statement parsed.properties with
        | .error error =>
            runner.note .error
              (describeFailure path parsed.statement error)
            return .error error
        | .ok result =>
            runner.report (.result parsed.statement result)
            runner.runStatements path parser
              (executed + 1) fuel

/- The record of a file that was not read to its end. -/
def describeStop
    (report : FileReport) : String :=
  report.path ++ " stopped early after " ++
    toString report.executed ++ " statements: " ++
    report.termination.describe

/- Run a script that has been read from a path. -/
def runBuffer
    (runner : Runner m)
    (path content : String) :
    m (Except RunError FileReport) := do
  let parser := Parser.ofText content
  match ← runner.runStatements path parser 0
      parser.callBound with
  | .error error => return .error error
  | .ok (executed, parser) =>
      let report : FileReport :=
        { path
          executed
          termination :=
            parser.termination.getD .exhausted }
      if ! report.isClean then
        runner.note .warn (describeStop report)
      return .ok report

/- Run a file. -/
def runFile
    (runner : Runner m)
    (path : String) : m (Except RunError FileReport) := do
  runner.note .info ("Processing " ++ path)
  match ← BatchInput.readScript runner.files path with
  | .error error => return .error error
  | .ok content => runner.runBuffer path content

/- Run files one after the other. -/
def runFiles
    (runner : Runner m) :
    List String → m (Except RunError (List FileReport))
| [] => pure (.ok [])
| path :: paths => do
    match ← runner.runFile path with
    | .error error => return .error error
    | .ok report =>
        match ← runner.runFiles paths with
        | .error error => return .error error
        | .ok reports => return .ok (report :: reports)

end Runner

end KsqlBatch

------------------------------------------------------------
-- Batches
------------------------------------------------------------

namespace KsqlBatch

namespace Runner

variable {m : Type → Type}
variable [Monad m]

/- List the streams if that is due. -/
def listIf
    (runner : Runner m)
    (due : Bool) :
    m (Except RunError (List StreamInfo)) :=
  if due then runner.listStreams else pure (.ok [])

/- Run the files of an input. -/
def runInput
    (runner : Runner m)
    (input : BatchInput) :
    m (Except RunError (List FileReport)) := do
  match ← input.resolve runner.files with
  | .error error => return .error error
  | .ok paths => runner.runFiles paths

/- The record of a run that has come to its end. -/
def describeEnd
    (report : BatchReport) : String :=
  "Executed " ++ toString report.statementsExecuted ++
    " statements from " ++ toString report.files.length ++
    " files"

/- Run a batch. -/
def run
    (runner : Runner m)
    (input : BatchInput) :
    m (Except RunError BatchReport) := do
  match ← runner.listIf runner.policy.includesBefore with
  | .error error => return .error error
  | .ok streamsBefore =>
      match ← runner.runInput input with
      | .error error => return .error error
      | .ok files =>
          match ← runner.listIf
              runner.policy.includesAfter with
          | .error error => return .error error
          | .ok streamsAfter =>
              let report : BatchReport :=
                { files, streamsBefore, streamsAfter }
              runner.note .info (describeEnd report)
              return .ok report

end Runner

end KsqlBatch
