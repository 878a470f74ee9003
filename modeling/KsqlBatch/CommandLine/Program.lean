import KsqlBatch.Batch.Runner
import KsqlBatch.CommandLine.Arguments
import KsqlBatch.Engine.Client
import KsqlBatch.Engine.Preview
import KsqlBatch.Settings.Loader

/-
  This file defines the program: what it prints, and how it
  ends.

  Key definitions include:
    * `Host`
    * `Event.lines`
    * `Program.configure`
    * `Program.execute`
    * `Program.ending`
    * `Program.run`
-/

------------------------------------------------------------
-- Surroundings
------------------------------------------------------------

namespace KsqlBatch

/- Everything around the program. -/
structure Host (m : Type → Type) where
  files : FileSystem m
  environment : List (String × String)
  transport : Transport m
  report : Event → m Unit

/- The lines that the program prints for an event. -/
def Event.lines : Event → List String
| .result _ found => [found.display]
| .streams found => found.map StreamInfo.display
| _ => []

/-
  How the program ends: its exit status, and what is printed
  last on both outputs.
-/
structure Ending where
  exitCode : Nat
  output : String
  errorOutput : String
deriving DecidableEq, Repr, Inhabited

end KsqlBatch

------------------------------------------------------------
-- Configuration
------------------------------------------------------------

namespace KsqlBatch

namespace Program

variable {m : Type → Type}
variable [Monad m]

/- Report one record of the program. -/
def note
    (host : Host m)
    (level : LogLevel)
    (message : String) : m Unit :=
  host.report (.log { level, source := .program, message })

/- Report log records. -/
def noteAll
    (host : Host m) :
    List LogRecord → m Unit
| [] => pure ()
| record :: log => do
    host.report (.log record)
    noteAll host log

/- The layers of settings of an invocation. -/
def layers
    (path : String)
    (endpoint : Option String) : List Layer :=
  match endpoint with
  | none => Loader.fileLayers path
  | some endpoint =>
      Loader.fileLayers path ++
        [.override "ksqldb.endpoint" (.text endpoint)]

/- The connection of an invocation, if it names one. -/
def configure
    (host : Host m)
    (invocation : Invocation) :
    m (Except RunError (Option Connection)) :=
  match invocation.config with
  | none => pure (.ok none)
  | some path => do
      note host .info ("Processing config file " ++ path)
      let (loaded, log) ←
        Loader.load host.files host.environment
          (layers path invocation.endpoint)
      noteAll host log
      return loaded.map some

end Program

end KsqlBatch

------------------------------------------------------------
-- Runs
------------------------------------------------------------

namespace KsqlBatch

namespace Program

variable {m : Type → Type}
variable [Monad m]

/- Run the batch of an invocation over an executor. -/
def runBatch
    (host : Host m)
    (invocation : Invocation)
    (executor : Executor m) :
    m (Except RunError BatchReport) :=
  let runner : Runner m :=
    { executor
      files := host.files
      report := host.report
      policy := invocation.policy }
  runner.run invocation.input

/-
  Carry out an invocation. The configuration comes first,
  also where it is not needed.
-/
def execute
    (host : Host m)
    (invocation : Invocation) :
    m (Except RunError BatchReport) := do
  match ← configure host invocation with
  | .error error => return .error error
  | .ok connection =>
      if invocation.dryRun then
        runBatch host invocation
          (Preview.executor host.report)
      else
        match connection with
        | none =>
            return .error (.invalidConfig .noConfiguration)
        | some connection => do
            let client := Client.ofConnection connection
            host.report (.log client.connecting)
            runBatch host invocation
              (client.executor host.transport host.report)

end Program

end KsqlBatch

------------------------------------------------------------
-- Endings
------------------------------------------------------------

namespace KsqlBatch

namespace Program

variable {m : Type → Type}
variable [Monad m]

/- The name and the version of the program. -/
def version : String := "ksql-runner 0.4.0"

/- How the program is called. -/
def usage : String :=
  "Usage: ksql-runner [OPTIONS] " ++
    "<--directory <DIRECTORY>|--filename <FILENAME>>"

/- How a run ends the program. -/
def ending :
    Except RunError BatchReport → Ending
| .ok report =>
    { exitCode := if report.isClean then 0 else 1
      output := ""
      errorOutput := "" }
| .error error =>
    { exitCode := 1
      output := ""
      errorOutput := "Error: " ++ error.message ++ "\n" }

/- How arguments that are not accepted end the program. -/
def refusal
    (fault : UsageFault) : Ending where
  exitCode := 2
  output := ""
  errorOutput :=
    "error: " ++ fault.message ++ "\n\n" ++ usage ++ "\n"

/- How a plain text ends the program. -/
def showText
    (text : String) : Ending where
  exitCode := 0
  output := text ++ "\n"
  errorOutput := ""

/- The record of a file that was not read to its end. -/
def describeUnfinished
    (report : FileReport) : String :=
  report.path ++ " did not run to completion: " ++
    report.termination.describe

/- Report the files that were not read to their ends. -/
def noteUnfinished
    (host : Host m) :
    List FileReport → m Unit
| [] => pure ()
| report :: reports => do
    if ! report.isClean then
      note host .error (describeUnfinished report)
    noteUnfinished host reports

/- Carry out an invocation to the end of the program. -/
def conclude
    (host : Host m)
    (invocation : Invocation) : m Ending := do
  let result ← execute host invocation
  match result with
  | .ok report => noteUnfinished host report.files
  | .error _ => pure ()
  return ending result

/- The whole program. -/
def run
    (host : Host m)
    (arguments : List String) : m Ending :=
  match Command.parse arguments with
  | .error fault => pure (refusal fault)
  | .ok .version => pure (showText version)
  | .ok .help => pure (showText usage)
  | .ok (.run invocation) => conclude host invocation

end Program

end KsqlBatch
