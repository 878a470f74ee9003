import KsqlBatch.Engine.Stream
import KsqlBatch.Script.Termination

/-
  This file defines what a run reports.

  Key definitions include:
    * `FileReport`
    * `BatchReport`
    * `BatchReport.statementsExecuted`
    * `BatchReport.isClean`
-/

------------------------------------------------------------
-- Reports
------------------------------------------------------------

namespace KsqlBatch

/-
  What became of a file: the number of statements that were
  executed, and why reading the file stopped.
-/
structure FileReport where
  path : String
  executed : Nat
  termination : Termination
deriving DecidableEq, Repr, Inhabited

/- The whole file was read. -/
def FileReport.isClean
    (report : FileReport) : Bool :=
  report.termination.isClean

/- What became of a batch. -/
structure BatchReport where
  files : List FileReport
  streamsBefore : List StreamInfo
  streamsAfter : List StreamInfo
deriving DecidableEq, Repr, Inhabited

namespace BatchReport

/- The number of statements that were executed. -/
def statementsExecuted
    (report : BatchReport) : Nat :=
  report.files.foldr
    (fun file total => file.executed + total) 0

/- All files were read to their ends. -/
def isClean
    (report : BatchReport) : Bool :=
  report.files.all FileReport.isClean

end BatchReport

end KsqlBatch
