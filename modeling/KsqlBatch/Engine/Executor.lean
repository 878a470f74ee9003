import KsqlBatch.Engine.Result
import KsqlBatch.Engine.Stream
import KsqlBatch.Log
import KsqlBatch.RunError
import KsqlBatch.Script.Statement

/-
  This file defines executors, which are given statements
  one by one, and the events that a run consists of.

  Key definitions include:
    * `Executor`
    * `Event`
    * `Executor.traced`
    * `Event.log?`
-/

------------------------------------------------------------
-- Executors
------------------------------------------------------------

namespace KsqlBatch

/-
  What executes statements and knows the streams of the
  engine.
-/
structure Executor (m : Type → Type) where
  execute :
    Statement → PropertyMap →
      m (Except RunError ExecutionResult)
  listStreams : m (Except RunError (List StreamInfo))

end KsqlBatch

------------------------------------------------------------
-- Events
------------------------------------------------------------

namespace KsqlBatch

/-
  What happens in a run: log records, calls of the executor,
  notes of the preview, and the results that are handed on.
-/
inductive Event where
| log (record : LogRecord)
| execute (statement : Statement) (properties : PropertyMap)
| listStreams
| preview (statement : Statement) (properties : PropertyMap)
| result (statement : Statement) (result : ExecutionResult)
| streams (streams : List StreamInfo)
deriving Inhabited

/- The log record in an event. -/
def Event.log? : Event → Option LogRecord
| .log record => some record
| _ => none

/- The statement that the preview notes in an event. -/
def Event.preview? : Event → Option ParsedStatement
| .preview statement properties =>
    some { statement, properties }
| _ => none

namespace Executor

variable {m : Type → Type}
variable [Monad m]

/- An executor whose calls are reported before they happen. -/
def traced
    (report : Event → m Unit)
    (executor : Executor m) : Executor m where
  execute statement properties := do
    report (.execute statement properties)
    executor.execute statement properties
  listStreams := do
    report .listStreams
    executor.listStreams

end Executor

end KsqlBatch
