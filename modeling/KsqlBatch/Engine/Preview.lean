import KsqlBatch.Engine.Executor

/-
  This file defines the executor that only notes statements,
  without any engine.

  Key definitions include:
    * `Preview.describe`
    * `Preview.executor`
-/

------------------------------------------------------------
-- Preview
------------------------------------------------------------

namespace KsqlBatch

namespace Preview

/- The lines of a statement in words. -/
def describeLines
    (statement : Statement) : String :=
  if statement.isMultiline then
    "lines " ++ toString statement.startLine ++ "-" ++
      toString statement.endLine
  else "line " ++ toString statement.startLine

/- Properties in words. -/
def describeProperties
    (properties : PropertyMap) : String :=
  ", ".intercalate
    (properties.entries.map fun (key, value) =>
      key ++ "=" ++ value)

/- A statement with its properties in words. -/
def describe
    (statement : Statement)
    (properties : PropertyMap) : String :=
  "[dry-run] " ++ describeLines statement ++
    " with properties \x7b" ++
    describeProperties properties ++ "\x7d:\n" ++
    statement.text

/- The result of every statement. -/
def result : ExecutionResult :=
  { ExecutionResult.empty with status := some "DRY_RUN" }

variable {m : Type → Type}
variable [Monad m]

/- The executor that notes what it is given. -/
def executor
    (report : Event → m Unit) : Executor m where
  execute statement properties := do
    report (.log
      { level := .info
        source := .executor
        message := describe statement properties })
    report (.preview statement properties)
    return .ok result
  listStreams := pure (.ok [])

end Preview

end KsqlBatch
