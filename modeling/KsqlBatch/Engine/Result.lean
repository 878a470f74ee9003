import KsqlBatch.Json.Value

/-
  This file defines the results of statements.

  Key definitions include:
    * `ExecutionResult`
    * `ExecutionResult.display`
-/

------------------------------------------------------------
-- Results
------------------------------------------------------------

namespace KsqlBatch

/-
  The result of a statement: what the engine says about the
  command, and everything it has answered.
-/
structure ExecutionResult where
  queryId : Option String
  status : Option String
  message : Option String
  entities : List Json
deriving Inhabited

namespace ExecutionResult

/- The result about which nothing is known. -/
def empty : ExecutionResult where
  queryId := none
  status := none
  message := none
  entities := []

/- The result in words. A dash stands for what is not known. -/
def display
    (result : ExecutionResult) : String :=
  "ExecutionResult\x7bqueryId=" ++
    result.queryId.getD "-" ++
    ", status=" ++ result.status.getD "-" ++
    ", message=" ++ result.message.getD "-" ++ "\x7d"

end ExecutionResult

end KsqlBatch
