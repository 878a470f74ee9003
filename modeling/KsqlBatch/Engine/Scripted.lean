import KsqlBatch.Engine.Session

/-
  This file defines executors that answer as they have been
  told before.

  Key definitions include:
    * `Scripted`
    * `Scripted.executor`
-/

------------------------------------------------------------
-- Scripted Executors
------------------------------------------------------------

namespace KsqlBatch

/- The statement that is rejected, and how. -/
structure Rejection where
  text : String
  status : Nat
  message : String
deriving DecidableEq, Repr, Inhabited

/-
  What an executor answers: the streams it lists, the
  statements it rejects, and the listing that fails.
-/
structure Scripted where
  streams : List StreamInfo
  rejections : List Rejection
  failingListing : Option Nat
deriving DecidableEq, Repr, Inhabited

namespace Scripted

/- The answer to a statement. -/
def answer
    (script : Scripted)
    (statement : Statement) :
    Except RunError ExecutionResult :=
  match script.rejections.find?
      (·.text = statement.text) with
  | some rejection =>
      .error (.rejected statement.text rejection.status
        rejection.message)
  | none =>
      .ok
        { ExecutionResult.empty with
          queryId := some ("Q" ++ toString statement.startLine) }

/- The answer to a listing, given its number. -/
def listing
    (script : Scripted)
    (number : Nat) : Except RunError (List StreamInfo) :=
  if script.failingListing = some number then
    .error (.response "list failed")
  else .ok script.streams

/- The executor. Its state is the number of listings. -/
def executor
    (script : Scripted) : Executor (Session Nat) where
  execute statement _ := pure (script.answer statement)
  listStreams := do
    let number := (← Session.read) + 1
    Session.write number
    return script.listing number

end Scripted

end KsqlBatch
