import KsqlBatch.Text.Quoted

/-
  This file defines why reading a script stops.

  Key definitions include:
    * `IncompleteStatement`
    * `Termination`
    * `Termination.isClean`
    * `Termination.describe`
-/

------------------------------------------------------------
-- Reasons
------------------------------------------------------------

namespace KsqlBatch

/- A statement that the end of the script cuts off. -/
structure IncompleteStatement where
  startLine : Nat
  fragment : String
deriving DecidableEq, Repr, Inhabited

/- The wording of the error. -/
def IncompleteStatement.message
    (incomplete : IncompleteStatement) : String :=
  "incomplete statement starting at line " ++
    toString incomplete.startLine ++ ": '" ++
    incomplete.fragment ++ "'"

/- Why no further statement is read. -/
inductive Termination where
| exhausted
| malformedDirective (lineNumber : Nat) (line : String)
| incompleteStatement (incomplete : IncompleteStatement)
deriving DecidableEq, Repr, Inhabited

namespace Termination

/- The whole script was read. -/
def isClean : Termination → Bool
| .exhausted => true
| .malformedDirective _ _ => false
| .incompleteStatement _ => false

/- The reason in the form that the log uses. -/
def describe : Termination → String
| .exhausted => "Exhausted"
| .malformedDirective lineNumber line =>
    "MalformedDirective \x7b line_number: " ++
      toString lineNumber ++ ", line: " ++
      Text.quoted line ++ " \x7d"
| .incompleteStatement incomplete =>
    "IncompleteStatement \x7b start_line: " ++
      toString incomplete.startLine ++ ", partial: " ++
      Text.quoted incomplete.fragment ++ " \x7d"

end Termination

end KsqlBatch
