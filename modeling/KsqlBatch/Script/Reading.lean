import KsqlBatch.Script.Parser

/-
  This file reads all statements of a script at once.

  Key definitions include:
    * `Parser.drain`
    * `parseStatements`
-/

------------------------------------------------------------
-- Whole Scripts
------------------------------------------------------------

namespace KsqlBatch

/- All statements of a script and why reading it stopped. -/
structure ParsedScript where
  statements : List ParsedStatement
  termination : Option Termination
  log : List LogRecord
deriving DecidableEq, Inhabited

namespace Parser

/-
  Call the parser until it has nothing more, and leave out
  errors. What has been collected is kept in reverse order.
  The fuel bounds the number of calls.
-/
def drain
    (parser : Parser)
    (statementsRev : List ParsedStatement)
    (logRev : List LogRecord) :
    (fuel : Nat) → ParsedScript
| 0 =>
    { statements := statementsRev.reverse
      termination := parser.termination
      log := logRev.reverse }
| fuel + 1 =>
    match parser.next with
    | (some (.ok parsed), parser, log) =>
        parser.drain (parsed :: statementsRev)
          (log.reverse ++ logRev) fuel
    | (some (.error _), parser, log) =>
        parser.drain statementsRev
          (log.reverse ++ logRev) fuel
    | (none, parser, log) =>
        { statements := statementsRev.reverse
          termination := parser.termination
          log := (log.reverse ++ logRev).reverse }

/-
  A bound on the calls until the parser has nothing more:
  each call before that reads at least one line.
-/
def callBound
    (parser : Parser) : Nat :=
  parser.cursor.pending.length + 1

end Parser

/- The statements of a script. -/
def parseStatements
    (text : String) : ParsedScript :=
  let parser := Parser.ofText text
  parser.drain [] [] parser.callBound

end KsqlBatch
