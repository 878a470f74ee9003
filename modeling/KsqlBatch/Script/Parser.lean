import KsqlBatch.Log
import KsqlBatch.Script.Directive
import KsqlBatch.Script.Line
import KsqlBatch.Script.LineCursor
import KsqlBatch.Script.Statement
import KsqlBatch.Script.Termination

/-
  This file reads the statements of a script one after the
  other. Between statements blank lines and comments are
  skipped and directives set properties. Any other line begins
  a statement, which goes on up to a line that ends with a
  semicolon.

  The parser stops for good at the end of the script, at a
  directive that cannot be read, and when the script ends
  inside a statement.

  Key definitions include:
    * `Parser`
    * `Parser.takeLine`
    * `Parser.atEnd`
    * `Parser.advance`
    * `Parser.next`
-/

------------------------------------------------------------
-- States and Outcomes
------------------------------------------------------------

namespace KsqlBatch

/- What the parser is doing. -/
inductive ParserState where
| idle
| accumulating
| done
deriving DecidableEq, Repr, Inhabited

/-
  Where the parser stands between two lines. The lines of an
  open statement are kept with the latest one first.
-/
inductive Phase where
| idle
| accumulating (startLine : Nat) (linesRev : List String)
| done
deriving DecidableEq, Repr, Inhabited

/- The state that belongs to a phase. -/
def Phase.state : Phase → ParserState
| .idle => .idle
| .accumulating _ _ => .accumulating
| .done => .done

/- The result of looking for the next statement. -/
inductive Outcome where
| statement (found : Statement)
| ended
| failed (incomplete : IncompleteStatement)
deriving DecidableEq, Repr, Inhabited

/- The statement that was found, if one was. -/
def Outcome.statement? : Outcome → Option Statement
| .statement found => some found
| .ended => none
| .failed _ => none

end KsqlBatch

------------------------------------------------------------
-- Parsers
------------------------------------------------------------

namespace KsqlBatch

/-
  A parser: the lines to come, the properties set so far,
  the latest statement, and why it has stopped.
-/
structure Parser where
  cursor : LineCursor
  phase : Phase
  properties : PropertyMap
  current : Option Statement
  termination : Option Termination
deriving DecidableEq, Inhabited

namespace Parser

/- The parser in front of a script. -/
def ofText
    (text : String) : Parser where
  cursor := LineCursor.ofText text
  phase := .idle
  properties := PropertyMap.empty
  current := none
  termination := none

/- What the parser is doing. -/
def state
    (parser : Parser) : ParserState :=
  parser.phase.state

/- A record of the parser. -/
def record
    (level : LogLevel)
    (message : String) : LogRecord where
  level := level
  source := .parser
  message := message

/- The text of a statement whose latest line comes first. -/
def joinLines
    (linesRev : List String) : String :=
  "\n".intercalate linesRev.reverse

end Parser

end KsqlBatch

------------------------------------------------------------
-- Steps
------------------------------------------------------------

namespace KsqlBatch

/- The effect of a step: parser, records, and outcome if any. -/
structure Step where
  parser : Parser
  log : List LogRecord
  outcome : Option Outcome
deriving DecidableEq, Inhabited

namespace Parser

/- Go on to the next line without further effect. -/
def skip
    (parser : Parser) : Step where
  parser := parser
  log := []
  outcome := none

/- Hand over a statement that is complete. -/
def emit
    (parser : Parser)
    (log : List LogRecord)
    (found : Statement) : Step where
  parser := { parser with phase := .idle, current := some found }
  log := log
  outcome := some (.statement found)

/- Stop for good. -/
def finish
    (parser : Parser)
    (log : List LogRecord)
    (termination : Termination)
    (outcome : Outcome) : Step where
  parser :=
    { parser with
      phase := .done
      current := none
      termination := some termination }
  log :=
    log ++
      [record .debug
        ("parser finished: " ++ termination.describe)]
  outcome := some outcome

/- Take a line that was read as a directive. -/
def takeDirective
    (parser : Parser)
    (line : String) : Step :=
  match Script.Directive.parse? line with
  | some directive =>
      { parser :=
          { parser with
            properties :=
              parser.properties.insert
                directive.key directive.value }
        log :=
          [record .debug
            ("SET '" ++ directive.key ++ "' = '" ++
              directive.value ++ "'")]
        outcome := none }
  | none =>
      parser.finish
        [record .warn
          ("SET directive did not match '" ++ line ++ "'")]
        (.malformedDirective parser.cursor.lineNumber line)
        .ended

/- Take the first line of a statement. -/
def takeFirstLine
    (parser : Parser)
    (line : String) : Step :=
  let number := parser.cursor.lineNumber
  if Script.endsStatement line then
    parser.emit []
      { text := line, startLine := number, endLine := number }
  else
    { parser :=
        { parser with phase := .accumulating number [line] }
      log := []
      outcome := none }

/- Take a further line of an open statement. -/
def takeContinuation
    (parser : Parser)
    (startLine : Nat)
    (linesRev : List String)
    (line : String) : Step :=
  let log :=
    [record .trace ("continuation line '" ++ line ++ "'")]
  if Script.endsStatement line then
    parser.emit log
      { text := joinLines (line :: linesRev)
        startLine
        endLine := parser.cursor.lineNumber }
  else
    { parser :=
        { parser with
          phase := .accumulating startLine (line :: linesRev) }
      log
      outcome := none }

/- Take a line that has just been read. -/
def takeLine
    (parser : Parser)
    (raw : String) : Step :=
  let line := Script.trimLine raw
  match parser.phase with
  | .done =>
      { parser, log := [], outcome := some .ended }
  | .accumulating startLine linesRev =>
      parser.takeContinuation startLine linesRev line
  | .idle =>
      match Script.classify line with
      | .blank => parser.skip
      | .comment => parser.skip
      | .directive => parser.takeDirective line
      | .text => parser.takeFirstLine line

/- Take the end of the script. -/
def atEnd
    (parser : Parser) : Step :=
  match parser.phase with
  | .done =>
      { parser, log := [], outcome := some .ended }
  | .idle => parser.finish [] .exhausted .ended
  | .accumulating startLine linesRev =>
      let incomplete : IncompleteStatement :=
        { startLine, fragment := joinLines linesRev }
      parser.finish
        [record .error
          ("Incomplete statement '" ++ incomplete.fragment ++
            "'")]
        (.incompleteStatement incomplete)
        (.failed incomplete)

end Parser

end KsqlBatch

------------------------------------------------------------
-- Advancing
------------------------------------------------------------

namespace KsqlBatch

namespace Parser

/-
  Take the lines to come until there is an outcome. The log
  so far is kept with the latest record first.
-/
def advanceOver
    (parser : Parser)
    (logRev : List LogRecord) :
    List String → Outcome × Parser × List LogRecord
| [] =>
    let step := parser.atEnd
    (step.outcome.getD .ended, step.parser,
      (step.log.reverse ++ logRev).reverse)
| raw :: pending =>
    let cursor : LineCursor :=
      { pending, lineNumber := parser.cursor.lineNumber + 1 }
    let step := { parser with cursor }.takeLine raw
    let logRev := step.log.reverse ++ logRev
    match step.outcome with
    | some outcome => (outcome, step.parser, logRev.reverse)
    | none => step.parser.advanceOver logRev pending

/- Look for the next statement. -/
def advance
    (parser : Parser) : Outcome × Parser × List LogRecord :=
  match parser.phase with
  | .done => (.ended, parser, [])
  | _ => parser.advanceOver [] parser.cursor.pending

/-
  The next statement with the properties in force, or the
  error that ends the script, or nothing when it has ended.
-/
def next
    (parser : Parser) :
    Option (Except IncompleteStatement ParsedStatement) ×
      Parser × List LogRecord :=
  match parser.advance with
  | (.statement statement, parser, log) =>
      (some (.ok
        { statement, properties := parser.properties }),
        parser, log)
  | (.failed incomplete, parser, log) =>
      (some (.error incomplete), parser, log)
  | (.ended, parser, log) => (none, parser, log)

end Parser

end KsqlBatch
