import KsqlBatch.Script.PropertyMap

/-
  This file defines statements with their place in a script
  and with the session properties that apply to them.

  Key definitions include:
    * `Statement`
    * `ParsedStatement`
-/

------------------------------------------------------------
-- Statements
------------------------------------------------------------

namespace KsqlBatch

/-
  A statement, with the numbers of its first and last lines.
  Lines count from one.
-/
structure Statement where
  text : String
  startLine : Nat
  endLine : Nat
deriving DecidableEq, Repr, Inhabited

namespace Statement

/- The statement takes more than one line. -/
def isMultiline
    (statement : Statement) : Bool :=
  statement.startLine < statement.endLine

/- The statement as a JSON object. -/
def toJson
    (statement : Statement) : Json :=
  .object
    [("text", .string statement.text),
      ("start_line", .ofNat statement.startLine),
      ("end_line", .ofNat statement.endLine)]

end Statement

/- A statement with the properties in force at its place. -/
structure ParsedStatement where
  statement : Statement
  properties : PropertyMap
deriving DecidableEq, Inhabited

/- The parsed statement as a JSON object. -/
def ParsedStatement.toJson
    (parsed : ParsedStatement) : Json :=
  .object
    [("statement", parsed.statement.toJson),
      ("properties", parsed.properties.toJson)]

end KsqlBatch
