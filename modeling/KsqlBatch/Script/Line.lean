import KsqlBatch.Text.Blank

/-
  This file says what a single line of a script is. Outside
  of a statement a line is blank, a comment, a directive, or
  the beginning of a statement.

  Key definitions include:
    * `trimLine`
    * `LineKind`
    * `classify`
    * `endsStatement`
-/

------------------------------------------------------------
-- Trimming
------------------------------------------------------------

namespace KsqlBatch

namespace Script

/-
  A line without the blanks and control characters around
  it. Other white space belongs to the line.
-/
def trimLine
    (line : String) : String :=
  Text.stripString Text.isControlOrSpace line

end Script

end KsqlBatch

------------------------------------------------------------
-- Kinds
------------------------------------------------------------

namespace KsqlBatch

namespace Script

/- What a line is when no statement is open. -/
inductive LineKind where
| blank
| comment
| directive
| text
deriving DecidableEq, Repr, Inhabited

/- The kind of a line, by its first characters. -/
def classifyChars :
    List Char → LineKind
| [] => .blank
| '-' :: '-' :: _ => .comment
| 'S' :: 'E' :: 'T' :: _ => .directive
| _ => .text

/- The kind of a trimmed line. -/
def classify
    (line : String) : LineKind :=
  classifyChars line.toList

/- A trimmed line ends a statement. -/
def endsStatement
    (line : String) : Bool :=
  line.toList.getLast? == some ';'

end Script

end KsqlBatch
