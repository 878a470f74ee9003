import KsqlBatch.Text.Lines

/-
  This file reads the lines of a text one by one and counts
  them.

  Key definitions include:
    * `LineCursor`
    * `LineCursor.ofText`
    * `LineCursor.nextLine?`
-/

------------------------------------------------------------
-- Cursors
------------------------------------------------------------

namespace KsqlBatch

/- The lines to come and the number of those that were read. -/
structure LineCursor where
  pending : List String
  lineNumber : Nat
deriving DecidableEq, Repr, Inhabited

namespace LineCursor

/- The cursor in front of a text. -/
def ofText
    (text : String) : LineCursor where
  pending := Text.lines text
  lineNumber := 0

/- The next line, and the cursor behind it. -/
def nextLine?
    (cursor : LineCursor) : Option (String × LineCursor) :=
  match cursor.pending with
  | [] => none
  | line :: pending =>
      some (line,
        { pending, lineNumber := cursor.lineNumber + 1 })

end LineCursor

end KsqlBatch
