/-
  This file cuts a text into lines. A line ends at a line
  feed, at a carriage return, or at a carriage return and
  line feed together, and the end of the text ends a last
  line that is not empty. The terminators belong to no line.

  Key definitions include:
    * `addToLines`
    * `splitLines`
    * `lines`
-/

------------------------------------------------------------
-- Splitting
------------------------------------------------------------

namespace KsqlBatch

namespace Text

/-
  Put one character in front of a text whose first character
  and whose lines are known. A carriage return in front of a
  line feed starts no line of its own.
-/
def addToLines
    (c : Char)
    (rest : Option Char × List (List Char)) :
    Option Char × List (List Char) :=
  (some c,
    if c = '\n' then [] :: rest.2
    else if c = '\r' then
      if rest.1 = some '\n' then rest.2 else [] :: rest.2
    else
      match rest.2 with
      | [] => [[c]]
      | line :: later => (c :: line) :: later)

/- The lines of a text, without their terminators. -/
def splitLines
    (cs : List Char) : List (List Char) :=
  (cs.foldr addToLines (none, [])).2

/- The lines of a string, without their terminators. -/
def lines
    (text : String) : List String :=
  (splitLines text.toList).map String.ofList

end Text

end KsqlBatch

------------------------------------------------------------
-- Equations
------------------------------------------------------------

namespace KsqlBatch

namespace Text

/- The fold that splits a text also knows its first character. -/
theorem foldr_addToLines
    (cs : List Char) :
    cs.foldr addToLines (none, []) =
      (cs.head?, splitLines cs) := by
  cases cs with
  | nil => rfl
  | cons c cs => rfl

@[simp] theorem splitLines_nil :
    splitLines [] = [] := rfl

theorem splitLines_cons
    (c : Char)
    (cs : List Char) :
    splitLines (c :: cs) =
      (addToLines c (cs.head?, splitLines cs)).2 := by
  rw [splitLines, List.foldr_cons, foldr_addToLines]

@[simp] theorem splitLines_lineFeed
    (cs : List Char) :
    splitLines ('\n' :: cs) = [] :: splitLines cs := by
  simp [splitLines_cons, addToLines]

@[simp] theorem splitLines_carriageReturn_lineFeed
    (cs : List Char) :
    splitLines ('\r' :: '\n' :: cs) =
      [] :: splitLines cs := by
  simp [splitLines_cons, addToLines]

end Text

end KsqlBatch
