import KsqlBatch.Text.Blank

/-
  This file reads directives, which have the form
  `SET 'key' = 'value';`. A directive may stand anywhere in a
  line. The leftmost one counts, its key reaches as far as
  possible, and then so does its value. Neither of them may
  contain a line feed.

  Key definitions include:
    * `Directive`
    * `longestQuoted?`
    * `closesDirective`
    * `assignment?`
    * `Directive.parse?`
-/

------------------------------------------------------------
-- Quoted Texts
------------------------------------------------------------

namespace KsqlBatch

namespace Script

/-
  Read a text up to a closing quote, after the opening one.
  The text may contain quotes: of all quotes that are
  followed by something acceptable the last one closes. The
  result of what follows is given back too.
-/
def longestQuoted?
    {α : Type}
    (accept? : List Char → Option α) :
    List Char → Option (List Char × α)
| [] => none
| c :: cs =>
    if c = '\n' then none
    else
      match longestQuoted? accept? cs with
      | some (inner, result) => some (c :: inner, result)
      | none =>
          if c = '\'' then
            (accept? cs).map fun result => ([], result)
          else none

end Script

end KsqlBatch

------------------------------------------------------------
-- Directives
------------------------------------------------------------

namespace KsqlBatch

namespace Script

/- A session property and its value. -/
structure Directive where
  key : String
  value : String
deriving DecidableEq, Repr, Inhabited

/- What follows white space, if that is a given character. -/
def afterBlanks?
    (expected : Char)
    (cs : List Char) : Option (List Char) :=
  match cs.dropWhile Text.isWhiteSpace with
  | [] => none
  | c :: rest => if c = expected then some rest else none

/- What follows the value is the end of the directive. -/
def closesDirective
    (cs : List Char) : Option Unit :=
  (afterBlanks? ';' cs).map fun _ => ()

/- Read a value and the end, after the opening quote. -/
def valueOf?
    (cs : List Char) : Option (List Char) :=
  (longestQuoted? closesDirective cs).map (·.1)

/- Read the sign and the value, after the closing quote. -/
def valueAfterSign?
    (cs : List Char) : Option (List Char) :=
  (afterBlanks? '=' cs).bind fun rest =>
    (afterBlanks? '\'' rest).bind valueOf?

/- Read key and value, after the quote that opens the key. -/
def assignment?
    (cs : List Char) : Option (List Char × List Char) :=
  longestQuoted? valueAfterSign? cs

/- What follows the opening of a directive. -/
def afterOpening? :
    List Char → Option (List Char)
| 'S' :: 'E' :: 'T' :: ' ' :: '\'' :: rest => some rest
| _ => none

/- The leftmost directive in a text. -/
def findAssignment? :
    List Char → Option (List Char × List Char)
| [] => none
| c :: cs =>
    match (afterOpening? (c :: cs)).bind assignment? with
    | some found => some found
    | none => findAssignment? cs

/- The directive in a line. -/
def Directive.parse?
    (line : String) : Option Directive :=
  (findAssignment? line.toList).map fun (key, value) =>
    { key := String.ofList key,
      value := String.ofList value }

end Script

end KsqlBatch
