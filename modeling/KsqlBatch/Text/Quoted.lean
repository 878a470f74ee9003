import KsqlBatch.Text.Digits
import KsqlBatch.Text.GraphemeExtend
import KsqlBatch.Text.Unprintable

/-
  This file writes text between quotes for diagnostics. The
  quote in use and the backslash are escaped, and so is each
  character that would not show as itself.

  Key definitions include:
    * `quotedChar`
    * `quoted`
    * `describeOption`
-/

------------------------------------------------------------
-- Quoting
------------------------------------------------------------

namespace KsqlBatch

namespace Text

/- A character that is printed as it is. -/
def isShown
    (c : Char) : Bool :=
  if c.toNat < 0x7F then 0x20 ≤ c.toNat
  else !isGraphemeExtend c && !isUnprintable c

/- A character between quotes of one kind. -/
def escapeIn
    (mark c : Char) : List Char :=
  if c = mark then ['\\', mark]
  else if c = '\\' then ['\\', '\\']
  else if c = '\n' then ['\\', 'n']
  else if c = '\r' then ['\\', 'r']
  else if c = '\t' then ['\\', 't']
  else if c.toNat = 0 then ['\\', '0']
  else if isShown c then [c]
  else ['\\', 'u', '\x7b'] ++ hexText c.toNat ++ ['\x7d']

/- A text between quotes of one kind. -/
def quotedWith
    (mark : Char)
    (cs : List Char) : String :=
  String.ofList (mark :: (cs.flatMap (escapeIn mark) ++ [mark]))

/- A character between single quotes. -/
def quotedChar
    (c : Char) : String :=
  quotedWith '\'' [c]

/- A string between double quotes. -/
def quoted
    (s : String) : String :=
  quotedWith '"' s.toList

/- A text that may be absent, in words. -/
def describeOption
    (text : Option String) : String :=
  match text with
  | none => "None"
  | some text => "Some(" ++ text ++ ")"

end Text

end KsqlBatch
