import KsqlBatch.Decimal.Shortest
import KsqlBatch.Json.Value
import KsqlBatch.Text.Digits

/-
  This file writes JSON values without any blanks. In a
  string the quote, the backslash and the characters below
  the space are escaped, everything else stands for itself.

  Key definitions include:
    * `Json.escape`
    * `Json.quote`
    * `Json.Number.render`
    * `Json.pieces`
    * `Json.render`
-/

------------------------------------------------------------
-- Strings
------------------------------------------------------------

namespace KsqlBatch

namespace Json

/- One character inside a JSON string. -/
def escape
    (c : Char) : List Char :=
  if c = '"' then ['\\', '"']
  else if c = '\\' then ['\\', '\\']
  else if c = '\n' then ['\\', 'n']
  else if c = '\r' then ['\\', 'r']
  else if c = '\t' then ['\\', 't']
  else if c.toNat = 8 then ['\\', 'b']
  else if c.toNat = 12 then ['\\', 'f']
  else if c.toNat < 0x20 then
    ['\\', 'u', '0', '0',
      Text.hexDigit (c.toNat / 16),
      Text.hexDigit (c.toNat % 16)]
  else [c]

/- The characters of a JSON string, without its quotes. -/
def escapeAll
    (cs : List Char) : List Char :=
  cs.flatMap escape

/- A string as JSON text. -/
def quote
    (s : String) : String :=
  String.ofList ('"' :: (escapeAll s.toList ++ ['"']))

end Json

end KsqlBatch

------------------------------------------------------------
-- Values
------------------------------------------------------------

namespace KsqlBatch

namespace Json

/- A number as JSON text. -/
def Number.render : Number → String
| .integer n => toString n
| .real x => x.scientificText

mutual

/- The pieces of the JSON text of a value, in order. -/
def pieces : Json → List String
| .null => ["null"]
| .bool true => ["true"]
| .bool false => ["false"]
| .number n => [n.render]
| .string s => [quote s]
| .array elements => "[" :: elementPieces elements
| .object members => "\x7b" :: memberPieces members

/- The pieces of the rest of an array. -/
def elementPieces : List Json → List String
| [] => ["]"]
| element :: rest => pieces element ++ laterElements rest

/- The pieces of an array after one of its elements. -/
def laterElements : List Json → List String
| [] => ["]"]
| element :: rest =>
    "," :: (pieces element ++ laterElements rest)

/- The pieces of the rest of an object. -/
def memberPieces : List (String × Json) → List String
| [] => ["\x7d"]
| (name, value) :: rest =>
    quote name :: ":" :: (pieces value ++ laterMembers rest)

/- The pieces of an object after one of its members. -/
def laterMembers : List (String × Json) → List String
| [] => ["\x7d"]
| (name, value) :: rest =>
    "," :: quote name :: ":" ::
      (pieces value ++ laterMembers rest)

end

/- A value as JSON text. -/
def render
    (value : Json) : String :=
  String.join value.pieces

end Json

end KsqlBatch
