/-
  This file lists what can be wrong with a JSON text, how
  each fault is worded, and how the place of a fault is
  counted in lines and bytes.

  Key definitions include:
    * `Json.Fault`
    * `Json.Fault.message`
    * `Json.Stop`
    * `Json.Stop.message`
-/

------------------------------------------------------------
-- Faults
------------------------------------------------------------

namespace KsqlBatch

namespace Json

/- What a JSON text may fail with. -/
inductive Fault where
| endInValue
| endInArray
| endInObject
| endInString
| expectedValue
| expectedLiteral
| expectedCommaOrBracket
| expectedCommaOrBrace
| expectedColon
| keyNotString
| trailingComma
| trailingCharacters
| invalidNumber
| numberOutOfRange
| invalidEscape
| endOfHexEscape
| loneSurrogate
| controlCharacter
| tooDeep
deriving DecidableEq, Repr, Inhabited

/- The wording of a fault. -/
def Fault.message : Fault → String
| .endInValue => "EOF while parsing a value"
| .endInArray => "EOF while parsing a list"
| .endInObject => "EOF while parsing an object"
| .endInString => "EOF while parsing a string"
| .expectedValue => "expected value"
| .expectedLiteral => "expected ident"
| .expectedCommaOrBracket => "expected `,` or `]`"
| .expectedCommaOrBrace => "expected `,` or `\x7d`"
| .expectedColon => "expected `:`"
| .keyNotString => "key must be a string"
| .trailingComma => "trailing comma"
| .trailingCharacters => "trailing characters"
| .invalidNumber => "invalid number"
| .numberOutOfRange => "number out of range"
| .invalidEscape => "invalid escape"
| .endOfHexEscape => "unexpected end of hex escape"
| .loneSurrogate =>
    "lone leading surrogate in hex escape"
| .controlCharacter =>
    "control character (\\u0000-\\u001F) found " ++
      "while parsing a string"
| .tooDeep => "recursion limit exceeded"

end Json

end KsqlBatch

------------------------------------------------------------
-- Places
------------------------------------------------------------

namespace KsqlBatch

namespace Json

/-
  Where reading stopped: the text that was still unread, and
  how many bytes of it are counted in.
-/
structure Stop where
  fault : Fault
  unread : List Char
  past : Nat
deriving DecidableEq, Repr, Inhabited

/- The number of bytes of a text in UTF-8. -/
def byteLength
    (cs : List Char) : Nat :=
  cs.foldl (fun n c => n + c.utf8Size) 0

/-
  The line, from one, and the bytes of the current line up
  to a number of bytes.
-/
def placeAfter
    (line column bytes : Nat) :
    List Char → Nat × Nat
| [] => (line, column)
| c :: cs =>
    if bytes = 0 then (line, column)
    else if c = '\n' then
      placeAfter (line + 1) 0 (bytes - 1) cs
    else
      placeAfter line (column + min bytes c.utf8Size)
        (bytes - c.utf8Size) cs

/- The wording of a fault together with its place. -/
def Stop.message
    (stop : Stop)
    (text : List Char) : String :=
  let bytes :=
    byteLength text - byteLength stop.unread + stop.past
  let place := placeAfter 1 0 bytes text
  stop.fault.message ++ s!" at line {place.1}" ++
    s!" column {place.2}"

end Json

end KsqlBatch
