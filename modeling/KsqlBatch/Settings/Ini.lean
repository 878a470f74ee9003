import KsqlBatch.Text.Blank
import KsqlBatch.Text.Digits
import KsqlBatch.Text.Quoted

/-
  This file reads properties texts: keys with values, in
  sections or in front of all sections. A comment takes a
  whole line. A key reaches up to a sign, a value up to the
  end of its line unless it stands in quotes. A backslash
  escapes.

  Key definitions include:
    * `Ini.Region`
    * `Ini.Fault`
    * `Ini.readUntil`
    * `Ini.readValue`
    * `Ini.readItems`
    * `Ini.parse`
    * `Ini.Fault.message`
-/

------------------------------------------------------------
-- Regions and Faults
------------------------------------------------------------

namespace KsqlBatch

namespace Ini

/- The parts of a text that have an end of their own. -/
inductive Region where
| sectionName
| key
| lineTail
| quoted (mark : Char)
deriving DecidableEq, Repr, Inhabited

/- The characters at which a part ends. -/
def Region.ends : Region → List Char
| .sectionName => [']']
| .key => ['=', ':']
| .lineTail => ['\n', '\r']
| .quoted mark => [mark]

/- The part may also reach up to the end of the text. -/
def Region.mayReachEnd : Region → Bool
| .lineTail => true
| _ => false

/- What is wrong with a text. -/
inductive FaultKind where
| inlineComment
| missingKey
| endOfText (region : Region)
| unknownCode
| brokenCode (found : Option Char)
deriving DecidableEq, Repr, Inhabited

/-
  A fault and where it is: the text from the character at
  fault on.
-/
structure Fault where
  kind : FaultKind
  unread : List Char
deriving DecidableEq, Repr, Inhabited

/- A character that may be missing, in words. -/
def describeChar
    (c : Option Char) : String :=
  Text.describeOption (c.map Text.quotedChar)

/- The ends of a part, in words. -/
def Region.describe
    (region : Region) : String :=
  let ends := region.ends.map some ++
    (if region.mayReachEnd then [none] else [])
  "[" ++ ", ".intercalate (ends.map describeChar) ++ "]"

/- The wording of a fault. -/
def FaultKind.message : FaultKind → String
| .inlineComment => "doesn't support inline comment"
| .missingKey => "missing key"
| .endOfText region =>
    "expecting \"" ++ region.describe ++
      "\" but found EOF."
| .unknownCode => "unknown character in \\xHH form"
| .brokenCode found =>
    "expecting \"\\\\n\" but found \"" ++
      describeChar found ++ "\"."

/-
  The number of the last line of a text, and the number of
  characters in it.
-/
def placeAfter
    (line column : Nat) :
    List Char → Nat × Nat
| [] => (line, column)
| c :: cs =>
    if c = '\n' then placeAfter (line + 1) 0 cs
    else placeAfter line (column + 1) cs

/-
  The wording of a fault with its place: the line, from one,
  and one more than the characters of the line that have
  been read.
-/
def Fault.message
    (fault : Fault)
    (text : List Char) : String :=
  let read := text.length - (fault.unread.length - 1)
  let place := placeAfter 1 0 (text.take read)
  toString place.1 ++ ":" ++ toString (place.2 + 1) ++ " " ++
    fault.kind.message

end Ini

end KsqlBatch

------------------------------------------------------------
-- Escapes
------------------------------------------------------------

namespace KsqlBatch

namespace Ini

/- The character that a short escape stands for. -/
def shortEscape
    (c : Char) : Char :=
  if c = '0' then Char.ofNat 0
  else if c = 'a' then Char.ofNat 7
  else if c = 'b' then Char.ofNat 8
  else if c = 't' then '\t'
  else if c = 'r' then '\r'
  else if c = 'n' then '\n'
  else c

/- The number that hexadecimal digits stand for. -/
def hexNumber?
    (digits : List Char) : Option Nat :=
  digits.foldl
    (fun number c => do
      return (← number) * 0x10 + (← Text.hexValue? c))
    (some 0)

/-
  The character of a code of four characters. The first one
  may be a plus sign.
-/
def codeChar?
    (code : List Char) : Option Char := do
  let digits :=
    match code with
    | '+' :: rest => rest
    | _ => code
  let number ← hexNumber? digits
  if h : number.isValidChar then
    return Char.ofNatAux number h
  else none

/-
  The fault of a code that is too short or that contains a
  backslash. A backslash in it has to stand in front of a
  line feed.
-/
def codeFault
    (region : Region) :
    (expected : Nat) → List Char → Fault
| _, [] =>
    { kind := .endOfText region, unread := [] }
| 0, cs => { kind := .unknownCode, unread := cs }
| expected + 1, '\\' :: '\n' :: cs =>
    if expected = 0 then
      { kind := .unknownCode, unread := '\n' :: cs }
    else codeFault region expected cs
| _, '\\' :: cs =>
    { kind := .brokenCode cs.head?, unread := cs }
| expected + 1, c :: cs =>
    if expected = 0 then
      { kind := .unknownCode, unread := c :: cs }
    else codeFault region expected cs

end Ini

end KsqlBatch

------------------------------------------------------------
-- Parts
------------------------------------------------------------

namespace KsqlBatch

namespace Ini

/-
  Read a part up to the character that ends it, which stays
  unread. What has been read is kept in reverse order.
-/
def readUntil
    (region : Region)
    (before : List Char) :
    List Char → Except Fault (List Char × List Char)
| [] =>
    if region.mayReachEnd then .ok (before.reverse, [])
    else
      .error { kind := .endOfText region, unread := [] }
| ['\\'] =>
    .error { kind := .endOfText region, unread := [] }
| '\\' :: 'x' :: p :: q :: r :: s :: cs =>
    if [p, q, r, s].contains '\\' then
      .error (codeFault region 4 (p :: q :: r :: s :: cs))
    else
      match codeChar? [p, q, r, s] with
      | some c => readUntil region (c :: before) cs
      | none =>
          .error { kind := .unknownCode, unread := s :: cs }
| '\\' :: 'x' :: short =>
    .error (codeFault region 4 short)
| '\\' :: '\n' :: cs => readUntil region before cs
| '\\' :: c :: cs =>
    readUntil region (shortEscape c :: before) cs
| c :: cs =>
    if region.ends.contains c then
      .ok (before.reverse, c :: cs)
    else readUntil region (c :: before) cs

/- A blank that does not end the line. -/
def isBlankInLine
    (c : Char) : Bool :=
  Text.isWhiteSpace c && c != '\n' && c != '\r'

/- Read a value, after the sign. -/
def readValue
    (cs : List Char) :
    Except Fault (List Char × List Char) :=
  match cs.dropWhile isBlankInLine with
  | [] => .ok ([], [])
  | c :: rest =>
      if c = '"' ∨ c = '\'' then do
        let (inner, rest) ← readUntil (.quoted c) [] rest
        let (tail, rest) ←
          readUntil .lineTail [] (rest.drop 1)
        return (Text.strip Text.isWhiteSpace (inner ++ tail),
          rest)
      else do
        let (value, rest) ← readUntil .lineTail [] (c :: rest)
        return (Text.strip Text.isWhiteSpace value, rest)

end Ini

end KsqlBatch

------------------------------------------------------------
-- Texts
------------------------------------------------------------

namespace KsqlBatch

namespace Ini

/- What a text says, in order. -/
inductive Item where
| beginSection (name : String)
| pair (key value : String)
deriving DecidableEq, Repr, Inhabited

/-
  Skip white space. The flag says whether a line begins at
  the text, and comes back for the text that is left.
-/
def skipBlanks
    (lineBegins : Bool) :
    List Char → Bool × List Char
| [] => (lineBegins, [])
| c :: cs =>
    if Text.isWhiteSpace c then skipBlanks (c == '\n') cs
    else (lineBegins, c :: cs)

/- The text after the current line. -/
def afterLine :
    List Char → List Char
| [] => []
| c :: cs => if c = '\n' then cs else afterLine cs

/- Read a section name, after its bracket. -/
def readSection
    (cs : List Char) :
    Except Fault (Item × List Char) := do
  let (name, rest) ← readUntil .sectionName [] cs
  let name := Text.strip Text.isWhiteSpace name
  return (.beginSection (String.ofList name), rest.drop 1)

/- Read a key and its value. -/
def readPair
    (cs : List Char) :
    Except Fault (Item × List Char) := do
  let (key, rest) ← readUntil .key [] cs
  let key := Text.strip Text.isWhiteSpace key
  if key = [] then
    .error { kind := .missingKey, unread := rest }
  else
    let (value, rest) ← readValue (rest.drop 1)
    return (.pair (String.ofList key) (String.ofList value),
      rest)

/- Read items to the end of the text. -/
def readItems
    (lineBegins : Bool)
    (itemsRev : List Item)
    (cs : List Char) :
    (fuel : Nat) → Except Fault (List Item)
| 0 => .ok itemsRev.reverse
| fuel + 1 =>
    match skipBlanks lineBegins cs with
    | (_, []) => .ok itemsRev.reverse
    | (lineBegins, c :: rest) =>
        if c = ';' ∨ c = '#' then
          if lineBegins then
            readItems true itemsRev (afterLine rest) fuel
          else
            .error
              { kind := .inlineComment, unread := c :: rest }
        else if c = '=' ∨ c = ':' then
          .error { kind := .missingKey, unread := c :: rest }
        else
          let read :=
            if c = '[' then readSection rest
            else readPair (c :: rest)
          match read with
          | .error fault => .error fault
          | .ok (item, rest) =>
              readItems false (item :: itemsRev) rest fuel

/- The items of a text. Each takes at least one character. -/
def parse
    (cs : List Char) : Except Fault (List Item) :=
  readItems true [] cs (cs.length + 1)

end Ini

end KsqlBatch

------------------------------------------------------------
-- Sections
------------------------------------------------------------

namespace KsqlBatch

namespace Ini

/-
  The pairs in front of all sections, and those of each
  section, all in order.
-/
structure Document where
  general : List (String × String)
  sections : List (String × List (String × String))
deriving DecidableEq, Repr, Inhabited

/-
  The pairs in front of the next section, and the sections
  that follow.
-/
def Document.ofItems :
    List Item → Document
| [] => { general := [], sections := [] }
| .pair key value :: items =>
    let later := ofItems items
    { later with general := (key, value) :: later.general }
| .beginSection name :: items =>
    let later := ofItems items
    { general := []
      sections := (name, later.general) :: later.sections }

/- The content of a text, or the wording of its fault. -/
def read
    (text : String) : Except String Document :=
  match parse text.toList with
  | .error fault => .error (fault.message text.toList)
  | .ok items => .ok (Document.ofItems items)

end Ini

end KsqlBatch
