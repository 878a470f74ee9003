import KsqlBatch.Json.Fault
import KsqlBatch.Json.Value
import KsqlBatch.Text.Digits

/-
  This file reads JSON text. Members of an object come out
  in ascending order of their names, and of a name that is
  repeated the last value counts. Arrays and objects may
  nest 127 levels deep.

  Key definitions include:
    * `Json.readString`
    * `Json.readNumber`
    * `Json.readValue`
    * `Json.parse`
    * `Json.read?`
-/

------------------------------------------------------------
-- Strings
------------------------------------------------------------

namespace KsqlBatch

namespace Json

/- The result of reading a part, and the text after it. -/
abbrev Reading (α : Type) :=
  Except Stop (α × List Char)

/- Stop at the next character, which is the one at fault. -/
def stopAt
    {α : Type}
    (fault : Fault)
    (unread : List Char) : Except Stop α :=
  .error { fault, unread, past := 1 }

/- Stop between two characters. -/
def stopBefore
    {α : Type}
    (fault : Fault)
    (unread : List Char) : Except Stop α :=
  .error { fault, unread, past := 0 }

/- The number that four hexadecimal digits stand for. -/
def hexCode?
    (a b c d : Char) : Option Nat := do
  let a ← Text.hexValue? a
  let b ← Text.hexValue? b
  let c ← Text.hexValue? c
  let d ← Text.hexValue? d
  return ((a * 16 + b) * 16 + c) * 16 + d

/- A code that only stands in front of a second one. -/
def isLeadingSurrogate
    (code : Nat) : Bool :=
  0xD800 ≤ code && code ≤ 0xDBFF

/- A code that only stands behind a first one. -/
def isTrailingSurrogate
    (code : Nat) : Bool :=
  0xDC00 ≤ code && code ≤ 0xDFFF

/- The character that two surrogates stand for. -/
def ofSurrogates
    (leading trailing : Nat) : Char :=
  Char.ofNat
    ((leading - 0xD800) * 0x400 + (trailing - 0xDC00) +
      0x10000)

/- The character that a short escape stands for. -/
def shortEscape?
    (c : Char) : Option Char :=
  if c = '"' then some '"'
  else if c = '\\' then some '\\'
  else if c = '/' then some '/'
  else if c = 'b' then some (Char.ofNat 8)
  else if c = 'f' then some (Char.ofNat 12)
  else if c = 'n' then some '\n'
  else if c = 'r' then some '\r'
  else if c = 't' then some '\t'
  else none

/-
  A hexadecimal escape that does not have four digits: too
  short, or with another character among its four bytes.
-/
def badHexEscape
    {α : Type}
    (unread : List Char) : Except Stop α :=
  if byteLength unread < 4 then
    stopBefore .endInString []
  else
    .error { fault := .invalidEscape, unread, past := 4 }

/-
  Read the rest of a string whose opening quote and first
  characters, latest first, have been read.
-/
def readString
    (before : List Char) :
    List Char → Reading String
| [] => stopBefore .endInString []
| '"' :: rest =>
    .ok (String.ofList before.reverse, rest)
| ['\\'] => stopBefore .endInString []
| '\\' :: 'u' :: a :: b :: c :: d :: rest =>
    match hexCode? a b c d with
    | none => badHexEscape (a :: b :: c :: d :: rest)
    | some code =>
        if isTrailingSurrogate code then
          stopBefore .loneSurrogate rest
        else if isLeadingSurrogate code then
          match rest with
          | [] => stopBefore .endInString []
          | ['\\'] => stopBefore .endInString []
          | '\\' :: 'u' :: e :: f :: g :: h :: rest =>
              match hexCode? e f g h with
              | none => badHexEscape (e :: f :: g :: h :: rest)
              | some second =>
                  if isTrailingSurrogate second then
                    readString
                      (ofSurrogates code second :: before) rest
                  else
                    stopBefore .loneSurrogate rest
          | '\\' :: 'u' :: short => badHexEscape short
          | '\\' :: other => stopAt .endOfHexEscape other
          | other => stopAt .endOfHexEscape other
        else
          readString (Char.ofNat code :: before) rest
| '\\' :: 'u' :: short => badHexEscape short
| '\\' :: c :: rest =>
    match shortEscape? c with
    | some escaped => readString (escaped :: before) rest
    | none => stopAt .invalidEscape (c :: rest)
| c :: rest =>
    if c.toNat < 0x20 then
      stopAt .controlCharacter (c :: rest)
    else
      readString (c :: before) rest

end Json

end KsqlBatch

------------------------------------------------------------
-- Numbers
------------------------------------------------------------

namespace KsqlBatch

namespace Json

/- The greatest significand that is kept exactly. -/
def significandLimit : Nat :=
  0xFFFFFFFFFFFFFFFF

/-
  The exponents of ten beyond which a number that is not
  zero has no double, or is far below the least one.
-/
def exponentLimit : Nat :=
  0x7FFFFFFF

/-
  A significand divided by a power of ten, in steps of at
  most `10 ^ 308`, each step rounded.
-/
def divideByTen
    (fuel : Nat)
    (x : Binary64)
    (exponent : Nat) : Option Binary64 :=
  match fuel with
  | 0 => some x
  | fuel + 1 =>
      if exponent ≤ 308 then do
        x.div? (← Binary64.powerOfTen? exponent)
      else if x.isZero then some x
      else do
        divideByTen fuel
          (← x.div? (← Binary64.powerOfTen? 308))
          (exponent - 308)

/-
  A significand times a power of ten. The significand and
  the power are rounded to doubles before they are
  multiplied, and the result is rounded again.
-/
def scaleReal?
    (negative : Bool)
    (significand : Nat)
    (exponent : Int) : Option Binary64 := do
  let x ← Binary64.ofNat? significand
  let magnitude ←
    if exponent < 0 then
      divideByTen 8 x (-exponent).toNat
    else if exponent ≤ 308 then do
      x.mul? (← Binary64.powerOfTen? exponent.toNat)
    else if x.isZero then some x
    else none
  return magnitude.withSign negative

/- The double of a number whose text ends here. -/
def finishReal
    (negative : Bool)
    (significand : Nat)
    (exponent : Int)
    (rest : List Char) : Reading Number :=
  match scaleReal? negative significand exponent with
  | some x => .ok (.real x, rest)
  | none => stopBefore .numberOutOfRange rest

/- The digits at the front of a text, and what follows. -/
def digitsOf
    (cs : List Char) : List Char × List Char :=
  cs.span Text.isDecimalDigit

/-
  The significand that digits extend another one to, how
  many of them it takes, and the digits it has no room for.
-/
def extendSignificand
    (significand taken : Nat) :
    List Char → Nat × Nat × List Char
| [] => (significand, taken, [])
| c :: cs =>
    let longer := significand * 10 + Text.decimalValue c
    if significandLimit < longer then
      (significand, taken, c :: cs)
    else
      extendSignificand longer (taken + 1) cs

/-
  The exponent that digits spell, or nothing when it grows
  too large; then the digits after the one too many.
-/
def readExponentDigits
    (exponent : Nat) :
    List Char → Nat ⊕ List Char
| [] => .inl exponent
| c :: cs =>
    let longer := exponent * 10 + Text.decimalValue c
    if exponentLimit < longer then .inr cs
    else readExponentDigits longer cs

/- Read the exponent of a number, after its `e`. -/
def readExponent
    (negative : Bool)
    (significand : Nat)
    (exponent : Int)
    (cs : List Char) : Reading Number :=
  let (down, unsigned) :=
    match cs with
    | '+' :: rest => (false, rest)
    | '-' :: rest => (true, rest)
    | _ => (false, cs)
  match digitsOf unsigned with
  | ([], []) => stopBefore .endInValue []
  | ([], other) => stopAt .invalidNumber other
  | (digits, rest) =>
      match readExponentDigits 0 digits with
      | .inl n =>
          finishReal negative significand
            (if down then exponent - n else exponent + n)
            rest
      | .inr later =>
          if significand ≠ 0 ∧ ¬ down then
            stopBefore .numberOutOfRange (later ++ rest)
          else .ok (.real (Binary64.zero negative), rest)

/- Read what may follow the digits of a double. -/
def readTail
    (negative : Bool)
    (significand : Nat)
    (exponent : Int)
    (cs : List Char) : Reading Number :=
  match cs with
  | 'e' :: rest =>
      readExponent negative significand exponent rest
  | 'E' :: rest =>
      readExponent negative significand exponent rest
  | _ => finishReal negative significand exponent cs

/- Read the digits after a decimal point. -/
def readFraction
    (negative : Bool)
    (significand : Nat)
    (exponent : Int)
    (cs : List Char) : Reading Number :=
  match digitsOf cs with
  | ([], []) => stopBefore .endInValue []
  | ([], other) => stopAt .invalidNumber other
  | (digits, rest) =>
      let (longer, taken, _) :=
        extendSignificand significand 0 digits
      readTail negative longer (exponent - taken) rest

/- Read what may follow the digits of an integer. -/
def readIntegerTail
    (negative : Bool)
    (significand : Nat)
    (cs : List Char) : Reading Number :=
  match cs with
  | '.' :: rest => readFraction negative significand 0 rest
  | 'e' :: rest => readExponent negative significand 0 rest
  | 'E' :: rest => readExponent negative significand 0 rest
  | _ =>
      if ¬ negative then
        .ok (.integer significand, cs)
      else if significand = 0 ∨
          0x8000000000000000 < significand then
        finishReal true significand 0 cs
      else
        .ok (.integer (-significand), cs)

/- Read a number after its sign. -/
def readUnsigned
    (negative : Bool)
    (cs : List Char) : Reading Number :=
  match cs with
  | [] => stopBefore .endInValue []
  | '0' :: rest =>
      match rest with
      | c :: _ =>
          if Text.isDecimalDigit c then
            stopAt .invalidNumber rest
          else readIntegerTail negative 0 rest
      | [] => readIntegerTail negative 0 []
  | _ =>
      match digitsOf cs with
      | ([], other) => stopAt .invalidNumber other
      | (digits, rest) =>
          match extendSignificand 0 0 digits with
          | (significand, _, []) =>
              readIntegerTail negative significand rest
          | (significand, _, more) =>
              match rest with
              | '.' :: rest =>
                  readFraction negative significand
                    more.length rest
              | _ =>
                  readTail negative significand
                    more.length rest

/- Read a number. -/
def readNumber
    (cs : List Char) : Reading Number :=
  match cs with
  | '-' :: rest => readUnsigned true rest
  | _ => readUnsigned false cs

end Json

end KsqlBatch

------------------------------------------------------------
-- Values
------------------------------------------------------------

namespace KsqlBatch

namespace Json

/- The characters that may stand between tokens. -/
def isBlank
    (c : Char) : Bool :=
  c == ' ' || c == '\t' || c == '\n' || c == '\r'

/- The text without the blanks in front of it. -/
def skipBlanks
    (cs : List Char) : List Char :=
  cs.dropWhile isBlank

/- Read the remaining letters of a literal. -/
def readLiteral
    (value : Json) :
    List Char → List Char → Reading Json
| [], cs => .ok (value, cs)
| _ :: _, [] => stopBefore .endInValue []
| letter :: letters, c :: cs =>
    if c = letter then readLiteral value letters cs
    else stopAt .expectedLiteral (c :: cs)

mutual

/-
  Read a value. The room is the number of levels that may
  still be opened, the fuel bounds the calls.
-/
def readValue
    (fuel room : Nat)
    (cs : List Char) : Reading Json :=
  match fuel with
  | 0 => stopBefore .endInValue cs
  | fuel + 1 =>
      match skipBlanks cs with
      | [] => stopBefore .endInValue []
      | 'n' :: rest => readLiteral .null ['u', 'l', 'l'] rest
      | 't' :: rest =>
          readLiteral (.bool true) ['r', 'u', 'e'] rest
      | 'f' :: rest =>
          readLiteral (.bool false) ['a', 'l', 's', 'e'] rest
      | '"' :: rest =>
          (readString [] rest).map fun r => (.string r.1, r.2)
      | '[' :: rest =>
          match room with
          | 0 => stopAt .tooDeep ('[' :: rest)
          | room + 1 => readElements fuel room true [] rest
      | '\x7b' :: rest =>
          match room with
          | 0 => stopAt .tooDeep ('\x7b' :: rest)
          | room + 1 => readMembers fuel room true [] rest
      | c :: rest =>
          if c == '-' || Text.isDecimalDigit c then
            (readNumber (c :: rest)).map fun r =>
              (.number r.1, r.2)
          else stopAt .expectedValue (c :: rest)
termination_by structural fuel

/- Read the elements of an array; the latest come first. -/
def readElements
    (fuel room : Nat)
    (first : Bool)
    (before : List Json)
    (cs : List Char) : Reading Json :=
  match fuel with
  | 0 => stopBefore .endInArray cs
  | fuel + 1 =>
      match skipBlanks cs with
      | [] => stopBefore .endInArray []
      | ']' :: rest => .ok (.array before.reverse, rest)
      | c :: rest =>
          if first then
            readElement fuel room before (c :: rest)
          else if c = ',' then
            match skipBlanks rest with
            | [] => stopBefore .endInValue []
            | ']' :: rest => stopAt .trailingComma (']' :: rest)
            | next => readElement fuel room before next
          else stopAt .expectedCommaOrBracket (c :: rest)
termination_by structural fuel

/- Read an element, and then the remaining ones. -/
def readElement
    (fuel room : Nat)
    (before : List Json)
    (cs : List Char) : Reading Json :=
  match fuel with
  | 0 => stopBefore .endInArray cs
  | fuel + 1 =>
      match readValue fuel room cs with
      | .error stop => .error stop
      | .ok (value, rest) =>
          readElements fuel room false (value :: before) rest
termination_by structural fuel

/- Read the members of an object. -/
def readMembers
    (fuel room : Nat)
    (first : Bool)
    (before : List (String × Json))
    (cs : List Char) : Reading Json :=
  match fuel with
  | 0 => stopBefore .endInObject cs
  | fuel + 1 =>
      match skipBlanks cs with
      | [] => stopBefore .endInObject []
      | '\x7d' :: rest => .ok (.object before, rest)
      | c :: rest =>
          if first then
            if c = '"' then
              readMember fuel room before rest
            else stopAt .keyNotString (c :: rest)
          else if c = ',' then
            match skipBlanks rest with
            | [] => stopBefore .endInValue []
            | '"' :: rest => readMember fuel room before rest
            | '\x7d' :: rest =>
                stopAt .trailingComma ('\x7d' :: rest)
            | other => stopAt .keyNotString other
          else stopAt .expectedCommaOrBrace (c :: rest)
termination_by structural fuel

/-
  Read a member, after the quote that opens its name, and
  then the remaining ones.
-/
def readMember
    (fuel room : Nat)
    (before : List (String × Json))
    (cs : List Char) : Reading Json :=
  match fuel with
  | 0 => stopBefore .endInObject cs
  | fuel + 1 =>
      match readString [] cs with
      | .error stop => .error stop
      | .ok (name, rest) =>
          match skipBlanks rest with
          | [] => stopBefore .endInObject []
          | ':' :: rest =>
              match readValue fuel room rest with
              | .error stop => .error stop
              | .ok (value, rest) =>
                  readMembers fuel room false
                    (Keyed.insert name value before) rest
          | other => stopAt .expectedColon other
termination_by structural fuel

end

/-
  The calls that reading a text can take: at most two for
  each character in front of a value or an element, and a
  few at the end.
-/
def readingFuel
    (cs : List Char) : Nat :=
  3 * cs.length + 3

/- Read one value and nothing but blanks after it. -/
def parse
    (cs : List Char) : Except Stop Json :=
  match readValue (readingFuel cs) 127 cs with
  | .error stop => .error stop
  | .ok (value, rest) =>
      match skipBlanks rest with
      | [] => .ok value
      | other => stopAt .trailingCharacters other

/- The value of a JSON text, or the wording of its fault. -/
def read
    (text : String) : Except String Json :=
  (parse text.toList).mapError (·.message text.toList)

/- The value of a JSON text, if it is one. -/
def read?
    (text : String) : Option Json :=
  (parse text.toList).toOption

end Json

end KsqlBatch
