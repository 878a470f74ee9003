import KsqlBatch.Text.Digits
import KsqlBatch.Text.Lowercase

/-
  This file reads the paths under which settings are kept:
  names between dots, and numbers in brackets for elements
  of lists. Case does not matter in names.

  Key definitions include:
    * `KeyStep`
    * `KeyPath`
    * `KeyFault`
    * `KeyPath.parse`
    * `KeyPath.ofText`
-/

------------------------------------------------------------
-- Paths
------------------------------------------------------------

namespace KsqlBatch

/- One step of a path. -/
inductive KeyStep where
| name (name : String)
| index (number : Int)
deriving DecidableEq, Repr, Inhabited

/- A path: a name and the steps after it. -/
structure KeyPath where
  first : String
  steps : List KeyStep
deriving DecidableEq, Repr, Inhabited

/- Why a text is no path. -/
inductive KeyFault where
| noName
| noDigits
| badStep
| indexRange
deriving DecidableEq, Repr, Inhabited

/- The wording of a fault. -/
def KeyFault.message : KeyFault → String
| .noName => "IsA"
| .noDigits => "Digit"
| .badStep => "Char"
| .indexRange => "Map on Result"

end KsqlBatch

------------------------------------------------------------
-- Reading Paths
------------------------------------------------------------

namespace KsqlBatch

namespace KeyPath

/- A character of a name. -/
def isNameChar
    (c : Char) : Bool :=
  let n := c.toNat
  (0x61 ≤ n && n ≤ 0x7A) || (0x41 ≤ n && n ≤ 0x5A) ||
    (0x30 ≤ n && n ≤ 0x39) ||
    c == ' ' || c == '_' || c == '-'

/- A name in lower case. -/
def nameOf
    (cs : List Char) : String :=
  Text.lowercase (String.ofList cs)

/- A blank inside brackets. -/
def isBlank
    (c : Char) : Bool :=
  c == ' ' || c == '\t'

/- The number that decimal digits stand for. -/
def decimalNumber
    (digits : List Char) : Nat :=
  digits.foldl
    (fun number c => number * 10 + Text.decimalValue c) 0

/- The first number that is too large for an index. -/
def indexLimit : Int := 0x8000000000000000

/- Read a number in brackets, after the opening one. -/
def readIndex
    (cs : List Char) : Except KeyFault (KeyStep × List Char) :=
  let trimmed := cs.dropWhile isBlank
  let (negative, unsigned) :=
    match trimmed with
    | '-' :: rest => (true, rest)
    | _ => (false, trimmed)
  match unsigned.span Text.isDecimalDigit with
  | ([], _) => .error .noDigits
  | (digits, rest) =>
      let size := decimalNumber digits
      let number : Int := if negative then -size else size
      if number < -indexLimit ∨ indexLimit ≤ number then
        .error .indexRange
      else
        match rest.dropWhile isBlank with
        | ']' :: rest => .ok (.index number, rest)
        | _ => .error .badStep

/- Read one step. -/
def readStep :
    List Char → Except KeyFault (KeyStep × List Char)
| '.' :: cs =>
    match cs.span isNameChar with
    | ([], _) => .error .badStep
    | (name, rest) => .ok (.name (nameOf name), rest)
| '[' :: cs => readIndex cs
| _ => .error .badStep

/- Read steps to the end of a text. -/
def readSteps
    (cs : List Char) :
    (fuel : Nat) → Except KeyFault (List KeyStep)
| 0 => .ok []
| fuel + 1 =>
    match cs with
    | [] => .ok []
    | cs => do
        let (step, rest) ← readStep cs
        return step :: (← readSteps rest fuel)

/- Read a path. Each step takes at least one character. -/
def parse
    (text : String) : Except KeyFault KeyPath :=
  match text.toList.span isNameChar with
  | ([], _) => .error .noName
  | (name, rest) => do
      return {
        first := nameOf name
        steps := ← readSteps rest rest.length }

/- A text as a path, or else as one name. -/
def ofText
    (text : String) : KeyPath :=
  match parse text with
  | .ok path => path
  | .error _ =>
      { first := Text.lowercase text, steps := [] }

end KeyPath

end KsqlBatch
