import KsqlBatch.Settings.ConfigFault

/-
  This file converts single values to numbers, truth values
  and texts.

  Key definitions include:
    * `Setting.toUnsigned`
    * `Setting.toPort`
    * `Setting.toBool`
    * `Setting.toText`
-/

------------------------------------------------------------
-- Numbers
------------------------------------------------------------

namespace KsqlBatch

namespace Setting

/- A mismatch at a value. -/
def mismatch
    {α : Type}
    (found : Found)
    (expected : String)
    (origin : Option String) : Except Mismatch α :=
  .error { found, expected, place := [], origin }

/- The greatest port number. -/
def portLimit : Nat :=
  0xFFFF

/- The words for a truth value that also serve as numbers. -/
def wordValue?
    (text : String) : Option Bool :=
  let word := Text.lowercase text
  if word = "true" ∨ word = "on" ∨ word = "yes" then some true
  else if word = "false" ∨ word = "off" ∨ word = "no" then
    some false
  else none

/-
  The number of a text of decimal digits, which a plus sign
  may precede.
-/
def decimal?
    (text : String) : Option Nat :=
  let digits :=
    match text.toList with
    | '+' :: rest => rest
    | cs => cs
  if digits ≠ [] ∧ digits.all Text.isDecimalDigit then
    let number := KeyPath.decimalNumber digits
    if number ≤ unsignedLimit then some number else none
  else none

/- A value as a number of 64 bits that is not negative. -/
def toUnsigned
    (setting : Setting) : Except Mismatch Nat :=
  let expected := "an integer"
  let limited := "an unsigned 64 bit or less integer"
  match setting with
  | .table origin _ => mismatch .table expected origin
  | .list _ => mismatch .list expected none
  | .scalar origin value =>
      match value with
      | .nil => mismatch .nothing expected origin
      | .bool b => .ok b.toNat
      | .unsigned n =>
          if unsignedLimit < n then
            mismatch (.unsigned n) limited origin
          else .ok n
      | .signed n =>
          if n < 0 ∨ unsignedLimit < n.toNat then
            mismatch (.signed n) limited origin
          else .ok n.toNat
      | .real x => .ok (min x.roundToNat unsignedLimit)
      | .text s =>
          match wordValue? s with
          | some b => .ok b.toNat
          | none =>
              match decimal? s with
              | some n => .ok n
              | none => mismatch (.text s) expected origin

/- A value as a port number. -/
def toPort
    (setting : Setting) : Except Mismatch Nat :=
  match setting.toUnsigned with
  | .error mismatch => .error mismatch
  | .ok n =>
      if n ≤ portLimit then .ok n
      else
        mismatch (.unsigned n)
          "an unsigned 16 bit integer" none

end Setting

end KsqlBatch

------------------------------------------------------------
-- Truth Values and Texts
------------------------------------------------------------

namespace KsqlBatch

namespace Setting

/- A value as a truth value. -/
def toBool
    (setting : Setting) : Except Mismatch Bool :=
  let expected := "a boolean"
  match setting with
  | .table origin _ => mismatch .table expected origin
  | .list _ => mismatch .list expected none
  | .scalar origin value =>
      match value with
      | .nil => mismatch .nothing expected origin
      | .bool b => .ok b
      | .unsigned n => .ok (n != 0)
      | .signed n => .ok (n != 0)
      | .real x => .ok (! x.isZero)
      | .text s =>
          let word := Text.lowercase s
          if word = "1" then .ok true
          else if word = "0" then .ok false
          else
            match wordValue? s with
            | some b => .ok b
            | none => mismatch (.text word) expected origin

/- A value as a text. -/
def toText
    (setting : Setting) : Except Mismatch String :=
  let expected := "a string"
  match setting with
  | .table origin _ => mismatch .table expected origin
  | .list _ => mismatch .list expected none
  | .scalar origin value =>
      match value with
      | .nil => mismatch .nothing expected origin
      | .bool b => .ok (toString b)
      | .unsigned n => .ok (toString n)
      | .signed n => .ok (toString n)
      | .real x => .ok x.plainText
      | .text s => .ok s

/- A value as a text that may be absent. -/
def toText?
    (setting : Setting) : Except Mismatch (Option String) :=
  match setting with
  | .scalar _ .nil => .ok none
  | _ => setting.toText.map some

end Setting

end KsqlBatch
