import KsqlBatch.Text.Digits

/-
  This file says what may stand as the host in a URL: a name,
  an address of four bytes between dots, or, in brackets, an
  address of eight groups of digits between colons.

  Key definitions include:
    * `Url.isDottedAddress`
    * `Url.isHostName`
    * `Url.isGroupedAddress`
-/

------------------------------------------------------------
-- Addresses between Dots
------------------------------------------------------------

namespace KsqlBatch

namespace Url

/-
  The base of a number in an address, and its digits. A zero
  in front makes a number octal, and an x behind the zero
  makes it hexadecimal.
-/
def baseAndDigits :
    List Char → Nat × List Char
| '0' :: 'x' :: digits => (16, digits)
| '0' :: 'X' :: digits => (16, digits)
| '0' :: digit :: digits => (8, digit :: digits)
| digits => (10, digits)

/- The number that digits of a base stand for. -/
def ofDigits?
    (base : Nat)
    (digits : List Char) : Option Nat :=
  digits.foldlM
    (fun number c => do
      let digit ← Text.hexValue? c
      if digit < base then some (number * base + digit)
      else none)
    0

/- A number in an address. -/
def addressNumber?
    (cs : List Char) : Option Nat :=
  if cs.isEmpty then none
  else
    let (base, digits) := baseAndDigits cs
    ofDigits? base digits

/- The parts between dots. A dot at the end adds no part. -/
def dottedParts
    (cs : List Char) : List (List Char) :=
  let parts := cs.splitOn '.'
  if 1 < parts.length ∧ parts.getLast? = some [] then
    parts.dropLast
  else parts

/- A text that ends in a number can only be an address. -/
def endsInNumber
    (cs : List Char) : Bool :=
  match (dottedParts cs).getLast? with
  | none => false
  | some part =>
      (! part.isEmpty && part.all Text.isDecimalDigit) ||
        (addressNumber? part).isSome

/-
  An address of up to four numbers. The last one stands for
  all bytes that are left, and each of the others for one.
-/
def isDottedAddress
    (cs : List Char) : Bool :=
  match (dottedParts cs).mapM addressNumber? with
  | none => false
  | some numbers =>
      numbers.length ≤ 4 &&
        numbers.dropLast.all (· < 256) &&
        numbers.getLast?.all
          (· < Nat.pow 256 (5 - numbers.length))

end Url

end KsqlBatch

------------------------------------------------------------
-- Names
------------------------------------------------------------

namespace KsqlBatch

namespace Url

/- A character that a name may contain. -/
def isHostChar
    (c : Char) : Bool :=
  0x20 < c.toNat && c.toNat != 0x7F &&
    !("\"#%/:<>?@[\\]^`|\x7b\x7d".toList.contains c)

/-
  The name of a host, or its address between dots. Characters
  outside ASCII are taken as they are.
-/
def isHostName
    (cs : List Char) : Bool :=
  ! cs.isEmpty && cs.all isHostChar &&
    (! endsInNumber cs || isDottedAddress cs)

end Url

end KsqlBatch

------------------------------------------------------------
-- Addresses between Colons
------------------------------------------------------------

namespace KsqlBatch

namespace Url

/- A group of up to four hexadecimal digits. -/
def isGroup
    (cs : List Char) : Bool :=
  ! cs.isEmpty && cs.length ≤ 4 &&
    cs.all fun c => (Text.hexValue? c).isSome

/- A byte in decimal digits. No zero stands in front. -/
def isByte
    (cs : List Char) : Bool :=
  (cs.length = 1 || cs.head? != some '0') &&
    (ofDigits? 10 cs).any (· < 256) && ! cs.isEmpty

/- Four bytes, which may stand in place of two groups. -/
def isFourBytes
    (cs : List Char) : Bool :=
  let parts := cs.splitOn '.'
  parts.length = 4 && parts.all isByte

/- The number of groups in a text that may be empty. -/
def groupCount?
    (cs : List Char) : Option Nat :=
  if cs.isEmpty then some 0
  else
    let parts := cs.splitOn ':'
    if parts.all isGroup then some parts.length else none

/- The number of groups at the end of an address. -/
def lastGroupCount?
    (cs : List Char) : Option Nat :=
  let parts := cs.splitOn ':'
  if parts.getLast?.any isFourBytes then
    if parts.dropLast.all isGroup then
      some (parts.length + 1)
    else none
  else groupCount? cs

/- What stands before and behind two colons in a row. -/
def splitAtGap? :
    List Char → Option (List Char × List Char)
| [] => none
| ':' :: ':' :: cs => some ([], cs)
| c :: cs =>
    (splitAtGap? cs).map fun (front, back) =>
      (c :: front, back)

/-
  An address of eight groups. Two colons in a row leave out
  one or more of them.
-/
def isGroupedAddress
    (cs : List Char) : Bool :=
  match splitAtGap? cs with
  | none => lastGroupCount? cs = some 8
  | some (front, back) =>
      match groupCount? front, lastGroupCount? back with
      | some before, some behind => before + behind ≤ 7
      | _, _ => false

end Url

end KsqlBatch
