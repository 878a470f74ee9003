/-
  This file defines decimal and hexadecimal digits.

  Key definitions include:
    * `isDecimalDigit`
    * `decimalValue`
    * `hexValue?`
    * `hexDigit`
    * `hexText`
-/

------------------------------------------------------------
-- Digits
------------------------------------------------------------

namespace KsqlBatch

namespace Text

/- The ASCII decimal digits. -/
def isDecimalDigit
    (c : Char) : Bool :=
  0x30 ≤ c.toNat && c.toNat ≤ 0x39

/- The value of an ASCII decimal digit. -/
def decimalValue
    (c : Char) : Nat :=
  c.toNat - 0x30

/- The value of an ASCII hexadecimal digit. -/
def hexValue?
    (c : Char) : Option Nat :=
  let n := c.toNat
  if 0x30 ≤ n ∧ n ≤ 0x39 then some (n - 0x30)
  else if 0x41 ≤ n ∧ n ≤ 0x46 then some (n - 0x41 + 10)
  else if 0x61 ≤ n ∧ n ≤ 0x66 then some (n - 0x61 + 10)
  else none

/- The lower-case hexadecimal digit of a number below 16. -/
def hexDigit
    (n : Nat) : Char :=
  if n < 10 then Char.ofNat (0x30 + n)
  else Char.ofNat (0x61 + (n - 10))

/- A number in lower-case hexadecimal digits. -/
def hexText
    (n : Nat) : List Char :=
  Nat.toDigits 16 n

end Text

end KsqlBatch
