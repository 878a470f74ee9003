/-
  This file encodes bytes in Base64: six bits to a letter,
  four letters to three bytes, and padding at the end.

  Key definitions include:
    * `Base64.letter`
    * `Base64.encode`
    * `Base64.decode?`
-/

------------------------------------------------------------
-- Letters
------------------------------------------------------------

namespace KsqlBatch

namespace Base64

/- The letter of a number below 64. -/
def letter
    (n : Nat) : Char :=
  if n < 26 then Char.ofNat (0x41 + n)
  else if n < 52 then Char.ofNat (0x61 + (n - 26))
  else if n < 62 then Char.ofNat (0x30 + (n - 52))
  else if n = 62 then '+'
  else '/'

/- The number of a letter. -/
def value?
    (c : Char) : Option Nat :=
  let n := c.toNat
  if 0x41 ≤ n ∧ n ≤ 0x5A then some (n - 0x41)
  else if 0x61 ≤ n ∧ n ≤ 0x7A then some (n - 0x61 + 26)
  else if 0x30 ≤ n ∧ n ≤ 0x39 then some (n - 0x30 + 52)
  else if n = 0x2B then some 62
  else if n = 0x2F then some 63
  else none

end Base64

end KsqlBatch

------------------------------------------------------------
-- Encoding and Decoding
------------------------------------------------------------

namespace KsqlBatch

namespace Base64

/- The letters of a list of bytes. -/
def encodeBytes :
    List UInt8 → List Char
| [] => []
| [a] =>
    let n := a.toNat * 0x10
    [letter (n / 0x40), letter (n % 0x40), '=', '=']
| [a, b] =>
    let n := (a.toNat * 0x100 + b.toNat) * 4
    [letter (n / 0x1000), letter (n / 0x40 % 0x40),
      letter (n % 0x40), '=']
| a :: b :: c :: rest =>
    let n := (a.toNat * 0x100 + b.toNat) * 0x100 + c.toNat
    letter (n / 0x40000) :: letter (n / 0x1000 % 0x40) ::
      letter (n / 0x40 % 0x40) :: letter (n % 0x40) ::
      encodeBytes rest

/- Bytes in Base64. -/
def encode
    (bytes : ByteArray) : String :=
  String.ofList (encodeBytes bytes.data.toList)

/-
  The bytes of a list of letters. The bits that padding cuts
  off have to be zero.
-/
def decodeLetters? :
    List Char → Option (List UInt8)
| [] => some []
| a :: b :: c :: d :: rest => do
    let p ← value? a
    let q ← value? b
    if c = '=' then
      if d = '=' ∧ rest = [] ∧ q % 0x10 = 0 then
        return [UInt8.ofNat (p * 4 + q / 0x10)]
      else none
    else
      let r ← value? c
      if d = '=' then
        if rest = [] ∧ r % 4 = 0 then
          return [UInt8.ofNat (p * 4 + q / 0x10),
            UInt8.ofNat (q % 0x10 * 0x10 + r / 4)]
        else none
      else
        let s ← value? d
        let later ← decodeLetters? rest
        return UInt8.ofNat (p * 4 + q / 0x10) ::
          UInt8.ofNat (q % 0x10 * 0x10 + r / 4) ::
          UInt8.ofNat (r % 4 * 0x40 + s) :: later
| _ => none

/- The bytes of a Base64 text. -/
def decode?
    (text : String) : Option ByteArray :=
  (decodeLetters? text.toList).map fun bytes =>
    ByteArray.mk bytes.toArray

end Base64

end KsqlBatch
