/-
  This file decodes UTF-8. Bytes that belong to no character
  decode to the replacement character, once for each longest
  run of bytes that could have started a character.

  Key definitions include:
    * `decodeLossy`
    * `decodeBytes`
-/

------------------------------------------------------------
-- Sequences
------------------------------------------------------------

namespace KsqlBatch

namespace Text

/- What stands for bytes that belong to no character. -/
def replacement : Char := Char.ofNat 0xFFFD

/- A byte that continues a character. -/
def isContinuation
    (b : UInt8) : Bool :=
  0x80 ≤ b.toNat && b.toNat ≤ 0xBF

/-
  The second bytes that may follow a first byte. Outside of
  them the character would be too short for its length, a
  surrogate, or too large.
-/
def isSecondByte
    (first second : UInt8) : Bool :=
  let n := second.toNat
  if first.toNat = 0xE0 then 0xA0 ≤ n && n ≤ 0xBF
  else if first.toNat = 0xED then 0x80 ≤ n && n ≤ 0x9F
  else if first.toNat = 0xF0 then 0x90 ≤ n && n ≤ 0xBF
  else if first.toNat = 0xF4 then 0x80 ≤ n && n ≤ 0x8F
  else isContinuation second

/- The six bits that a further byte brings. -/
def payload
    (b : UInt8) : Nat :=
  b.toNat % 0x40

/- The number of bytes that a first byte calls for. -/
def sequenceLength
    (first : UInt8) : Nat :=
  let n := first.toNat
  if n < 0x80 then 1
  else if 0xC2 ≤ n ∧ n ≤ 0xDF then 2
  else if 0xE0 ≤ n ∧ n ≤ 0xEF then 3
  else if 0xF0 ≤ n ∧ n ≤ 0xF4 then 4
  else 0

end Text

end KsqlBatch

------------------------------------------------------------
-- Decoding
------------------------------------------------------------

namespace KsqlBatch

namespace Text

/- The text of a list of bytes. -/
def decodeLossy :
    List UInt8 → List Char
| [] => []
| a :: rest =>
    match sequenceLength a, rest with
    | 1, rest => Char.ofNat a.toNat :: decodeLossy rest
    | 2, b :: rest =>
        if isSecondByte a b then
          Char.ofNat (a.toNat % 0x20 * 0x40 + payload b) ::
            decodeLossy rest
        else replacement :: decodeLossy (b :: rest)
    | 3, b :: rest =>
        if isSecondByte a b then
          match rest with
          | [] => [replacement]
          | c :: rest =>
              if isContinuation c then
                Char.ofNat
                  ((a.toNat % 0x10 * 0x40 + payload b) * 0x40 +
                    payload c) :: decodeLossy rest
              else replacement :: decodeLossy (c :: rest)
        else replacement :: decodeLossy (b :: rest)
    | 4, b :: rest =>
        if isSecondByte a b then
          match rest with
          | [] => [replacement]
          | c :: rest =>
              if isContinuation c then
                match rest with
                | [] => [replacement]
                | d :: rest =>
                    if isContinuation d then
                      Char.ofNat
                        (((a.toNat % 8 * 0x40 + payload b) *
                            0x40 + payload c) * 0x40 +
                          payload d) :: decodeLossy rest
                    else replacement :: decodeLossy (d :: rest)
              else replacement :: decodeLossy (c :: rest)
        else replacement :: decodeLossy (b :: rest)
    | _, rest => replacement :: decodeLossy rest

/- The text of bytes, with replacements where needed. -/
def decodeBytes
    (bytes : ByteArray) : String :=
  match String.fromUTF8? bytes with
  | some text => text
  | none => String.ofList (decodeLossy bytes.data.toList)

end Text

end KsqlBatch
