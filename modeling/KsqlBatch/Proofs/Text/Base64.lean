import KsqlBatch.Text.Base64
import Mathlib.Tactic.SplitIfs

/-
  This file shows that Base64 has one text for each list of
  bytes, and that decoding accepts just these texts.

  Key theorems include:
    * `Base64.value?_letter`
    * `Base64.letter_of_value?_eq_some`
    * `Base64.decodeLetters?_encodeBytes`
    * `Base64.encodeBytes_of_decodeLetters?_eq_some`
    * `Base64.decode?_eq_some_iff`
-/

------------------------------------------------------------
-- Letters
------------------------------------------------------------

namespace KsqlBatch

namespace Base64

/- Each number below 64 is the number of its letter. -/
theorem value?_letter
    {n : Nat}
    (hSmall : n < 64) :
    value? (letter n) = some n := by
  have hAll : ∀ m < 64, value? (letter m) = some m := by
    decide
  exact hAll n hSmall

/- No letter is the sign that pads a text. -/
theorem letter_ne_padding
    {n : Nat}
    (hSmall : n < 64) :
    letter n ≠ '=' := by
  have hAll : ∀ m < 64, letter m ≠ '=' := by decide
  exact hAll n hSmall

/- Numbers of characters are small. -/
theorem lt_of_value?_eq_some
    {c : Char}
    {n : Nat}
    (hValue : value? c = some n) :
    n < 64 := by
  simp only [value?] at hValue
  split_ifs at hValue <;> cases hValue <;> omega

/- A character with a number is the letter of this number. -/
theorem letter_of_value?_eq_some
    {c : Char}
    {n : Nat}
    (hValue : value? c = some n) :
    letter n = c := by
  have hCode : Char.ofNat c.toNat = c := Char.ofNat_toNat c
  rw [← hCode]
  simp only [value?] at hValue
  generalize c.toNat = code at hValue ⊢
  unfold letter
  split_ifs at hValue with hCapital hSmall hDigit hPlus hSlash
  · cases hValue
    rw [if_pos (by omega)]
    congr 1
    omega
  · cases hValue
    rw [if_neg (by omega), if_pos (by omega)]
    congr 1
    omega
  · cases hValue
    rw [if_neg (by omega), if_neg (by omega),
      if_pos (by omega)]
    congr 1
    omega
  · cases hValue
    rw [hPlus]
    rfl
  · cases hValue
    rw [hSlash]
    rfl

end Base64

end KsqlBatch

------------------------------------------------------------
-- Groups of Bytes
------------------------------------------------------------

namespace KsqlBatch

namespace Base64

/- A byte is given by its number. -/
theorem ofNat_eq
    {byte : UInt8}
    {n : Nat}
    (hNumber : n = byte.toNat) :
    UInt8.ofNat n = byte := by
  rw [hNumber, UInt8.ofNat_toNat]

/- Bytes are read back from their letters. -/
theorem decodeLetters?_encodeBytes
    (bytes : List UInt8) :
    decodeLetters? (encodeBytes bytes) = some bytes := by
  fun_induction encodeBytes bytes with
  | case1 => rfl
  | case2 a n =>
      have hFirst := a.toNat_lt
      have hZero : n % 0x40 % 0x10 = 0 := by omega
      have hA : n / 0x40 * 4 + n % 0x40 / 0x10 = a.toNat := by
        omega
      simp only [decodeLetters?,
        value?_letter (show n / 0x40 < 64 by omega),
        value?_letter (show n % 0x40 < 64 by omega),
        Option.bind_eq_bind, Option.bind_some, if_true,
        hZero, and_self, ofNat_eq hA, Option.pure_def]
  | case3 a b n =>
      have hFirst := a.toNat_lt
      have hSecond := b.toNat_lt
      have hZero : n % 0x40 % 4 = 0 := by omega
      have hA :
          n / 0x1000 * 4 + n / 0x40 % 0x40 / 0x10 =
            a.toNat := by
        omega
      have hB :
          n / 0x40 % 0x40 % 0x10 * 0x10 + n % 0x40 / 4 =
            b.toNat := by
        omega
      simp only [decodeLetters?,
        value?_letter (show n / 0x1000 < 64 by omega),
        value?_letter (show n / 0x40 % 0x40 < 64 by omega),
        value?_letter (show n % 0x40 < 64 by omega),
        letter_ne_padding (show n % 0x40 < 64 by omega),
        Option.bind_eq_bind, Option.bind_some, if_false,
        if_true, hZero, and_self, ofNat_eq hA, ofNat_eq hB,
        Option.pure_def]
  | case4 a b c rest n ih =>
      have hFirst := a.toNat_lt
      have hSecond := b.toNat_lt
      have hThird := c.toNat_lt
      have hA :
          n / 0x40000 * 4 + n / 0x1000 % 0x40 / 0x10 =
            a.toNat := by
        omega
      have hB :
          n / 0x1000 % 0x40 % 0x10 * 0x10 +
              n / 0x40 % 0x40 / 4 = b.toNat := by
        omega
      have hC :
          n / 0x40 % 0x40 % 4 * 0x40 + n % 0x40 =
            c.toNat := by
        omega
      simp only [decodeLetters?, ih,
        value?_letter (show n / 0x40000 < 64 by omega),
        value?_letter (show n / 0x1000 % 0x40 < 64 by omega),
        value?_letter (show n / 0x40 % 0x40 < 64 by omega),
        value?_letter (show n % 0x40 < 64 by omega),
        letter_ne_padding
          (show n / 0x40 % 0x40 < 64 by omega),
        letter_ne_padding (show n % 0x40 < 64 by omega),
        Option.bind_eq_bind, Option.bind_some, if_false,
        ofNat_eq hA, ofNat_eq hB, ofNat_eq hC,
        Option.pure_def]

end Base64

end KsqlBatch

------------------------------------------------------------
-- Groups of Letters
------------------------------------------------------------

namespace KsqlBatch

namespace Base64

variable {p q r s : Nat}

/- The byte of six bits and the two bits behind them. -/
theorem toNat_first
    (hFirst : p < 64)
    (hSecond : q < 64) :
    (UInt8.ofNat (p * 4 + q / 0x10)).toNat =
      p * 4 + q / 0x10 := by
  have hByte : p * 4 + q / 0x10 < 256 := by omega
  exact UInt8.toNat_ofNat_of_lt' hByte

/- The byte of four bits and the four bits behind them. -/
theorem toNat_second
    (hThird : r < 64) :
    (UInt8.ofNat (q % 0x10 * 0x10 + r / 4)).toNat =
      q % 0x10 * 0x10 + r / 4 := by
  have hByte : q % 0x10 * 0x10 + r / 4 < 256 := by omega
  exact UInt8.toNat_ofNat_of_lt' hByte

/- The byte of two bits and the six bits behind them. -/
theorem toNat_third
    (hFourth : s < 64) :
    (UInt8.ofNat (r % 4 * 0x40 + s)).toNat =
      r % 4 * 0x40 + s := by
  have hByte : r % 4 * 0x40 + s < 256 := by omega
  exact UInt8.toNat_ofNat_of_lt' hByte

/- The letters of a byte that is made of two numbers. -/
theorem encodeBytes_one
    (hFirst : p < 64)
    (hSecond : q < 64)
    (hZero : q % 0x10 = 0) :
    encodeBytes [UInt8.ofNat (p * 4 + q / 0x10)] =
      [letter p, letter q, '=', '='] := by
  have hP : (p * 4 + q / 0x10) * 0x10 / 0x40 = p := by omega
  have hQ : (p * 4 + q / 0x10) * 0x10 % 0x40 = q := by omega
  simp only [encodeBytes, toNat_first hFirst hSecond, hP, hQ]

/- The letters of two bytes that are made of three numbers. -/
theorem encodeBytes_two
    (hFirst : p < 64)
    (hSecond : q < 64)
    (hThird : r < 64)
    (hZero : r % 4 = 0) :
    encodeBytes
        [UInt8.ofNat (p * 4 + q / 0x10),
          UInt8.ofNat (q % 0x10 * 0x10 + r / 4)] =
      [letter p, letter q, letter r, '='] := by
  have hBits :
      ((p * 4 + q / 0x10) * 0x100 +
          (q % 0x10 * 0x10 + r / 4)) * 4 =
        (p * 0x40 + q) * 0x40 + r := by
    omega
  have hP : ((p * 0x40 + q) * 0x40 + r) / 0x1000 = p := by
    omega
  have hQ :
      ((p * 0x40 + q) * 0x40 + r) / 0x40 % 0x40 = q := by
    omega
  have hR : ((p * 0x40 + q) * 0x40 + r) % 0x40 = r := by
    omega
  simp only [encodeBytes, toNat_first hFirst hSecond,
    toNat_second hThird, hBits, hP, hQ, hR]

/- The letters of three bytes that are made of four numbers. -/
theorem encodeBytes_three
    (hFirst : p < 64)
    (hSecond : q < 64)
    (hThird : r < 64)
    (hFourth : s < 64)
    (later : List UInt8) :
    encodeBytes
        (UInt8.ofNat (p * 4 + q / 0x10) ::
          UInt8.ofNat (q % 0x10 * 0x10 + r / 4) ::
          UInt8.ofNat (r % 4 * 0x40 + s) :: later) =
      letter p :: letter q :: letter r :: letter s ::
        encodeBytes later := by
  have hBits :
      ((p * 4 + q / 0x10) * 0x100 +
          (q % 0x10 * 0x10 + r / 4)) * 0x100 +
          (r % 4 * 0x40 + s) =
        ((p * 0x40 + q) * 0x40 + r) * 0x40 + s := by
    omega
  generalize hSum :
    ((p * 0x40 + q) * 0x40 + r) * 0x40 + s = sum at hBits
  have hP : sum / 0x40000 = p := by omega
  have hQ : sum / 0x1000 % 0x40 = q := by omega
  have hR : sum / 0x40 % 0x40 = r := by omega
  have hS : sum % 0x40 = s := by omega
  simp only [encodeBytes, toNat_first hFirst hSecond,
    toNat_second hThird, toNat_third hFourth, hBits, hP, hQ,
    hR, hS]

/- Letters that can be read are those of their bytes. -/
theorem encodeBytes_of_decodeLetters?_eq_some
    {letters : List Char}
    {bytes : List UInt8}
    (hRead : decodeLetters? letters = some bytes) :
    encodeBytes bytes = letters := by
  fun_induction decodeLetters? letters generalizing bytes with
  | case1 =>
      cases hRead
      rfl
  | case2 a b c d rest ih =>
      simp only [Option.bind_eq_bind, Option.pure_def,
        Option.bind_eq_some_iff] at hRead
      rcases hRead with ⟨p, hFirst, q, hSecond, hRead⟩
      have hP := lt_of_value?_eq_some hFirst
      have hQ := lt_of_value?_eq_some hSecond
      rw [← letter_of_value?_eq_some hFirst,
        ← letter_of_value?_eq_some hSecond]
      split at hRead
      · rename_i hPadded
        split at hRead
        · rename_i hEnd
          rcases hEnd with ⟨hLast, hRest, hZero⟩
          cases hRead
          rw [hPadded, hLast, hRest,
            encodeBytes_one hP hQ hZero]
        · cases hRead
      · rcases Option.bind_eq_some_iff.mp hRead with
          ⟨r, hThird, hRead⟩
        have hR := lt_of_value?_eq_some hThird
        rw [← letter_of_value?_eq_some hThird]
        split at hRead
        · rename_i hPadded
          split at hRead
          · rename_i hEnd
            cases hRead
            rw [hPadded, hEnd.1,
              encodeBytes_two hP hQ hR hEnd.2]
          · cases hRead
        · rcases Option.bind_eq_some_iff.mp hRead with
            ⟨s, hFourth, hRead⟩
          rcases Option.bind_eq_some_iff.mp hRead with
            ⟨later, hLater, hBytes⟩
          have hS := lt_of_value?_eq_some hFourth
          cases hBytes
          rw [encodeBytes_three hP hQ hR hS, ih hLater,
            letter_of_value?_eq_some hFourth]
  | case3 letters hSome hGroup => cases hRead

end Base64

end KsqlBatch

------------------------------------------------------------
-- Texts
------------------------------------------------------------

namespace KsqlBatch

namespace Base64

/- The texts that can be decoded are those of bytes. -/
theorem decode?_eq_some_iff
    {text : String}
    {bytes : ByteArray} :
    decode? text = some bytes ↔ text = encode bytes := by
  unfold decode? encode
  constructor
  · intro hDecode
    rcases Option.map_eq_some_iff.mp hDecode with
      ⟨found, hRead, hBytes⟩
    rw [← hBytes,
      encodeBytes_of_decodeLetters?_eq_some hRead,
      String.ofList_toList]
  · intro hText
    rw [hText, String.toList_ofList,
      decodeLetters?_encodeBytes]
    rfl

/- Different bytes have different texts. -/
theorem encode_inj
    {bytes others : ByteArray} :
    encode bytes = encode others ↔ bytes = others := by
  constructor
  · intro hSame
    have hOthers : decode? (encode others) = some others :=
      decode?_eq_some_iff.mpr rfl
    rw [← hSame, decode?_eq_some_iff.mpr rfl] at hOthers
    exact Option.some.inj hOthers
  · intro hSame
    rw [hSame]

/- Texts of one and two bytes are padded. -/
example :
    ["", "f", "fo", "foo", "foob"].map
        (fun text => encode text.toUTF8) =
      ["", "Zg==", "Zm8=", "Zm9v", "Zm9vYg=="] := by
  decide +kernel

end Base64

end KsqlBatch
