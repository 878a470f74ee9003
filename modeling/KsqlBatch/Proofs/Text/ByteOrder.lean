import Mathlib.Tactic.SplitIfs
import KsqlBatch.Keyed

/-
  This file shows that comparing texts character by character
  is the same as comparing their UTF-8 bytes.

  Key definitions include:
    * `Text.bytes`

  The main result is `Text.lt_iff_bytes_lt`.
-/

------------------------------------------------------------
-- Characters
------------------------------------------------------------

namespace KsqlBatch

namespace Text

/- The UTF-8 bytes of a text. -/
def bytes
    (text : String) : List UInt8 :=
  text.toUTF8.data.toList

/- The bytes of a text are those of its characters. -/
theorem bytes_eq
    (text : String) :
    bytes text =
      text.toList.flatMap String.utf8EncodeChar := by
  have hBytes : text.toList.utf8Encode = text.toUTF8 :=
    String.utf8Encode_toList
  unfold bytes
  rw [← hBytes]
  unfold List.utf8Encode
  rw [List.data_toByteArray]

/- A smaller number differs first in a smaller digit. -/
theorem digit_lt_of_lt
    {m n : Nat}
    (hLess : m < n) :
    m / 64 < n / 64 ∨
      m / 64 = n / 64 ∧ m % 64 < n % 64 := by
  omega

theorem ofNat_lt_ofNat_iff
    {m n : Nat}
    (hByte : m < 256)
    (hOther : n < 256) :
    UInt8.ofNat m < UInt8.ofNat n ↔ m < n := by
  rw [UInt8.lt_iff_toNat_lt, UInt8.toNat_ofNat',
    UInt8.toNat_ofNat', Nat.mod_eq_of_lt hByte,
    Nat.mod_eq_of_lt hOther]

theorem ofNat_eq_ofNat_iff
    {m n : Nat}
    (hByte : m < 256)
    (hOther : n < 256) :
    UInt8.ofNat m = UInt8.ofNat n ↔ m = n := by
  rw [← UInt8.toNat_inj, UInt8.toNat_ofNat',
    UInt8.toNat_ofNat', Nat.mod_eq_of_lt hByte,
    Nat.mod_eq_of_lt hOther]

/-
  The bytes of a smaller character are smaller, whatever
  follows. Shorter encodings begin with smaller bytes, and
  encodings of the same length list digits.
-/
theorem utf8EncodeChar_lt
    {c d : Char}
    (hLess : c < d)
    (rest later : List UInt8) :
    String.utf8EncodeChar c ++ rest <
      String.utf8EncodeChar d ++ later := by
  have hLast : c.val.toNat < d.val.toNat := hLess
  have hRange : d.val.toNat < 0x110000 := by
    rcases d.valid with hLow | hHigh
    · exact Nat.lt_trans hLow (by decide)
    · exact hHigh.2
  simp only [String.utf8EncodeChar]
  generalize c.val.toNat = v at hLast
  generalize d.val.toNat = w at hLast hRange
  have hTop {n : Nat} (hCode : n < 0x110000) :
      n / 262144 % 8 = n / 262144 := by
    omega
  have hDigits := digit_lt_of_lt hLast
  have hSecond := @digit_lt_of_lt (v / 64) (w / 64)
  have hFirst := @digit_lt_of_lt (v / 4096) (w / 4096)
  rw [Nat.div_div_eq_div_mul, Nat.div_div_eq_div_mul]
    at hSecond hFirst
  -- The lengths of the two encodings make the cases.
  split_ifs <;>
    simp (disch := omega) only [List.cons_append,
      List.nil_append, List.cons_lt_cons_iff,
      ofNat_lt_ofNat_iff, ofNat_eq_ofNat_iff, hTop] <;>
    omega

end Text

end KsqlBatch

------------------------------------------------------------
-- Texts
------------------------------------------------------------

namespace KsqlBatch

namespace Text

theorem flatMap_utf8EncodeChar_lt
    {cs ds : List Char}
    (hLess : cs < ds) :
    cs.flatMap String.utf8EncodeChar <
      ds.flatMap String.utf8EncodeChar := by
  induction cs generalizing ds with
  | nil =>
      cases ds with
      | nil => exact absurd hLess (List.lt_irrefl [])
      | cons d ds =>
          rw [List.flatMap_nil, List.flatMap_cons]
          cases hFirst : String.utf8EncodeChar d with
          | nil => exact absurd hFirst String.utf8EncodeChar_ne_nil
          | cons byte more => exact List.nil_lt_cons _ _
  | cons c cs ih =>
      cases ds with
      | nil => cases hLess
      | cons d ds =>
          rw [List.flatMap_cons, List.flatMap_cons]
          rcases List.cons_lt_cons_iff.mp hLess with
            hFirst | ⟨rfl, hRest⟩
          · exact utf8EncodeChar_lt hFirst _ _
          · exact List.append_left_lt (ih hRest)

/- The order of texts is the order of their bytes. -/
theorem lt_iff_bytes_lt
    {text other : String} :
    text < other ↔ bytes text < bytes other := by
  have hLess :
      ∀ {a b : String}, a < b → bytes a < bytes b := by
    intro a b hLess
    rw [bytes_eq, bytes_eq]
    exact flatMap_utf8EncodeChar_lt (String.lt_iff.mp hLess)
  constructor
  · exact hLess
  · intro hBytes
    by_cases hSmaller : text < other
    · exact hSmaller
    by_cases hGreater : other < text
    · exact absurd (hLess hGreater) (List.lt_asymm hBytes)
    · rw [Keyed.eq_of_not_lt hSmaller hGreater] at hBytes
      exact absurd hBytes (List.lt_irrefl _)

end Text

end KsqlBatch
