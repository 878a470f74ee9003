import Mathlib.Data.List.Basic
import KsqlBatch.Text.Digits
import KsqlBatch.Text.Lowercase

/-
  This file says which texts are numbers in decimal digits.
  Zeros may stand in front. Such texts have no letters, and
  so they stay the same in lower case.

  Key definitions include:
    * `Text.IsDecimal`

  Key theorems include:
    * `Text.isDecimal_toString`
    * `Text.IsDecimal.lowercase_eq`
-/

------------------------------------------------------------
-- Decimal Texts
------------------------------------------------------------

namespace KsqlBatch

namespace Text

/- A text of decimal digits that stands for a number. -/
structure IsDecimal
    (text : String)
    (n : Nat) : Prop where
  some_digit : text.toList ≠ []
  digits : ∀ c ∈ text.toList, c.isDigit = true
  number : Nat.ofDigitChars 10 text.toList 0 = n

/- A number that is written out stands for itself. -/
theorem isDecimal_toString
    (n : Nat) :
    IsDecimal (toString n) n := by
  rw [Nat.toString_eq_repr]
  refine ⟨?_, ?_, ?_⟩
  · rw [Nat.toList_repr]
    exact Nat.toDigits_ne_nil
  · intro c hDigit
    rw [Nat.toList_repr] at hDigit
    exact
      Nat.isDigit_of_mem_toDigits (by decide) (by decide)
        hDigit
  · rw [Nat.toList_repr]
    exact Nat.ofDigitChars_ten_toDigits

theorem isDecimalDigit_eq
    (c : Char) :
    isDecimalDigit c = c.isDigit := by
  rfl

end Text

end KsqlBatch

------------------------------------------------------------
-- Lower Case
------------------------------------------------------------

namespace KsqlBatch

namespace Text

/- Characters without a case in front of all letters stay. -/
theorem lowerChars_of_small
    {cs : List Char}
    (hSmall : ∀ c ∈ cs, c.toNat < 0x41)
    (before : List Char) :
    lowerChars before cs = cs := by
  induction cs generalizing before with
  | nil => rfl
  | cons c cs ih =>
      rw [List.forall_mem_cons] at hSmall
      rcases hSmall with ⟨hChar, hRest⟩
      have hSigma : c.toNat ≠ capitalSigma := by
        unfold capitalSigma
        omega
      have hLower : lowerChar c = [c] := by
        unfold lowerChar
        rw [if_pos (by omega), if_neg (by omega)]
      rw [lowerChars, if_neg (fun h => hSigma h.1), hLower,
        ih hRest]
      rfl

variable {text : String}
variable {n : Nat}

/- Digits stay the same in lower case. -/
theorem IsDecimal.lowercase_eq
    (hDecimal : IsDecimal text n) :
    lowercase text = text := by
  have hSmall : ∀ c ∈ text.toList, c.toNat < 0x41 := by
    intro c hChar
    have hDigit := hDecimal.digits c hChar
    rw [← isDecimalDigit_eq, isDecimalDigit,
      Bool.and_eq_true, decide_eq_true_eq,
      decide_eq_true_eq] at hDigit
    omega
  rw [lowercase, lowerChars_of_small hSmall,
    String.ofList_toList]

/- A text with a letter in it is no number. -/
theorem IsDecimal.ne_of_not_isDigit
    (hDecimal : IsDecimal text n)
    {other : String}
    {c : Char}
    (hChar : c ∈ other.toList)
    (hLetter : c.isDigit = false) :
    text ≠ other := by
  rintro rfl
  rw [hDecimal.digits c hChar] at hLetter
  cases hLetter

end Text

end KsqlBatch
