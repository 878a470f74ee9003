/-
  This file defines the finite double-precision numbers as
  exact multiples of powers of two, and the rounding of a
  quotient of natural numbers to the nearest of them.

  Key definitions include:
    * `Binary64`
    * `roundHalfEven`
    * `Binary64.ofQuotient?`
    * `Binary64.mul?`
    * `Binary64.div?`
    * `Binary64.powerOfTen?`
    * `Binary64.roundToNat`
-/

------------------------------------------------------------
-- Rounding Quotients
------------------------------------------------------------

namespace KsqlBatch

/- The nearest integer to a quotient; ties go to the even one. -/
def roundHalfEven
    (num den : Nat) : Nat :=
  let quotient := num / den
  let remainder := num % den
  if 2 * remainder < den then quotient
  else if den < 2 * remainder then quotient + 1
  else if quotient % 2 = 0 then quotient
  else quotient + 1

/- The nearest integer to a quotient; ties go upwards. -/
def roundHalfUp
    (num den : Nat) : Nat :=
  (2 * num + den) / (2 * den)

/- A power of two. -/
def twoTo
    (n : Nat) : Nat :=
  Nat.pow 2 n

/- A power of ten. -/
def tenTo
    (n : Nat) : Nat :=
  Nat.pow 10 n

/- A quotient divided by a power of two. -/
def scaleQuotient
    (num den : Nat)
    (exponent : Int) : Nat × Nat :=
  if exponent < 0 then
    (num * twoTo (-exponent).toNat, den)
  else
    (num, den * twoTo exponent.toNat)

end KsqlBatch

------------------------------------------------------------
-- Doubles
------------------------------------------------------------

namespace KsqlBatch

/-
  A finite double: `significand * 2 ^ exponent` with a sign.
  The significand is below `2 ^ 53`, the exponent lies
  between `-1074` and `971`, and it is the least exponent
  that leaves the significand an integer below `2 ^ 53`,
  or `-1074`.
-/
structure Binary64 where
  negative : Bool
  significand : Nat
  exponent : Int
deriving DecidableEq, Repr, Inhabited

namespace Binary64

/- The zero of a sign. -/
def zero
    (negative : Bool) : Binary64 :=
  { negative, significand := 0, exponent := -1074 }

/- Whether a double is one of the two zeros. -/
def isZero
    (x : Binary64) : Bool :=
  x.significand == 0

/- The magnitude of a double as a quotient. -/
def magnitude
    (x : Binary64) : Nat × Nat :=
  if x.exponent < 0 then
    (x.significand, twoTo (-x.exponent).toNat)
  else
    (x.significand * twoTo x.exponent.toNat, 1)

/-
  The exponent at which a positive quotient has a
  significand of 53 bits, or the least exponent.
-/
def exponentOf
    (num den : Nat) : Int :=
  let first : Int :=
    (num.log2 : Int) - (den.log2 : Int) - 52
  let scaled := scaleQuotient num den first
  let exact :=
    if scaled.1 / scaled.2 < twoTo 52 then first - 1
    else first
  if exact < -1074 then -1074 else exact

/-
  The double nearest to a quotient, ties to the even
  significand. There is none above the greatest double.
-/
def ofQuotient?
    (negative : Bool)
    (num den : Nat) : Option Binary64 :=
  if num = 0 then some (zero negative)
  else
    let exponent := exponentOf num den
    let scaled := scaleQuotient num den exponent
    let significand := roundHalfEven scaled.1 scaled.2
    let rounded :=
      if significand = twoTo 53 then
        { negative, significand := twoTo 52,
          exponent := exponent + 1 : Binary64 }
      else
        { negative, significand, exponent }
    if 971 < rounded.exponent then none else some rounded

/- The product of two doubles, if it is finite. -/
def mul?
    (x y : Binary64) : Option Binary64 :=
  let a := x.magnitude
  let b := y.magnitude
  ofQuotient? (x.negative != y.negative)
    (a.1 * b.1) (a.2 * b.2)

/- The quotient of two doubles, if it is finite. -/
def div?
    (x y : Binary64) : Option Binary64 :=
  let a := x.magnitude
  let b := y.magnitude
  ofQuotient? (x.negative != y.negative)
    (a.1 * b.2) (a.2 * b.1)

/- The double nearest to a natural number. -/
def ofNat?
    (n : Nat) : Option Binary64 :=
  ofQuotient? false n 1

/- The double nearest to a power of ten. -/
def powerOfTen?
    (n : Nat) : Option Binary64 :=
  ofNat? (tenTo n)

/- The same magnitude with a given sign. -/
def withSign
    (negative : Bool)
    (x : Binary64) : Binary64 :=
  { x with negative }

/-
  The nearest natural number, half away from zero. Negative
  values give zero.
-/
def roundToNat
    (x : Binary64) : Nat :=
  if x.negative then 0
  else roundHalfUp x.magnitude.1 x.magnitude.2

end Binary64

end KsqlBatch
