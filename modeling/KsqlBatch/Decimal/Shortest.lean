import KsqlBatch.Decimal.Binary64

/-
  This file writes doubles in decimal. The digits are the
  fewest that read back as the same double, and of those the
  nearest to it. Two layouts are given: the plain one writes
  every place, the scientific one has an exponent for very
  large and very small numbers.

  Key definitions include:
    * `Decimal`
    * `shortest`
    * `Binary64.plainText`
    * `Binary64.plainTextWithPoint`
    * `Binary64.scientificText`
-/

------------------------------------------------------------
-- Decimals
------------------------------------------------------------

namespace KsqlBatch

/- The number `digits * 10 ^ exponent`. -/
structure Decimal where
  digits : Nat
  exponent : Int
deriving DecidableEq, Repr, Inhabited

namespace Decimal

/- The same number without zeros at the end of its digits. -/
def stripZeros
    (fuel : Nat)
    (d : Decimal) : Decimal :=
  match fuel with
  | 0 => d
  | fuel + 1 =>
      if d.digits % 10 = 0 then
        stripZeros fuel
          { digits := d.digits / 10,
            exponent := d.exponent + 1 }
      else d

/- A quotient divided by a power of ten. -/
def scaleByTen
    (num den : Nat)
    (exponent : Int) : Nat × Nat :=
  if exponent < 0 then
    (num * tenTo (-exponent).toNat, den)
  else
    (num, den * tenTo exponent.toNat)

/- The place of the first digit of a positive quotient. -/
def leadingPlace
    (num den : Nat) : Int :=
  if den ≤ num then
    ((Nat.toDigits 10 (num / den)).length : Int) - 1
  else
    let places := (Nat.toDigits 10 (den / num)).length
    if num * tenTo (places - 1) = den then
      1 - (places : Int)
    else
      -(places : Int)

end Decimal

end KsqlBatch

------------------------------------------------------------
-- Shortest Digits
------------------------------------------------------------

namespace KsqlBatch

/-
  The open or closed interval of the reals that round to a
  double: both ends over one denominator, and whether the
  ends belong to it.
-/
structure RoundingInterval where
  lower : Nat
  upper : Nat
  denominator : Nat
  closed : Bool
deriving DecidableEq, Repr, Inhabited

namespace RoundingInterval

/-
  The interval of a positive double. The gap below a power
  of two is half the gap above it.
-/
def ofBinary64
    (x : Binary64) : RoundingInterval :=
  let (num, den) := x.magnitude
  let unit := num / x.significand
  let atPower :=
    x.significand == twoTo 52 && decide (-1074 < x.exponent)
  { lower := 4 * num - (if atPower then unit else 2 * unit)
    upper := 4 * num + 2 * unit
    denominator := 4 * den
    closed := x.significand % 2 == 0 }

/- Whether a decimal lies in the interval. -/
def contains
    (interval : RoundingInterval)
    (d : Decimal) : Bool :=
  let (num, den) :=
    Decimal.scaleByTen d.digits 1 (-d.exponent)
  let here := num * interval.denominator
  let low := interval.lower * den
  let high := interval.upper * den
  if interval.closed then low ≤ here && here ≤ high
  else low < here && here < high

end RoundingInterval

/-
  The nearest of the two neighbours of a quotient on the
  grid of a power of ten that lie in the interval.
-/
def nearestOnGrid
    (tieGoesUp : Bool)
    (interval : RoundingInterval)
    (num den : Nat)
    (grid : Int) : Option Decimal :=
  let (a, b) := Decimal.scaleByTen num den grid
  let below : Decimal := { digits := a / b, exponent := grid }
  let above : Decimal :=
    { digits := a / b + 1, exponent := grid }
  let remainder := a % b
  match interval.contains below, interval.contains above with
  | true, true =>
      if 2 * remainder < b then some below
      else if b < 2 * remainder then some above
      else if tieGoesUp || below.digits % 2 == 1 then
        some above
      else some below
  | true, false => some below
  | false, true => some above
  | false, false => none

/-
  The first grid, from coarse to fine, on which a neighbour
  of the double lies in its interval. Seventeen digits are
  always enough.
-/
def shortestFrom
    (tieGoesUp : Bool)
    (interval : RoundingInterval)
    (num den : Nat)
    (place : Int) :
    List Nat → Decimal
| [] => { digits := num / den, exponent := 0 }
| count :: counts =>
    let grid := place - (count : Int) + 1
    match nearestOnGrid tieGoesUp interval num den grid with
    | some d => d.stripZeros 20
    | none =>
        shortestFrom tieGoesUp interval num den place counts

/- The shortest digits of a double that is not zero. -/
def shortest
    (tieGoesUp : Bool)
    (x : Binary64) : Decimal :=
  let (num, den) := x.magnitude
  shortestFrom tieGoesUp (RoundingInterval.ofBinary64 x)
    num den (Decimal.leadingPlace num den)
    ((List.range 17).map (· + 1))

end KsqlBatch

------------------------------------------------------------
-- Layouts
------------------------------------------------------------

namespace KsqlBatch

namespace Decimal

/- The digits of a natural number. -/
def digitText
    (n : Nat) : String :=
  String.ofList (Nat.toDigits 10 n)

/- A run of zeros. -/
def zeros
    (n : Nat) : String :=
  String.ofList (List.replicate n '0')

/-
  The digits with the decimal point after a number of them,
  which lies inside the digits.
-/
def withPoint
    (digits : List Char)
    (before : Nat) : String :=
  String.ofList (digits.take before) ++ "." ++
    String.ofList (digits.drop before)

/- Every place of the number, a point only where needed. -/
def plainText
    (d : Decimal) : String :=
  let digits := Nat.toDigits 10 d.digits
  let point : Int := (digits.length : Int) + d.exponent
  if 0 ≤ d.exponent then
    String.ofList digits ++ zeros d.exponent.toNat
  else if 0 < point then
    withPoint digits point.toNat
  else
    "0." ++ zeros (-point).toNat ++ String.ofList digits

/-
  Positional between `1e-5` and `1e16`, with `.0` after an
  integer; outside, one digit before the point and a signed
  exponent.
-/
def scientificText
    (d : Decimal) : String :=
  let digits := Nat.toDigits 10 d.digits
  let point : Int := (digits.length : Int) + d.exponent
  if 0 ≤ d.exponent ∧ point ≤ 16 then
    String.ofList digits ++ zeros d.exponent.toNat ++ ".0"
  else if -5 < point ∧ point ≤ 16 then
    d.plainText
  else
    let mantissa :=
      if digits.length = 1 then String.ofList digits
      else withPoint digits 1
    let power := point - 1
    if power < 0 then
      mantissa ++ "e-" ++ digitText (-power).toNat
    else
      mantissa ++ "e+" ++ digitText power.toNat

end Decimal

namespace Binary64

/- The text of a sign. -/
def signText
    (x : Binary64) : String :=
  if x.negative then "-" else ""

/- Every place of the double; integers have no point. -/
def plainText
    (x : Binary64) : String :=
  if x.isZero then x.signText ++ "0"
  else x.signText ++ (shortest true x).plainText

/- Every place of the double; integers end in `.0`. -/
def plainTextWithPoint
    (x : Binary64) : String :=
  let text := x.plainText
  if text.toList.contains '.' then text else text ++ ".0"

/- The double with an exponent where it is long. -/
def scientificText
    (x : Binary64) : String :=
  if x.isZero then x.signText ++ "0.0"
  else x.signText ++ (shortest false x).scientificText

end Binary64

end KsqlBatch
