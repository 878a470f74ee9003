import KsqlBatch.Keyed
import KsqlBatch.Decimal.Binary64

/-
  This file defines JSON values. Integers that fit 64 bits
  with or without a sign are exact, all other numbers are
  doubles.

  Key definitions include:
    * `Json.Number`
    * `Json`
    * `Json.get?`
    * `Json.string?`
-/

------------------------------------------------------------
-- Values
------------------------------------------------------------

namespace KsqlBatch

/- A JSON number: an exact integer or a double. -/
inductive Json.Number where
| integer (n : Int)
| real (x : Binary64)
deriving DecidableEq, Repr, Inhabited

/-
  A JSON value. The members of an object are listed in the
  order in which they are written.
-/
inductive Json where
| null
| bool (b : Bool)
| number (n : Json.Number)
| string (s : String)
| array (elements : List Json)
| object (members : List (String × Json))
deriving Repr, Inhabited

namespace Json

/- A natural number as a JSON value. -/
def ofNat
    (n : Nat) : Json :=
  .number (.integer n)

/- The member of an object with a name. -/
def get?
    (value : Json)
    (name : String) : Option Json :=
  match value with
  | .object members => Keyed.find? name members
  | _ => none

/- The text of a string. -/
def string? : Json → Option String
| .string s => some s
| _ => none

/- The text of a string member of an object. -/
def getString?
    (value : Json)
    (name : String) : Option String :=
  (value.get? name).bind string?

end Json

end KsqlBatch
