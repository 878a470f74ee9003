import KsqlBatch.Decimal.Shortest
import KsqlBatch.Settings.Setting
import KsqlBatch.Text.Quoted

/-
  This file defines what can be wrong with settings.

  Key definitions include:
    * `Found`
    * `Mismatch`
    * `Mismatch.within`
    * `ConfigFault`
    * `ConfigFault.message`
    * `InvalidSetting`
-/

------------------------------------------------------------
-- Mismatches
------------------------------------------------------------

namespace KsqlBatch

/- What stands where something else is needed. -/
inductive Found where
| nothing
| signed (n : Int)
| unsigned (n : Nat)
| text (s : String)
| table
| list
deriving DecidableEq, Repr, Inhabited

/- The greatest number of 64 bits without a sign. -/
def Setting.unsignedLimit : Nat :=
  0xFFFFFFFFFFFFFFFF

/- A number does not fit 64 bits with a sign. -/
def isWideSigned
    (n : Int) : Bool :=
  n < -0x8000000000000000 || 0x7FFFFFFFFFFFFFFF < n

/- A number does not fit 64 bits without a sign. -/
def isWideUnsigned
    (n : Nat) : Bool :=
  Setting.unsignedLimit < n

/- How many bits a number takes up, as it is reported. -/
def bitsOf
    (wide : Bool) : Nat :=
  if wide then 128 else 64

/- The wording of what was found. -/
def Found.message : Found → String
| .nothing => "unit value"
| .signed n => s!"{bitsOf (isWideSigned n)}-bit integer `{n}`"
| .unsigned n =>
    s!"{bitsOf (isWideUnsigned n)}-bit unsigned integer `{n}`"
| .text s => "string " ++ Text.quoted s
| .table => "map"
| .list => "sequence"

/- One step on the way to a value, counted from the top. -/
inductive PlaceStep where
| name (name : String)
| index (position : Nat)
deriving DecidableEq, Repr, Inhabited

/-
  A value that cannot be converted. The origin is missing
  where the value has none.
-/
structure Mismatch where
  found : Found
  expected : String
  place : List PlaceStep
  origin : Option String
deriving DecidableEq, Repr, Inhabited

/- The mismatch, seen from one step further up. -/
def Mismatch.within
    (step : PlaceStep)
    (mismatch : Mismatch) : Mismatch :=
  { mismatch with place := step :: mismatch.place }

/- The wording of a place. A dot stands after each name. -/
def describePlace :
    List PlaceStep → String
| [] => ""
| .index position :: rest =>
    "[" ++ toString position ++ "]" ++ describePlace rest
| [.name name] => name
| .name name :: .index position :: rest =>
    name ++ describePlace (.index position :: rest)
| .name name :: .name next :: rest =>
    name ++ "." ++ describePlace (.name next :: rest)

/- The wording of a mismatch. -/
def Mismatch.message
    (mismatch : Mismatch) : String :=
  "invalid type: " ++ mismatch.found.message ++
    ", expected " ++ mismatch.expected ++
    (if mismatch.place = [] then ""
      else " for key `" ++ describePlace mismatch.place ++
        "`") ++
    (match mismatch.origin with
      | none => ""
      | some origin => " in " ++ origin)

end KsqlBatch

------------------------------------------------------------
-- Faults
------------------------------------------------------------

namespace KsqlBatch

/- A single value in words. -/
def Scalar.describe : Scalar → String
| .nil => "unit value"
| .bool b => s!"boolean `{b}`"
| .signed n =>
    s!"integer `{n}`" ++
      (if isWideSigned n then " as i128" else "")
| .unsigned n =>
    s!"integer `{n}`" ++
      (if isWideUnsigned n then " as u128" else "")
| .real x => "floating point `" ++ x.plainTextWithPoint ++ "`"
| .text s => "string " ++ Text.quoted s

/- What is wrong with settings. -/
inductive ConfigFault where
| key (fault : KeyFault)
| fileNotFound (path : String)
| fileNotUtf8
| properties (text : String) (origin : Option String)
| conversion (mismatch : Mismatch)
| notRecord (value : Scalar) (record : String)
| tooShort (length : Nat) (record : String) (fields : Nat)
| missingField (name : String)
deriving DecidableEq, Repr, Inhabited

/- The wording of a fault. -/
def ConfigFault.message : ConfigFault → String
| .key fault => fault.message
| .fileNotFound path =>
    "configuration file \"" ++ path ++ "\" not found"
| .fileNotUtf8 => "stream did not contain valid UTF-8"
| .properties text none => text
| .properties text (some origin) =>
    text ++ " in " ++ origin
| .conversion mismatch => mismatch.message
| .notRecord value record =>
    "invalid type: " ++ value.describe ++
      ", expected struct " ++ record
| .tooShort length record fields =>
    "invalid length " ++ toString length ++
      ", expected struct " ++ record ++ " with " ++
      toString fields ++
      (if fields = 1 then " element" else " elements")
| .missingField name => "missing field `" ++ name ++ "`"

/- Settings that can be read but that make no sense. -/
inductive InvalidSetting where
| blankEndpoint
| zeroTimeout
| noConfiguration
| other (text : String)
deriving DecidableEq, Repr, Inhabited

/- The wording of what is wrong. -/
def InvalidSetting.message : InvalidSetting → String
| .blankEndpoint => "ksqldb.endpoint must not be empty"
| .zeroTimeout =>
    "ksqldb.timeout.secs must be greater than zero"
| .noConfiguration => "--config is required"
| .other text => text

end KsqlBatch
