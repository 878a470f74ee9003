import KsqlBatch.Json.Writer
import KsqlBatch.Text.Quoted

/-
  This file defines the streams of an engine and reads them
  off JSON values. A stream is an object, or an array with
  the fields in order. The last three fields may lack.

  Key definitions include:
    * `StreamInfo`
    * `StreamInfo.display`
    * `JsonMismatch`
    * `StreamInfo.ofJson`
    * `StreamInfo.toJson`
-/

------------------------------------------------------------
-- Streams
------------------------------------------------------------

namespace KsqlBatch

/- A stream of the engine. -/
structure StreamInfo where
  name : String
  topic : String
  keyFormat : String
  valueFormat : String
  isWindowed : Bool
deriving DecidableEq, Repr, Inhabited

namespace StreamInfo

/- The stream in words. -/
def display
    (stream : StreamInfo) : String :=
  " ".intercalate
    [stream.name, stream.topic, stream.keyFormat,
      stream.valueFormat, toString stream.isWindowed]

/- The stream as a JSON object. -/
def toJson
    (stream : StreamInfo) : Json :=
  .object
    [("isWindowed", .bool stream.isWindowed),
      ("keyFormat", .string stream.keyFormat),
      ("name", .string stream.name),
      ("topic", .string stream.topic),
      ("valueFormat", .string stream.valueFormat)]

end StreamInfo

end KsqlBatch

------------------------------------------------------------
-- Mismatches
------------------------------------------------------------

namespace KsqlBatch

/- Why a JSON value is not what is needed. -/
inductive JsonMismatch where
| wrongType (found : Json) (expected : String)
| missingField (name : String)
| tooShort (length : Nat)
| tooLong (length : Nat)
deriving Inhabited

namespace JsonMismatch

/- A value that was found, in words. -/
def describeFound : Json → String
| .null => "null"
| .bool b => "boolean `" ++ toString b ++ "`"
| .number (.integer n) => "integer `" ++ toString n ++ "`"
| .number (.real x) =>
    "floating point `" ++ x.scientificText ++ "`"
| .string s => "string " ++ Text.quoted s
| .array _ => "sequence"
| .object _ => "map"

/- The wording of a mismatch. -/
def message : JsonMismatch → String
| .wrongType found expected =>
    "invalid type: " ++ describeFound found ++
      ", expected " ++ expected
| .missingField name => "missing field `" ++ name ++ "`"
| .tooShort length =>
    "invalid length " ++ toString length ++
      ", expected struct StreamInfo with 5 elements"
| .tooLong length =>
    "invalid length " ++ toString length ++
      ", expected fewer elements in array"

end JsonMismatch

end KsqlBatch

------------------------------------------------------------
-- Reading Streams
------------------------------------------------------------

namespace KsqlBatch

namespace StreamInfo

/- A value that has to be a string. -/
def readText : Json → Except JsonMismatch String
| .string s => .ok s
| found => .error (.wrongType found "a string")

/- A value that has to be a truth value. -/
def readFlag : Json → Except JsonMismatch Bool
| .bool b => .ok b
| found => .error (.wrongType found "a boolean")

/- Read a value that may be absent. -/
def readOptional
    {α : Type}
    (read : Json → Except JsonMismatch α)
    (value : Option Json) : Except JsonMismatch (Option α) :=
  match value with
  | none => .ok none
  | some value => (read value).map some

/- A field that has to be there. -/
def require
    {α : Type}
    (name : String)
    (value : Option α) : Except JsonMismatch α :=
  match value with
  | some value => .ok value
  | none => .error (.missingField name)

/-
  Read the members of an object. Those that are there are
  looked at first, in ascending order of their names.
-/
def ofMembers
    (value : Json) : Except JsonMismatch StreamInfo := do
  let isWindowed ←
    readOptional readFlag (value.get? "isWindowed")
  let keyFormat ←
    readOptional readText (value.get? "keyFormat")
  let name ← readOptional readText (value.get? "name")
  let topic ← readOptional readText (value.get? "topic")
  let valueFormat ←
    readOptional readText (value.get? "valueFormat")
  return {
    name := ← require "name" name
    topic := ← require "topic" topic
    keyFormat := keyFormat.getD ""
    valueFormat := valueFormat.getD ""
    isWindowed := isWindowed.getD false }

/- An element that has to be there. -/
def requireElement
    {α : Type}
    (length : Nat)
    (value : Option α) : Except JsonMismatch α :=
  match value with
  | some value => .ok value
  | none => .error (.tooShort length)

/- Read the elements of an array, in order. -/
def ofElements
    (elements : List Json) :
    Except JsonMismatch StreamInfo := do
  let name ← readOptional readText elements[0]?
  let name ← requireElement 0 name
  let topic ← readOptional readText elements[1]?
  let topic ← requireElement 1 topic
  let keyFormat ← readOptional readText elements[2]?
  let valueFormat ← readOptional readText elements[3]?
  let isWindowed ← readOptional readFlag elements[4]?
  if 5 < elements.length then
    .error (.tooLong elements.length)
  else
    return {
      name
      topic
      keyFormat := keyFormat.getD ""
      valueFormat := valueFormat.getD ""
      isWindowed := isWindowed.getD false }

/- Read a stream. -/
def ofJson
    (value : Json) : Except JsonMismatch StreamInfo :=
  match value with
  | .object _ => ofMembers value
  | .array elements => ofElements elements
  | found => .error (.wrongType found "struct StreamInfo")

end StreamInfo

end KsqlBatch
