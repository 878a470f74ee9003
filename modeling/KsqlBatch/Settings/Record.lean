import KsqlBatch.Settings.Connection
import KsqlBatch.Settings.Conversion

/-
  This file reads the settings of a connection off a tree. A
  record is a table with named fields or a list with the
  fields in order.

  Key definitions include:
    * `Fields`
    * `RawTimeout`
    * `RawEngine`
    * `RawApi`
    * `RawSettings`
    * `RawSettings.read`
    * `RawSettings.describe`
-/

------------------------------------------------------------
-- Fields
------------------------------------------------------------

namespace KsqlBatch

/- The fields of a record that are present. -/
inductive Fields where
| named (entries : List (String × Setting))
| ordered (elements : List Setting)
deriving Inhabited

/- The fields of a value that has to be a record. -/
def Setting.fields
    (setting : Setting)
    (record : String) : Except ConfigFault Fields :=
  match setting with
  | .table _ entries => .ok (.named entries)
  | .list elements => .ok (.ordered elements)
  | .scalar _ value => .error (.notRecord value record)

namespace Fields

/- A field with its place, given its name and number. -/
def find?
    (fields : Fields)
    (name : String)
    (number : Nat) : Option (PlaceStep × Setting) :=
  match fields with
  | .named entries =>
      (Keyed.find? name entries).map (.name name, ·)
  | .ordered elements =>
      elements[number]?.map (.index number, ·)

/- The fault of a field that has to be there. -/
def absence
    (fields : Fields)
    (record : String)
    (count : Nat)
    (name : String) : ConfigFault :=
  match fields with
  | .named _ => .missingField name
  | .ordered elements =>
      .tooShort elements.length record count

/- A fault inside a field, seen from the record. -/
def locate
    (step : PlaceStep) :
    ConfigFault → ConfigFault
| .conversion mismatch => .conversion (mismatch.within step)
| fault => fault

/- Read a field, if it is there. -/
def read?
    {α : Type}
    (fields : Fields)
    (name : String)
    (number : Nat)
    (convert : Setting → Except ConfigFault α) :
    Except ConfigFault (Option α) :=
  match fields.find? name number with
  | none => .ok none
  | some (step, setting) =>
      ((convert setting).mapError (locate step)).map some

/- A field that has to be there. -/
def require
    {α : Type}
    (fields : Fields)
    (record : String)
    (count : Nat)
    (name : String)
    (value : Option α) : Except ConfigFault α :=
  match value with
  | some value => .ok value
  | none => .error (fields.absence record count name)

end Fields

/- A conversion of a single value as one of a field. -/
def ofConversion
    {α : Type}
    (convert : Setting → Except Mismatch α)
    (setting : Setting) : Except ConfigFault α :=
  (convert setting).mapError .conversion

end KsqlBatch

------------------------------------------------------------
-- Records
------------------------------------------------------------

namespace KsqlBatch

/- How long to wait for the engine. -/
structure RawTimeout where
  secs : Nat
deriving DecidableEq, Repr, Inhabited

/- The settings of the engine. -/
structure RawEngine where
  endpoint : String
  port : Nat
  tls : Bool
  timeout : RawTimeout
deriving DecidableEq, Repr, Inhabited

/- The settings of the access to the engine. -/
structure RawApi where
  key : String
  secret : Option String
deriving DecidableEq, Repr, Inhabited

/- All settings of a connection, as they are given. -/
structure RawSettings where
  engine : RawEngine
  api : Option RawApi
deriving DecidableEq, Repr, Inhabited

/- Read the settings of the timeout. -/
def RawTimeout.read
    (setting : Setting) :
    Except ConfigFault RawTimeout := do
  let record := "RawTimeout"
  let fields ← setting.fields record
  let secs ←
    fields.read? "secs" 0 (ofConversion Setting.toUnsigned)
  return { secs := ← fields.require record 1 "secs" secs }

/-
  Read the settings of the engine. Faults in fields that are
  there come before absent fields.
-/
def RawEngine.read
    (setting : Setting) :
    Except ConfigFault RawEngine := do
  let record := "RawEngine"
  let fields ← setting.fields record
  let endpoint ←
    fields.read? "endpoint" 0 (ofConversion Setting.toText)
  let port ←
    fields.read? "port" 1 (ofConversion Setting.toPort)
  let tls ←
    fields.read? "tls" 2 (ofConversion Setting.toBool)
  let timeout ← fields.read? "timeout" 3 RawTimeout.read
  return {
    endpoint := ← fields.require record 4 "endpoint" endpoint
    port := ← fields.require record 4 "port" port
    tls := ← fields.require record 4 "tls" tls
    timeout := ← fields.require record 4 "timeout" timeout }

/- Read the settings of the access. The secret may lack. -/
def RawApi.read
    (setting : Setting) :
    Except ConfigFault RawApi := do
  let record := "RawApi"
  let fields ← setting.fields record
  let key ←
    fields.read? "key" 0 (ofConversion Setting.toText)
  let secret ←
    fields.read? "secret" 1 (ofConversion Setting.toText?)
  return {
    key := ← fields.require record 2 "key" key
    secret := secret.join }

/- Read the settings of the access, if there are any. -/
def RawApi.read?
    (setting : Setting) :
    Except ConfigFault (Option RawApi) :=
  match setting with
  | .scalar _ .nil => .ok none
  | _ => (RawApi.read setting).map some

/- Read all settings. -/
def RawSettings.read
    (setting : Setting) :
    Except ConfigFault RawSettings := do
  let record := "RawConfig"
  let fields ← setting.fields record
  let api ← fields.read? "api" 1 RawApi.read?
  let engine ← fields.read? "ksqldb" 0 RawEngine.read
  return {
    engine := ← fields.require record 2 "ksqldb" engine
    api := api.join }

end KsqlBatch

------------------------------------------------------------
-- Description
------------------------------------------------------------

namespace KsqlBatch

/- The settings of the access in words, without the secret. -/
def RawApi.describe
    (api : RawApi) : String :=
  "RawApi \x7b key: " ++ Text.quoted api.key ++
    ", secret: " ++ Text.quoted hiddenSecret ++ " \x7d"

/- All settings in words, without the secret. -/
def RawSettings.describe
    (settings : RawSettings) : String :=
  let engine := settings.engine
  "RawConfig \x7b ksqldb: RawEngine \x7b endpoint: " ++
    Text.quoted engine.endpoint ++
    ", port: " ++ toString engine.port ++
    ", tls: " ++ toString engine.tls ++
    ", timeout: RawTimeout \x7b secs: " ++
    toString engine.timeout.secs ++ " \x7d \x7d, api: " ++
    Text.describeOption (settings.api.map RawApi.describe) ++
    " \x7d"

end KsqlBatch
