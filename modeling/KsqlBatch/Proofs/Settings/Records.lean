import KsqlBatch.Proofs.Settings.Keys
import KsqlBatch.Settings.Record

/-
  This file says what is read off a tree of settings: what
  stands for each setting of a connection, and whether there
  is anything for the access.

  Key definitions include:
    * `Setting.choices`
    * `Setting.HasNamedAccess`
    * `Setting.settings`
    * `Choices.text?`
    * `Choices.HasTexts`

  Key theorems include:
    * `Choices.choices_tree`
    * `RawEngine.read_eq`
    * `RawApi.read?_table`
    * `RawSettings.read_eq`
-/

------------------------------------------------------------
-- Places of Settings
------------------------------------------------------------

namespace KsqlBatch

namespace Setting

/- What stands under names, each one inside the last one. -/
def under? :
    List String → Setting → Option Setting
| [], setting => some setting
| name :: names, setting =>
    (setting.get? name).bind (under? names)

/- Names behind others lead on from where these lead. -/
theorem under?_append
    (names more : List String)
    (setting : Setting) :
    under? (names ++ more) setting =
      (under? names setting).bind (under? more) := by
  induction names generalizing setting with
  | nil => rfl
  | cons name names ih =>
      rw [List.cons_append, under?, under?, Option.bind_assoc]
      congr 1
      funext inner
      exact ih inner

/- What stands for each setting of a connection. -/
def choices
    (tree : Setting) : Choices :=
  fun key => under? (key.group.names ++ [key.name]) tree

/- A setting stands in the table of its group. -/
theorem choices_apply
    (tree : Setting)
    (key : Key) :
    tree.choices key =
      (under? key.group.names tree).bind
        (·.get? key.name) := by
  unfold choices
  rw [under?_append]
  congr 1
  funext group
  exact Option.bind_fun_some _

/- A table without fields is left out and holds nothing. -/
theorem bind_get?_tableOf?
    {fields : List (String × Option Setting)}
    (hSorted : Keyed.Sorted fields)
    (name : String) :
    (tableOf? fields).bind (·.get? name) =
      (Keyed.find? name fields).join := by
  rw [← get?_getD_tableOf? hSorted]
  cases tableOf? fields with
  | none => rfl
  | some table => rfl

end Setting

/- The tree of choices holds what is chosen. -/
theorem Choices.choices_tree
    (choices : Choices) :
    choices.tree.choices = choices := by
  have hTop (name : String) :
      choices.tree.get? name =
        (Keyed.find? name choices.topFields).join :=
    Setting.get?_tableOf choices.sorted_topFields name
  have hApi :
      choices.tree.get? "api" =
        Setting.tableOf? (choices.fields .api) :=
    hTop "api"
  have hEngine :
      choices.tree.get? "ksqldb" =
        Setting.tableOf? (choices.fields .engine) :=
    hTop "ksqldb"
  have hTimeout :
      (Setting.tableOf? (choices.fields .engine)).bind
          (·.get? "timeout") =
        Setting.tableOf? (choices.fields .timeout) :=
    Setting.bind_get?_tableOf?
      (choices.sorted_fields .engine) "timeout"
  have hGroup (group : Group) :
      Setting.under? group.names choices.tree =
        Setting.tableOf? (choices.fields group) := by
    cases group with
    | engine =>
        simp only [Group.names, Setting.under?,
          Option.bind_fun_some]
        exact hEngine
    | timeout =>
        simp only [Group.names, Setting.under?,
          Option.bind_fun_some]
        rw [hEngine]
        exact hTimeout
    | api =>
        simp only [Group.names, Setting.under?,
          Option.bind_fun_some]
        exact hApi
  funext key
  rw [Setting.choices_apply, hGroup,
    Setting.bind_get?_tableOf?
      (choices.sorted_fields key.group)]
  cases key <;> rfl

end KsqlBatch

------------------------------------------------------------
-- Fields
------------------------------------------------------------

namespace KsqlBatch

/- Reading goes on with what has been read. -/
theorem ok_bind
    {ε α β : Type}
    (a : α)
    (next : α → Except ε β) :
    (Except.ok a >>= next) = next a :=
  rfl

namespace Setting

/- A value is a text. -/
def IsText
    (setting : Setting) : Prop :=
  ∃ origin text, setting = .scalar origin (.text text)

/- The text that a value is, if it is one. -/
def text? : Setting → Option String
| .scalar _ (.text text) => some text
| _ => none

end Setting

namespace Fields

variable {α : Type}
variable {record : Setting}
variable {name : String}

/- A value that holds others is a table of named fields. -/
theorem fields_of_get?
    {value : Setting}
    (hValue : record.get? name = some value)
    (title : String) :
    record.fields title = .ok (.named record.entries) := by
  cases record with
  | table origin entries => rfl
  | scalar origin value => cases hValue
  | list elements => cases hValue

/- A field that is missing is not read. -/
theorem read?_of_none
    (hNone : record.get? name = none)
    (number : Nat)
    (convert : Setting → Except ConfigFault α) :
    (named record.entries).read? name number convert =
      .ok none := by
  unfold Setting.get? at hNone
  simp only [read?, find?, hNone, Option.map_none]

/- A field of a table is converted. -/
theorem read?_of_some
    {value : Setting}
    (hSome : record.get? name = some value)
    (number : Nat)
    (convert : Setting → Except ConfigFault α) :
    (named record.entries).read? name number convert =
      ((convert value).mapError
        (locate (.name name))).map some := by
  unfold Setting.get? at hSome
  simp only [read?, find?, hSome, Option.map_some]

/- A field that is a text is read as it is. -/
theorem read?_text
    (hText :
      ∀ value, record.get? name = some value → value.IsText)
    (number : Nat) :
    (named record.entries).read? name number
        (ofConversion Setting.toText) =
      .ok ((record.get? name).bind Setting.text?) := by
  cases hValue : record.get? name with
  | none => exact read?_of_none hValue _ _
  | some value =>
      rw [read?_of_some hValue]
      rcases hText value hValue with ⟨origin, text, rfl⟩
      rfl

theorem read?_optionalText
    (hText :
      ∀ value, record.get? name = some value → value.IsText)
    (number : Nat) :
    (named record.entries).read? name number
        (ofConversion Setting.toText?) =
      .ok
        (((record.get? name).bind Setting.text?).map
          some) := by
  cases hValue : record.get? name with
  | none => exact read?_of_none hValue _ _
  | some value =>
      rw [read?_of_some hValue]
      rcases hText value hValue with ⟨origin, text, rfl⟩
      rfl

end Fields

end KsqlBatch

------------------------------------------------------------
-- Groups
------------------------------------------------------------

namespace KsqlBatch

open Fields Setting

/- The timeout is the number in its table. -/
theorem RawTimeout.read_eq
    {timeout value : Setting}
    {secs : Nat}
    (hValue : timeout.get? "secs" = some value)
    (hSecs : value.toUnsigned = .ok secs) :
    RawTimeout.read timeout = .ok { secs } := by
  unfold RawTimeout.read
  simp only [fields_of_get? hValue, ok_bind,
    read?_of_some hValue, ofConversion, hSecs]
  rfl

/-
  With the rest well formed, reading the table of the engine
  depends on the port and then on the endpoint.
-/
theorem RawEngine.read_eq
    {engine port tls timeout : Setting}
    {useTls : Bool}
    {rawTimeout : RawTimeout}
    (hPort : engine.get? "port" = some port)
    (hTls : engine.get? "tls" = some tls)
    (hTimeout : engine.get? "timeout" = some timeout)
    (hUseTls : tls.toBool = .ok useTls)
    (hSecs : RawTimeout.read timeout = .ok rawTimeout)
    (hText :
      ∀ value,
        engine.get? "endpoint" = some value →
          value.IsText) :
    RawEngine.read engine =
      match port.toPort,
          (engine.get? "endpoint").bind text? with
      | .error mismatch, _ =>
          .error (.conversion (mismatch.within (.name "port")))
      | .ok _, none => .error (.missingField "endpoint")
      | .ok port, some endpoint =>
          .ok
            { endpoint, port
              tls := useTls
              timeout := rawTimeout } := by
  unfold RawEngine.read
  simp only [fields_of_get? hPort, ok_bind, read?_text hText,
    read?_of_some hPort, read?_of_some hTls,
    read?_of_some hTimeout, ofConversion, hUseTls, hSecs]
  cases port.toPort with
  | error mismatch => rfl
  | ok number =>
      cases (engine.get? "endpoint").bind text? with
      | none => rfl
      | some endpoint => rfl

/- The access needs a key, but no secret. -/
theorem RawApi.read?_table
    {api : Setting}
    (hTable : ∃ origin entries, api = .table origin entries)
    (hKey :
      ∀ value, api.get? "key" = some value → value.IsText)
    (hSecret :
      ∀ value,
        api.get? "secret" = some value → value.IsText) :
    RawApi.read? api =
      match (api.get? "key").bind text? with
      | none => .error (.missingField "key")
      | some key =>
          .ok
            (some
              { key
                secret :=
                  (api.get? "secret").bind text? }) := by
  have hFields :
      api.fields "RawApi" = .ok (.named api.entries) := by
    rcases hTable with ⟨origin, entries, rfl⟩
    rfl
  have hRead :
      RawApi.read? api = (RawApi.read api).map some := by
    rcases hTable with ⟨origin, entries, rfl⟩
    rfl
  rw [hRead]
  unfold RawApi.read
  simp only [hFields, ok_bind, read?_text hKey,
    read?_optionalText hSecret]
  cases (api.get? "key").bind text? with
  | none => rfl
  | some key =>
      cases (api.get? "secret").bind text? with
      | none => rfl
      | some secret => rfl

end KsqlBatch

------------------------------------------------------------
-- All Settings
------------------------------------------------------------

namespace KsqlBatch

namespace Choices

/- The text that is chosen for a setting, if it is one. -/
def text?
    (choices : Choices)
    (key : Key) : Option String :=
  (choices key).bind Setting.text?

/- The endpoint, the key and the secret are texts. -/
structure HasTexts
    (choices : Choices) : Prop where
  endpoint :
    ∀ value, choices .endpoint = some value → value.IsText
  apiKey :
    ∀ value, choices .apiKey = some value → value.IsText
  apiSecret :
    ∀ value, choices .apiSecret = some value → value.IsText

end Choices

namespace Setting

/- What is given for the access is given under names. -/
def HasNamedAccess
    (tree : Setting) : Prop :=
  ∀ api,
    tree.get? "api" = some api →
      ∃ origin entries, api = .table origin entries

/-
  The settings in a tree, given what becomes of the port. An
  access without a key is noticed first.
-/
def settings
    (tree : Setting)
    (port : Except Mismatch Nat)
    (useTls : Bool)
    (secs : Nat) : Except ConfigFault RawSettings :=
  match tree.get? "api", tree.choices.text? .apiKey, port,
      tree.choices.text? .endpoint with
  | some _, none, _, _ => .error (.missingField "key")
  | _, _, .error mismatch, _ =>
      .error
        (.conversion
          ((mismatch.within (.name "port")).within
            (.name "ksqldb")))
  | _, _, .ok _, none => .error (.missingField "endpoint")
  | _, key, .ok port, some endpoint =>
      .ok
        { engine :=
            { endpoint, port
              tls := useTls
              timeout := { secs } }
          api :=
            key.map fun key =>
              { key, secret := tree.choices.text? .apiSecret } }

variable {tree group : Setting}

/- A setting is looked up in the table of its group. -/
theorem choices_eq_get?
    {key : Key}
    (hGroup : under? key.group.names tree = some group) :
    tree.choices key = group.get? key.name := by
  rw [choices_apply, hGroup, Option.bind_some]

theorem under?_singleton
    (tree : Setting)
    (name : String) :
    under? [name] tree = tree.get? name :=
  Option.bind_fun_some _

/- Without a table for the access nothing stands in it. -/
theorem choices_eq_none_of_access
    {key : Key}
    (hKey : key.group = .api)
    (hNone : tree.get? "api" = none) :
    tree.choices key = none := by
  rw [choices_apply, hKey, Group.names, under?_singleton,
    hNone, Option.bind_none]

end Setting

open Fields Setting

variable {tree : Setting}

/- The settings of the access are those in their table. -/
theorem Fields.read?_access
    (hAccess : tree.HasNamedAccess)
    (hTexts : tree.choices.HasTexts) :
    (named tree.entries).read? "api" 1 RawApi.read? =
      match tree.get? "api", tree.choices.text? .apiKey with
      | none, _ => .ok none
      | some _, none => .error (.missingField "key")
      | some _, some key =>
          .ok
            (some
              (some
                { key
                  secret :=
                    tree.choices.text? .apiSecret })) := by
  cases hApi : tree.get? "api" with
  | none => exact read?_of_none hApi _ _
  | some api =>
      have hGroup :
          under? Group.api.names tree = some api :=
        (under?_singleton tree "api").trans hApi
      have hKey : tree.choices .apiKey = api.get? "key" :=
        choices_eq_get? hGroup
      have hSecret :
          tree.choices .apiSecret = api.get? "secret" :=
        choices_eq_get? hGroup
      have hKeyTexts := hTexts.apiKey
      have hSecretTexts := hTexts.apiSecret
      rw [hKey] at hKeyTexts
      rw [hSecret] at hSecretTexts
      unfold Choices.text?
      rw [read?_of_some hApi,
        RawApi.read?_table (hAccess api hApi) hKeyTexts
          hSecretTexts,
        hKey, hSecret]
      cases (api.get? "key").bind text? <;> rfl

variable {port tls timeout : Setting}
variable {useTls : Bool}
variable {secs : Nat}

/- The settings of the engine are those in its table. -/
theorem exists_engine
    (hTexts : tree.choices.HasTexts)
    (hPort : tree.choices .port = some port)
    (hTls : tree.choices .tls = some tls)
    (hTimeout : tree.choices .timeoutSecs = some timeout)
    (hUseTls : tls.toBool = .ok useTls)
    (hSecs : timeout.toUnsigned = .ok secs) :
    ∃ engine,
      tree.get? "ksqldb" = some engine ∧
        RawEngine.read engine =
          match port.toPort,
              tree.choices.text? .endpoint with
          | .error mismatch, _ =>
              .error
                (.conversion (mismatch.within (.name "port")))
          | .ok _, none => .error (.missingField "endpoint")
          | .ok port, some endpoint =>
              .ok
                { endpoint, port
                  tls := useTls
                  timeout := { secs } } := by
  have hGroup :
      under? Group.engine.names tree = tree.get? "ksqldb" :=
    under?_singleton tree "ksqldb"
  rw [choices_apply] at hPort
  rcases Option.bind_eq_some_iff.mp hPort with
    ⟨engine, hFound, hPort⟩
  have hEngine :
      under? Group.engine.names tree = some engine := hFound
  have hLookup (key : Key) (hKey : key.group = .engine) :
      tree.choices key = engine.get? key.name := by
    refine choices_eq_get? ?_
    rw [hKey]
    exact hEngine
  rw [hLookup .tls rfl] at hTls
  -- The table of the timeout stands inside the one around it.
  have hInner :
      under? (Key.group .timeoutSecs).names tree =
        engine.get? "timeout" := by
    refine (under?_append ["ksqldb"] ["timeout"] tree).trans ?_
    rw [← Group.names, hEngine, Option.bind_some,
      under?_singleton]
  rw [choices_apply, hInner] at hTimeout
  rcases Option.bind_eq_some_iff.mp hTimeout with
    ⟨inner, hInner, hTimeout⟩
  have hEndpoint :
      tree.choices .endpoint = engine.get? "endpoint" :=
    hLookup .endpoint rfl
  have hEndpointTexts := hTexts.endpoint
  rw [hEndpoint] at hEndpointTexts
  refine ⟨engine, hGroup.symm.trans hEngine, ?_⟩
  rw [RawEngine.read_eq hPort hTls hInner hUseTls
    (RawTimeout.read_eq hTimeout hSecs) hEndpointTexts]
  unfold Choices.text?
  rw [hEndpoint]

/-
  With the rest well formed, what is read off a tree depends
  on the texts in it, on the port and on the access.
-/
theorem RawSettings.read_eq
    (hAccess : tree.HasNamedAccess)
    (hTexts : tree.choices.HasTexts)
    (hPort : tree.choices .port = some port)
    (hTls : tree.choices .tls = some tls)
    (hTimeout : tree.choices .timeoutSecs = some timeout)
    (hUseTls : tls.toBool = .ok useTls)
    (hSecs : timeout.toUnsigned = .ok secs) :
    RawSettings.read tree =
      tree.settings port.toPort useTls secs := by
  rcases
    exists_engine hTexts hPort hTls hTimeout hUseTls hSecs
    with ⟨engine, hEngine, hRead⟩
  unfold RawSettings.read Setting.settings
  simp only [fields_of_get? hEngine, ok_bind,
    read?_access hAccess hTexts, read?_of_some hEngine, hRead]
  cases hApi : tree.get? "api" with
  | none =>
      have hKey : tree.choices.text? .apiKey = none := by
        unfold Choices.text?
        rw [choices_eq_none_of_access rfl hApi,
          Option.bind_none]
      rw [hKey]
      cases port.toPort with
      | error mismatch => rfl
      | ok number =>
          cases tree.choices.text? .endpoint <;> rfl
  | some api =>
      cases tree.choices.text? .apiKey with
      | none => rfl
      | some key =>
          cases port.toPort with
          | error mismatch => rfl
          | ok number =>
              cases tree.choices.text? .endpoint <;> rfl

end KsqlBatch
