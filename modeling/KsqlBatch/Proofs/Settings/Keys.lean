import Mathlib.Data.List.Forall2
import Mathlib.Logic.Function.Basic
import KsqlBatch.Proofs.Keyed
import KsqlBatch.Settings.Setting

/-
  This file arranges the settings of a connection by their
  keys. A key stands in a group of settings, which is a table
  of the tree. Setting some keys of a group changes these
  keys and nothing else, whether the keys are set one by one
  or as a table.

  Key definitions include:
    * `Group`
    * `Key`
    * `Choices`
    * `Choices.tree`
    * `Choices.assign`

  Key theorems include:
    * `Setting.mergeEntries_tableOf`
    * `Setting.set_scalar`
    * `Setting.set_table`
    * `Choices.alter_tree`
-/

------------------------------------------------------------
-- Tables with Optional Fields
------------------------------------------------------------

namespace KsqlBatch

namespace Setting

variable {fields : List (String × Option Setting)}
variable {name : String}
variable {value : Setting}

/- The fields that are present. -/
def present
    (fields : List (String × Option Setting)) :
    List (String × Setting) :=
  fields.filterMap fun field =>
    field.2.map fun value => (field.1, value)

/- A table of the fields that are present. -/
def tableOf
    (fields : List (String × Option Setting)) : Setting :=
  .table none (present fields)

/- A table, unless no field is present. -/
def tableOf?
    (fields : List (String × Option Setting)) :
    Option Setting :=
  if (present fields).isEmpty then none
  else some (tableOf fields)

theorem present_cons_none
    (name : String)
    (fields : List (String × Option Setting)) :
    present ((name, none) :: fields) = present fields :=
  rfl

theorem present_cons_some
    (name : String)
    (value : Setting)
    (fields : List (String × Option Setting)) :
    present ((name, some value) :: fields) =
      (name, value) :: present fields :=
  rfl

/- A present field is one of the fields. -/
theorem mem_of_mem_present
    {entry : String × Setting}
    (hEntry : entry ∈ present fields) :
    (entry.1, some entry.2) ∈ fields := by
  rcases List.mem_filterMap.mp hEntry with
    ⟨⟨name, value?⟩, hField, hPresent⟩
  rcases Option.map_eq_some_iff.mp hPresent with
    ⟨value, hValue, rfl⟩
  rw [← hValue]
  exact hField

theorem sorted_present
    (hSorted : Keyed.Sorted fields) :
    Keyed.Sorted (present fields) := by
  induction fields with
  | nil => exact List.Pairwise.nil
  | cons field fields ih =>
      rcases field with ⟨name, _ | value⟩
      · exact ih (List.pairwise_cons.mp hSorted).2
      · rcases List.pairwise_cons.mp hSorted with
          ⟨hAhead, hSorted⟩
        refine List.pairwise_cons.mpr ⟨?_, ih hSorted⟩
        intro entry hEntry
        exact hAhead _ (mem_of_mem_present hEntry)

/- A field is found where it is present. -/
theorem find?_present
    (hSorted : Keyed.Sorted fields)
    (name : String) :
    Keyed.find? name (present fields) =
      (Keyed.find? name fields).join := by
  induction fields with
  | nil => rfl
  | cons field fields ih =>
      rcases List.pairwise_cons.mp hSorted with
        ⟨hAhead, hRest⟩
      rcases field with ⟨other, _ | value⟩
      · rw [present_cons_none, Keyed.find?]
        split
        · rename_i hSame
          rw [hSame]
          refine Keyed.find?_eq_none_of_lt ?_
          intro entry hEntry
          exact hAhead _ (mem_of_mem_present hEntry)
        · exact ih hRest
      · rw [present_cons_some, Keyed.find?, Keyed.find?]
        split
        · rfl
        · exact ih hRest

/- A field that is put in is present. -/
theorem insert_present
    (hSorted : Keyed.Sorted fields)
    (name : String)
    (value : Setting) :
    Keyed.insert name value (present fields) =
      present (Keyed.insert name (some value) fields) := by
  refine
    (Keyed.sorted_insert (sorted_present hSorted)
      ).eq_of_find?_eq
      (sorted_present (Keyed.sorted_insert hSorted)) ?_
  intro other
  rw [Keyed.find?_insert,
    find?_present (Keyed.sorted_insert hSorted),
    Keyed.find?_insert, find?_present hSorted]
  split <;> rfl

theorem put_tableOf
    (hSorted : Keyed.Sorted fields)
    (name : String)
    (value : Setting) :
    put name value (tableOf fields) =
      tableOf (Keyed.insert name (some value) fields) :=
  congrArg (Setting.table none)
    (insert_present hSorted name value)

theorem get?_tableOf
    (hSorted : Keyed.Sorted fields)
    (name : String) :
    (tableOf fields).get? name =
      (Keyed.find? name fields).join :=
  find?_present hSorted name

/- Without fields there is no table, but it would be empty. -/
theorem getD_tableOf?_cases
    (fields : List (String × Option Setting)) :
    (tableOf? fields).getD nil = tableOf fields ∨
      (tableOf? fields).getD nil = nil ∧
        tableOf fields = emptyTable := by
  unfold tableOf?
  split
  · rename_i hEmpty
    refine Or.inr ⟨rfl, ?_⟩
    unfold tableOf
    rw [List.isEmpty_iff.mp hEmpty]
    rfl
  · exact Or.inl rfl

theorem tableOf?_eq_some
    (hSome : present fields ≠ []) :
    tableOf? fields = some (tableOf fields) := by
  unfold tableOf?
  rw [if_neg]
  rw [List.isEmpty_iff]
  exact hSome

/- Without fields there is nothing to be found. -/
theorem get?_getD_tableOf?
    (hSorted : Keyed.Sorted fields)
    (name : String) :
    ((tableOf? fields).getD nil).get? name =
      (Keyed.find? name fields).join := by
  rw [← get?_tableOf hSorted]
  rcases getD_tableOf?_cases fields with
    hTable | ⟨hNil, hTable⟩
  · rw [hTable]
  · rw [hNil, hTable]
    rfl

/- A field that is put in makes a table, if there is none. -/
theorem put_getD_tableOf?
    (hSorted : Keyed.Sorted fields)
    (name : String)
    (value : Setting) :
    some (put name value ((tableOf? fields).getD nil)) =
      tableOf? (Keyed.insert name (some value) fields) := by
  have hSome :
      present (Keyed.insert name (some value) fields) ≠ [] := by
    rw [← insert_present hSorted]
    exact Keyed.insert_ne_nil _ _ _
  rw [tableOf?_eq_some hSome, ← put_tableOf hSorted]
  rcases getD_tableOf?_cases fields with
    hTable | ⟨hNil, hTable⟩
  · rw [hTable]
  · rw [hNil, hTable]
    rfl

end Setting

end KsqlBatch

------------------------------------------------------------
-- Single Values and Tables
------------------------------------------------------------

namespace KsqlBatch

namespace Setting

/- A value that is not made of others. -/
def IsScalar
    (setting : Setting) : Prop :=
  ∃ origin value, setting = .scalar origin value

/- A single value replaces what stands at its place. -/
theorem IsScalar.merge_eq
    {value : Setting}
    (hScalar : value.IsScalar)
    (existing : Option Setting) :
    merge existing value = value := by
  rcases hScalar with ⟨origin, value, rfl⟩
  rw [merge]
  nofun

/- Put single values into a list of fields. -/
def putFields
    (fields : List (String × Option Setting))
    (entries : List (String × Setting)) :
    List (String × Option Setting) :=
  entries.foldl
    (fun fields entry =>
      Keyed.insert (Text.lowercase entry.1) (some entry.2)
        fields)
    fields

/- Single values become fields of the table around them. -/
theorem mergeEntries_tableOf
    {fields : List (String × Option Setting)}
    {entries : List (String × Setting)}
    (hSorted : Keyed.Sorted fields)
    (hScalars : ∀ entry ∈ entries, entry.2.IsScalar) :
    mergeEntries (tableOf fields) entries =
      tableOf (putFields fields entries) := by
  induction entries generalizing fields with
  | nil => rfl
  | cons entry entries ih =>
      rw [List.forall_mem_cons] at hScalars
      rw [mergeEntries, hScalars.1.merge_eq,
        put_tableOf hSorted]
      exact ih (Keyed.sorted_insert hSorted) hScalars.2

/- Entries make a table of nothing. -/
theorem mergeEntries_nil
    {entries : List (String × Setting)}
    (hSome : entries ≠ []) :
    mergeEntries nil entries =
      mergeEntries emptyTable entries := by
  cases entries with
  | nil => exact absurd rfl hSome
  | cons entry entries => rfl

theorem present_putFields_ne_nil
    {fields : List (String × Option Setting)}
    {entries : List (String × Setting)}
    (hSorted : Keyed.Sorted fields)
    (hSome : present fields ≠ [] ∨ entries ≠ []) :
    present (putFields fields entries) ≠ [] := by
  induction entries generalizing fields with
  | nil => exact hSome.resolve_right (absurd rfl)
  | cons entry entries ih =>
      refine ih (Keyed.sorted_insert hSorted) (Or.inl ?_)
      rw [← insert_present hSorted]
      exact Keyed.insert_ne_nil _ _ _

/- Entries make a table, if there is none. -/
theorem mergeEntries_getD_tableOf?
    {fields : List (String × Option Setting)}
    {entries : List (String × Setting)}
    (hSorted : Keyed.Sorted fields)
    (hScalars : ∀ entry ∈ entries, entry.2.IsScalar)
    (hSome : entries ≠ []) :
    some
        (mergeEntries ((tableOf? fields).getD nil) entries) =
      tableOf? (putFields fields entries) := by
  rw [tableOf?_eq_some
      (present_putFields_ne_nil hSorted (Or.inr hSome)),
    ← mergeEntries_tableOf hSorted hScalars]
  rcases getD_tableOf?_cases fields with
    hTable | ⟨hNil, hTable⟩
  · rw [hTable]
  · rw [hNil, hTable, mergeEntries_nil hSome]

end Setting

end KsqlBatch

------------------------------------------------------------
-- Setting under Names
------------------------------------------------------------

namespace KsqlBatch

/- The steps of a path, the first name included. -/
def KeyPath.allSteps
    (path : KeyPath) : List KeyStep :=
  .name path.first :: path.steps

namespace Setting

variable {path : KeyPath}
variable {steps : List KeyStep}
variable {last : String}

/- The last name of a path leads into a table. -/
theorem alter_append_name
    (change : Setting → Setting)
    (steps : List KeyStep)
    (last : String)
    (target : Setting) :
    alter change (steps ++ [.name last]) target =
      alter
        (fun target =>
          put last (change ((target.get? last).getD nil))
            target)
        steps target := by
  induction steps generalizing target with
  | nil => rfl
  | cons step steps ih =>
      cases step <;>
        simp only [List.cons_append, alter, ih]

theorem set_eq_alter
    (hPath : path.allSteps = steps ++ [.name last])
    (value target : Setting) :
    set path value target =
      alter (mergeAt last value) steps target := by
  unfold set
  rw [← KeyPath.allSteps, hPath]
  simp only [List.getLast?_append, List.dropLast_concat]
  rfl

/- A value is set like a table with this one entry. -/
theorem set_eq_alter_mergeEntries
    (hPath : path.allSteps = steps ++ [.name last])
    (hLower : Text.lowercase last = last)
    (value target : Setting) :
    set path value target =
      alter (mergeEntries · [(last, value)]) steps target := by
  rw [set_eq_alter hPath]
  congr 1
  funext target
  rw [mergeEntries, mergeEntries, hLower]
  rfl

/- A table is set like its entries. -/
theorem set_table
    (hPath : path.allSteps = steps ++ [.name last])
    {entries : List (String × Setting)}
    (hSome : entries ≠ [])
    (origin : Option String)
    (target : Setting) :
    set path (.table origin entries) target =
      alter (mergeEntries · entries) path.allSteps target := by
  rw [set_eq_alter hPath, hPath, alter_append_name]
  congr 1
  funext target
  unfold mergeAt
  rw [merge]
  cases target.get? last with
  | none =>
      rw [Option.getD_none, Option.getD_none,
        mergeEntries_nil hSome]
  | some found => rfl

end Setting

end KsqlBatch

------------------------------------------------------------
-- Keys
------------------------------------------------------------

namespace KsqlBatch

/- The tables that hold the settings of a connection. -/
inductive Group where
| engine
| timeout
| api
deriving DecidableEq, Repr, Inhabited

/- The settings of a connection. -/
inductive Key where
| endpoint
| port
| tls
| timeoutSecs
| apiKey
| apiSecret
deriving DecidableEq, Repr, Inhabited

namespace Group

/- The names that lead to a table. -/
def names : Group → List String
| .engine => ["ksqldb"]
| .timeout => ["ksqldb", "timeout"]
| .api => ["api"]

/- The steps that lead to a table. -/
def steps
    (group : Group) : List KeyStep :=
  group.names.map .name

/- The names in a table, in order. -/
def fieldNames : Group → List String
| .engine => ["endpoint", "port", "timeout", "tls"]
| .timeout => ["secs"]
| .api => ["key", "secret"]

end Group

namespace Key

/- The table that holds a setting. -/
def group : Key → Group
| .endpoint => .engine
| .port => .engine
| .tls => .engine
| .timeoutSecs => .timeout
| .apiKey => .api
| .apiSecret => .api

/- The name of a setting in its table. -/
def name : Key → String
| .endpoint => "endpoint"
| .port => "port"
| .tls => "tls"
| .timeoutSecs => "secs"
| .apiKey => "key"
| .apiSecret => "secret"

/- The steps that lead to a setting. -/
def steps
    (key : Key) : List KeyStep :=
  key.group.steps ++ [.name key.name]

/- A setting with dots between its names. -/
def text
    (key : Key) : String :=
  ".".intercalate (key.group.names ++ [key.name])

theorem lowercase_name
    (key : Key) : Text.lowercase key.name = key.name := by
  cases key <;> decide +kernel

/- A text with dots is a path. -/
theorem parse_text
    (key : Key) :
    KeyPath.parse key.text = .ok (KeyPath.ofText key.text) := by
  cases key <;> decide +kernel

/- A text with dots is read as the setting. -/
theorem allSteps_ofText_text
    (key : Key) :
    (KeyPath.ofText key.text).allSteps = key.steps := by
  cases key <;> decide +kernel

end Key

end KsqlBatch

------------------------------------------------------------
-- Choices
------------------------------------------------------------

namespace KsqlBatch

/- What is chosen for each setting, if anything is. -/
abbrev Choices := Key → Option Setting

namespace Choices

open Setting

/- The settings of the timeout, in the order of names. -/
def timeoutFields
    (choices : Choices) : List (String × Option Setting) :=
  [("secs", choices .timeoutSecs)]

/- The fields of a table, in the order of their names. -/
def fields
    (choices : Choices) :
    Group → List (String × Option Setting)
| .engine =>
    [("endpoint", choices .endpoint), ("port", choices .port),
      ("timeout", tableOf? choices.timeoutFields),
      ("tls", choices .tls)]
| .timeout => choices.timeoutFields
| .api =>
    [("key", choices .apiKey), ("secret", choices .apiSecret)]

/- The tables at the top, in the order of their names. -/
def topFields
    (choices : Choices) : List (String × Option Setting) :=
  [("api", tableOf? (choices.fields .api)),
    ("ksqldb", tableOf? (choices.fields .engine))]

/- The tree in which each setting is what is chosen for it. -/
def tree
    (choices : Choices) : Setting :=
  tableOf choices.topFields

/- Choose some settings anew. Later ones count more. -/
def assign
    (choices : Choices)
    (given : List (Key × Setting)) : Choices :=
  given.foldl
    (fun choices pair =>
      Function.update choices pair.1 (some pair.2))
    choices

theorem sorted_fields
    (choices : Choices)
    (group : Group) :
    Keyed.Sorted (choices.fields group) := by
  have hNames :
      group.fieldNames.Pairwise (· < ·) := by
    cases group <;> decide
  refine List.pairwise_map.mp ?_
  cases group <;> exact hNames

theorem sorted_topFields
    (choices : Choices) :
    Keyed.Sorted choices.topFields := by
  have hNames : ["api", "ksqldb"].Pairwise (· < ·) := by
    decide
  exact List.pairwise_map.mp hNames

/- A chosen setting is a field of its table. -/
theorem insert_fields
    (choices : Choices)
    (key : Key)
    (value : Setting) :
    Keyed.insert key.name (some value)
        (choices.fields key.group) =
      fields (Function.update choices key (some value))
        key.group := by
  cases key <;> rfl

/- A table at the top of the tree is put in its place. -/
theorem put_engine_tree
    {choices next : Choices}
    {engine : Setting}
    (hApi : next.fields .api = choices.fields .api)
    (hEngine :
      some engine = tableOf? (next.fields .engine)) :
    put "ksqldb" engine choices.tree = next.tree := by
  have hFields :
      Keyed.insert "ksqldb" (some engine) choices.topFields =
        next.topFields := by
    unfold topFields
    rw [hApi, hEngine]
    rfl
  unfold tree
  rw [put_tableOf choices.sorted_topFields, hFields]

theorem put_api_tree
    {choices next : Choices}
    {api : Setting}
    (hEngine :
      next.fields .engine = choices.fields .engine)
    (hApi : some api = tableOf? (next.fields .api)) :
    put "api" api choices.tree = next.tree := by
  have hFields :
      Keyed.insert "api" (some api) choices.topFields =
        next.topFields := by
    unfold topFields
    rw [hApi, hEngine]
    rfl
  unfold tree
  rw [put_tableOf choices.sorted_topFields, hFields]

/-
  Changing a table of the tree changes the choices for the
  settings in it.
-/
theorem alter_tree
    {choices next : Choices}
    {group : Group}
    {change : Setting → Setting}
    (hOther :
      ∀ key : Key,
        key.group ≠ group → next key = choices key)
    (hChange :
      some (change
          ((tableOf? (choices.fields group)).getD nil)) =
        tableOf? (next.fields group)) :
    alter change group.steps choices.tree = next.tree := by
  have hEngine :
      choices.tree.get? "ksqldb" =
        tableOf? (choices.fields .engine) :=
    get?_tableOf choices.sorted_topFields "ksqldb"
  have hApi :
      choices.tree.get? "api" =
        tableOf? (choices.fields .api) :=
    get?_tableOf choices.sorted_topFields "api"
  simp only [Group.steps]
  cases group with
  | engine =>
      have hKeep : next.fields .api = choices.fields .api := by
        rw [fields, fields, hOther .apiKey nofun,
          hOther .apiSecret nofun]
      rw [← hEngine] at hChange
      exact put_engine_tree hKeep hChange
  | timeout =>
      have hKeep : next.fields .api = choices.fields .api := by
        rw [fields, fields, hOther .apiKey nofun,
          hOther .apiSecret nofun]
      have hSorted := choices.sorted_fields .engine
      have hTimeout :
          ((tableOf? (choices.fields .engine)).getD nil).get?
              "timeout" =
            tableOf? (choices.fields .timeout) :=
        get?_getD_tableOf? hSorted "timeout"
      have hFields :
          Keyed.insert "timeout"
              (tableOf? (next.fields .timeout))
              (choices.fields .engine) =
            next.fields .engine := by
        rw [fields, fields, hOther .endpoint nofun,
          hOther .port nofun, hOther .tls nofun]
        rfl
      -- The table of the engine holds the one of the timeout.
      refine put_engine_tree hKeep ?_
      rw [hEngine]
      refine (put_getD_tableOf? hSorted "timeout" _).trans ?_
      rw [hTimeout, ← hFields, ← hChange]
      rfl
  | api =>
      have hKeep :
          next.fields .engine = choices.fields .engine := by
        simp only [fields, timeoutFields]
        rw [hOther .endpoint nofun, hOther .port nofun,
          hOther .tls nofun, hOther .timeoutSecs nofun]
      rw [← hApi] at hChange
      exact put_api_tree hKeep hChange

end Choices

end KsqlBatch

------------------------------------------------------------
-- Entries that Give Values
------------------------------------------------------------

namespace KsqlBatch

/- The last value that is given to a setting. -/
def Key.lastIn?
    (key : Key) :
    List (Key × Setting) → Option Setting
| [] => none
| (other, value) :: given =>
    (key.lastIn? given).or
      (if other = key then some value else none)

theorem Key.lastIn?_append
    (key : Key)
    (given later : List (Key × Setting)) :
    key.lastIn? (given ++ later) =
      (key.lastIn? later).or (key.lastIn? given) := by
  induction given with
  | nil => exact (Option.or_none).symm
  | cons pair given ih =>
      rcases pair with ⟨other, value⟩
      rw [List.cons_append, Key.lastIn?, Key.lastIn?, ih,
        Option.or_assoc]

/- The entries of a table give values to settings in it. -/
def Group.Gives
    (group : Group) :
    List (String × Setting) → List (Key × Setting) → Prop :=
  List.Forall₂ fun entry pair =>
    pair.1.group = group ∧
      Text.lowercase entry.1 = pair.1.name ∧
      pair.2 = entry.2 ∧ entry.2.IsScalar

/-
  An entry gives values to settings: a single value to the
  one it names, or a table to some of those it holds.
-/
inductive Key.Given :
    String × Setting → List (Key × Setting) → Prop
| value
    (key : Key)
    (text : String)
    (origin : Option String)
    (value : Scalar)
    (hText :
      (KeyPath.ofText text).allSteps = key.steps) :
    Given (text, .scalar origin value)
      [(key, .scalar origin value)]
| table
    (group : Group)
    (text : String)
    (origin : Option String)
    (entries : List (String × Setting))
    (given : List (Key × Setting))
    (hText :
      (KeyPath.ofText text).allSteps = group.steps)
    (hSome : entries ≠ [])
    (hEntries : group.Gives entries given) :
    Given (text, .table origin entries) given

namespace Choices

open Setting

variable {group : Group}
variable {entries : List (String × Setting)}
variable {given : List (Key × Setting)}

theorem assign_append
    (choices : Choices)
    (given later : List (Key × Setting)) :
    choices.assign (given ++ later) =
      (choices.assign given).assign later :=
  List.foldl_append

/- The last value that is given counts. -/
theorem assign_apply
    (choices : Choices)
    (given : List (Key × Setting))
    (key : Key) :
    choices.assign given key =
      (key.lastIn? given).or (choices key) := by
  induction given generalizing choices with
  | nil => rfl
  | cons pair given ih =>
      rcases pair with ⟨other, value⟩
      have hStep :
          choices.assign ((other, value) :: given) =
            assign
              (Function.update choices other (some value))
              given :=
        rfl
      rw [hStep, ih, Key.lastIn?, Option.or_assoc]
      congr 1
      by_cases hSame : other = key
      · rw [hSame, if_pos rfl, Function.update_self]
        rfl
      · rw [if_neg hSame,
          Function.update_of_ne (Ne.symm hSame)]
        rfl

/- Settings outside of the table keep their values. -/
theorem assign_of_group_ne
    (hGives : group.Gives entries given)
    (choices : Choices)
    {key : Key}
    (hKey : key.group ≠ group) :
    choices.assign given key = choices key := by
  induction hGives generalizing choices with
  | nil => rfl
  | @cons entry pair entries given hPair _ ih =>
      refine (ih _).trans (Function.update_of_ne ?_ _ _)
      rintro rfl
      exact hKey hPair.1

theorem putFields_fields
    (hGives : group.Gives entries given)
    (choices : Choices) :
    putFields (choices.fields group) entries =
      (choices.assign given).fields group := by
  induction hGives generalizing choices with
  | nil => rfl
  | @cons entry pair entries given hPair _ ih =>
      rcases pair with ⟨key, value⟩
      rcases hPair with ⟨rfl, hName, rfl, _⟩
      refine Eq.trans ?_ (ih _)
      rw [← insert_fields, ← hName]
      rfl

theorem isScalar_of_gives
    (hGives : group.Gives entries given) :
    ∀ entry ∈ entries, entry.2.IsScalar := by
  induction hGives with
  | nil => nofun
  | cons hPair _ ih =>
      exact List.forall_mem_cons.mpr ⟨hPair.2.2.2, ih⟩

/- Merging entries into their table chooses their values. -/
theorem alter_mergeEntries_tree
    (hGives : group.Gives entries given)
    (hSome : entries ≠ [])
    (choices : Choices) :
    alter (mergeEntries · entries) group.steps choices.tree =
      (choices.assign given).tree := by
  refine alter_tree ?_ ?_
  · intro key hKey
    exact assign_of_group_ne hGives choices hKey
  · rw [← putFields_fields hGives]
    exact
      mergeEntries_getD_tableOf? (choices.sorted_fields group)
        (isScalar_of_gives hGives) hSome

/- Setting a single value chooses it and nothing else. -/
theorem set_scalar_tree
    {path : KeyPath}
    {key : Key}
    (hPath : path.allSteps = key.steps)
    (choices : Choices)
    (origin : Option String)
    (value : Scalar) :
    set path (.scalar origin value) choices.tree =
      (choices.assign [(key, .scalar origin value)]).tree := by
  rw [set_eq_alter_mergeEntries hPath key.lowercase_name]
  refine alter_mergeEntries_tree ?_ (List.cons_ne_nil _ _) _
  exact
    .cons ⟨rfl, key.lowercase_name, rfl, _, _, rfl⟩ .nil

/- Setting a table chooses the values that it gives. -/
theorem set_table_tree
    {path : KeyPath}
    (hPath : path.allSteps = group.steps)
    (hGives : group.Gives entries given)
    (hSome : entries ≠ [])
    (choices : Choices)
    (origin : Option String) :
    set path (.table origin entries) choices.tree =
      (choices.assign given).tree := by
  have hSteps :
      ∃ front last,
        group.steps = front ++ [KeyStep.name last] := by
    cases group with
    | engine => exact ⟨[], "ksqldb", rfl⟩
    | timeout => exact ⟨[.name "ksqldb"], "timeout", rfl⟩
    | api => exact ⟨[], "api", rfl⟩
  rcases hSteps with ⟨front, last, hSteps⟩
  rw [set_table (hPath.trans hSteps) hSome, hPath]
  exact alter_mergeEntries_tree hGives hSome choices

/- Setting all entries chooses all the values they give. -/
theorem setAll_tree
    {values : List (String × Setting)}
    {parts : List (List (Key × Setting))}
    (hGiven : List.Forall₂ Key.Given values parts)
    (choices : Choices) :
    setAll choices.tree values =
      (choices.assign parts.flatten).tree := by
  induction hGiven generalizing choices with
  | nil => rfl
  | @cons entry part values parts hEntry _ ih =>
      have hSet :
          set (KeyPath.ofText entry.1) entry.2 choices.tree =
            (choices.assign part).tree := by
        cases hEntry with
        | value key text origin value hText =>
            exact set_scalar_tree hText choices origin value
        | table group text origin entries given hText hSome
            hEntries =>
            exact
              set_table_tree hText hEntries hSome choices
                origin
      rw [List.flatten_cons, assign_append, ← ih, ← hSet]
      rfl

end Choices

end KsqlBatch
