import KsqlBatch.Proofs.Settings.Precedence
import KsqlBatch.Proofs.Settings.Records
import KsqlBatch.Proofs.Text.Blank

/-
  This file says which settings make a connection and which
  fault the others have. An access without a key is noticed
  first, then a missing endpoint, then a blank one, and at
  last a timeout of zero.

  Key definitions include:
    * `Setting.IsWellFormed`
    * `Setting.LacksKey`
    * `Setting.Describes`
    * `Loader.Verdict`
    * `Connection.IsChecked`

  Key theorems include:
    * `Loader.verdict_connect`
    * `Loader.verdict_connected`
    * `Loader.verdict_load`
    * `Loader.isChecked_of_load`

  The main result is `Loader.load_verdict`.
-/

------------------------------------------------------------
-- Given Texts
------------------------------------------------------------

namespace KsqlBatch

/- The last value for a setting is one of those given. -/
theorem Key.mem_of_lastIn?_eq_some
    {key : Key}
    {given : List (Key × Setting)}
    {value : Setting}
    (hLast : key.lastIn? given = some value) :
    (key, value) ∈ given := by
  induction given with
  | nil => cases hLast
  | cons pair given ih =>
      rcases pair with ⟨other, first⟩
      rw [Key.lastIn?, Option.or_eq_some_iff] at hLast
      rcases hLast with hLater | ⟨_, hFirst⟩
      · exact List.mem_cons_of_mem _ (ih hLater)
      · by_cases hSame : other = key
        · rw [if_pos hSame] at hFirst
          cases hFirst
          rw [hSame]
          exact List.mem_cons_self
        · rw [if_neg hSame] at hFirst
          cases hFirst

/- If all values are texts, then so are the effective ones. -/
theorem Loader.hasTexts_effective
    {sources overrides : List (Key × Setting)}
    (hTexts :
      ∀ pair ∈ sources ++ overrides, pair.2.IsText) :
    (effective sources overrides).HasTexts := by
  have hText
      (key : Key)
      (hBuiltIn : builtIn key = none)
      (value : Setting)
      (hValue :
        effective sources overrides key = some value) :
      value.IsText := by
    unfold effective at hValue
    rw [hBuiltIn, Option.or_none,
      Option.or_eq_some_iff] at hValue
    have hGiven : (key, value) ∈ sources ++ overrides := by
      rw [List.mem_append]
      rcases hValue with hLast | ⟨_, hLast⟩
      · exact Or.inr (Key.mem_of_lastIn?_eq_some hLast)
      · exact Or.inl (Key.mem_of_lastIn?_eq_some hLast)
    exact hTexts _ hGiven
  exact
    { endpoint := hText .endpoint rfl
      apiKey := hText .apiKey rfl
      apiSecret := hText .apiSecret rfl }

namespace Choices

variable (choices : Choices)

/- The access of the tree is what is chosen for it. -/
theorem get?_api_tree :
    choices.tree.get? "api" =
      Setting.tableOf? (choices.fields .api) :=
  Setting.get?_tableOf choices.sorted_topFields "api"

theorem hasNamedAccess_tree :
    choices.tree.HasNamedAccess := by
  intro api hApi
  rw [get?_api_tree, Setting.tableOf?] at hApi
  split at hApi
  · cases hApi
  · cases hApi
    exact ⟨_, _, rfl⟩

/- The tree has an access for a key or a secret only. -/
theorem isSome_get?_api_tree :
    (choices.tree.get? "api").isSome = true ↔
      (choices .apiKey).isSome = true ∨
        (choices .apiSecret).isSome = true := by
  rw [get?_api_tree, fields]
  cases choices .apiKey <;> cases choices .apiSecret <;>
    simp [Setting.tableOf?, Setting.present]

end Choices

end KsqlBatch

------------------------------------------------------------
-- Verdicts
------------------------------------------------------------

namespace KsqlBatch

namespace Setting

variable (tree : Setting)

/- Port, encryption and timeout can be understood. -/
structure IsWellFormed
    (port : Nat)
    (useTls : Bool)
    (secs : Nat) : Prop where
  port :
    ∃ value,
      tree.choices .port = some value ∧
        value.toPort = .ok port
  tls :
    ∃ value,
      tree.choices .tls = some value ∧
        value.toBool = .ok useTls
  timeout :
    ∃ value,
      tree.choices .timeoutSecs = some value ∧
        value.toUnsigned = .ok secs

/- Something is given for the access, but not the key. -/
def LacksKey : Prop :=
  (tree.get? "api").isSome = true ∧
    tree.choices.text? .apiKey = none

/- No endpoint is given. -/
def LacksEndpoint : Prop :=
  tree.choices.text? .endpoint = none

/- The endpoint consists of white space. -/
def HasBlankEndpoint : Prop :=
  ∃ text,
    tree.choices.text? .endpoint = some text ∧
      ∀ c ∈ text.toList, Text.isWhiteSpace c = true

/-
  A tree describes a connection. The endpoint is what is left
  between white space, and there are credentials if there is
  a key.
-/
structure Describes
    (port : Nat)
    (useTls : Bool)
    (secs : Nat)
    (connection : Connection) : Prop where
  endpoint :
    ∃ text,
      tree.choices.text? .endpoint = some text ∧
        connection.endpoint = Text.trimWhiteSpace text ∧
        Text.IsStripped Text.isWhiteSpace text.toList
          connection.endpoint.toList
  port : connection.port = port
  tls : connection.useTls = useTls
  timeout : connection.timeoutSecs = secs
  credentials :
    connection.credentials =
      (tree.choices.text? .apiKey).map fun key =>
        { key, secret := tree.choices.text? .apiSecret }

/- A tree describes one connection only. -/
theorem Describes.eq
    {tree : Setting}
    {port : Nat}
    {useTls : Bool}
    {secs : Nat}
    {connection : Connection}
    {text : String}
    (hDescribes : tree.Describes port useTls secs connection)
    (hText : tree.choices.text? .endpoint = some text) :
    connection =
      { endpoint := Text.trimWhiteSpace text
        port
        useTls
        timeoutSecs := secs
        credentials :=
          (tree.choices.text? .apiKey).map fun key =>
            { key
              secret := tree.choices.text? .apiSecret } } := by
  rcases hDescribes.endpoint with ⟨other, hOther, hSame, _⟩
  rw [hText] at hOther
  cases hOther
  cases connection
  simp only [Connection.mk.injEq]
  exact
    ⟨hSame, hDescribes.port, hDescribes.tls,
      hDescribes.timeout, hDescribes.credentials⟩

end Setting

namespace Loader

/-
  What is made of a tree: when it is accepted, which
  connection it stands for then, and when it has which fault.
-/
structure Verdict
    (tree : Setting)
    (port : Nat)
    (useTls : Bool)
    (secs : Nat)
    (result : Except RunError Connection) : Prop where
  accepted_iff :
    (∃ connection, result = .ok connection) ↔
      ¬ tree.LacksKey ∧ ¬ tree.LacksEndpoint ∧
        ¬ tree.HasBlankEndpoint ∧ secs ≠ 0
  connection :
    ∀ connection,
      result = .ok connection →
        tree.Describes port useTls secs connection
  key_iff :
    result = .error (.config (.missingField "key")) ↔
      tree.LacksKey
  endpoint_iff :
    result = .error (.config (.missingField "endpoint")) ↔
      tree.LacksEndpoint ∧ ¬ tree.LacksKey
  blank_iff :
    result = .error (.invalidConfig .blankEndpoint) ↔
      tree.HasBlankEndpoint ∧ ¬ tree.LacksKey
  timeout_iff :
    result = .error (.invalidConfig .zeroTimeout) ↔
      secs = 0 ∧ ¬ tree.HasBlankEndpoint ∧
        ¬ tree.LacksEndpoint ∧ ¬ tree.LacksKey

/- The outcome of settings that may have a fault. -/
def connected
    (settings : Except ConfigFault RawSettings) :
    Except RunError Connection :=
  match settings with
  | .error fault => .error (.config fault)
  | .ok settings => connect settings

theorem fst_build
    (tree : Setting) :
    (build tree).1 = connected (RawSettings.read tree) := by
  unfold build connected
  cases RawSettings.read tree <;> rfl

variable {tree : Setting}
variable {port : Nat}
variable {useTls : Bool}
variable {secs : Nat}

/- Without a key the rest of the settings does not matter. -/
theorem settings_of_lacksKey
    (hKey : tree.LacksKey)
    (port : Except Mismatch Nat) :
    tree.settings port useTls secs =
      .error (.missingField "key") := by
  rcases hKey with ⟨hAccess, hKey⟩
  rcases Option.isSome_iff_exists.mp hAccess with ⟨api, hApi⟩
  unfold Setting.settings
  rw [hApi, hKey]

/- With a key, or without any access, the engine decides. -/
theorem settings_of_not_lacksKey
    (hKey : ¬ tree.LacksKey)
    (port : Except Mismatch Nat) :
    tree.settings port useTls secs =
      match port, tree.choices.text? .endpoint with
      | .error mismatch, _ =>
          .error
            (.conversion
              ((mismatch.within (.name "port")).within
                (.name "ksqldb")))
      | .ok _, none => .error (.missingField "endpoint")
      | .ok port, some endpoint =>
          .ok
            { engine :=
                { endpoint, port
                  tls := useTls
                  timeout := { secs } }
              api :=
                (tree.choices.text? .apiKey).map fun key =>
                  { key
                    secret :=
                      tree.choices.text? .apiSecret } } := by
  unfold Setting.LacksKey at hKey
  unfold Setting.settings
  cases hApi : tree.get? "api" with
  | none =>
      cases port with
      | error mismatch => rfl
      | ok port => cases tree.choices.text? .endpoint <;> rfl
  | some api =>
      cases hText : tree.choices.text? .apiKey with
      | none =>
          rw [hApi] at hKey
          exact absurd ⟨rfl, hText⟩ hKey
      | some key =>
          cases port with
          | error mismatch => rfl
          | ok port =>
              cases tree.choices.text? .endpoint <;> rfl

/- The endpoint is blank if nothing is left of its text. -/
theorem trimWhiteSpace_eq_empty_iff_hasBlankEndpoint
    {text : String}
    (hText : tree.choices.text? .endpoint = some text) :
    Text.trimWhiteSpace text = "" ↔ tree.HasBlankEndpoint := by
  rw [Text.trimWhiteSpace_eq_empty_iff]
  constructor
  · intro hBlank
    exact ⟨text, hText, hBlank⟩
  · rintro ⟨other, hOther, hBlank⟩
    rw [hText] at hOther
    cases hOther
    exact hBlank

/- The verdict if nothing is missing. -/
theorem verdict_connect
    {text : String}
    (hKey : ¬ tree.LacksKey)
    (hText : tree.choices.text? .endpoint = some text) :
    Verdict tree port useTls secs
      (connect
        { engine :=
            { endpoint := text, port
              tls := useTls
              timeout := { secs } }
          api :=
            (tree.choices.text? .apiKey).map fun key =>
              { key
                secret := tree.choices.text? .apiSecret } }) := by
  have hEndpoint : ¬ tree.LacksEndpoint := by
    unfold Setting.LacksEndpoint
    rw [hText]
    exact Option.some_ne_none text
  have hTrim :=
    trimWhiteSpace_eq_empty_iff_hasBlankEndpoint hText
  unfold connect
  dsimp only
  by_cases hBlank : tree.HasBlankEndpoint
  · rw [if_pos (hTrim.mpr hBlank)]
    exact
      { accepted_iff := by simp [hBlank]
        connection := nofun
        key_iff := by simp [hKey]
        endpoint_iff := by simp [hEndpoint]
        blank_iff := by simp [hKey, hBlank]
        timeout_iff := by simp [hBlank] }
  rw [if_neg (mt hTrim.mp hBlank)]
  by_cases hZero : secs = 0
  · rw [if_pos hZero]
    exact
      { accepted_iff := by simp [hZero]
        connection := nofun
        key_iff := by simp [hKey]
        endpoint_iff := by simp [hEndpoint]
        blank_iff := by simp [hBlank]
        timeout_iff := by
          simp [hKey, hEndpoint, hBlank, hZero] }
  rw [if_neg hZero]
  refine
    { accepted_iff := by simp [hKey, hEndpoint, hBlank, hZero]
      connection := ?_
      key_iff := by simp [hKey]
      endpoint_iff := by simp [hEndpoint]
      blank_iff := by simp [hBlank]
      timeout_iff := by simp [hZero] }
  intro connection hConnection
  cases hConnection
  exact
    { endpoint :=
        ⟨text, hText, rfl, Text.isStripped_trimWhiteSpace text⟩
      port := rfl
      tls := rfl
      timeout := rfl
      credentials := by
        dsimp only
        rw [Option.map_map]
        rfl }

/- The verdict on the settings in a tree. -/
theorem verdict_connected
    (tree : Setting)
    (port : Nat)
    (useTls : Bool)
    (secs : Nat) :
    Verdict tree port useTls secs
      (connected (tree.settings (.ok port) useTls secs)) := by
  by_cases hKey : tree.LacksKey
  · rw [settings_of_lacksKey hKey, connected]
    exact
      { accepted_iff := by simp [hKey]
        connection := nofun
        key_iff := by simp [hKey]
        endpoint_iff := by simp [hKey]
        blank_iff := by simp [hKey]
        timeout_iff := by simp [hKey] }
  rw [settings_of_not_lacksKey hKey]
  cases hText : tree.choices.text? .endpoint with
  | none =>
      have hEndpoint : tree.LacksEndpoint := hText
      have hBlank : ¬ tree.HasBlankEndpoint := by
        rintro ⟨text, hSome, _⟩
        rw [hText] at hSome
        cases hSome
      exact
        { accepted_iff := by simp [connected, hEndpoint]
          connection := nofun
          key_iff := by simp [connected, hKey]
          endpoint_iff := by simp [connected, hKey, hEndpoint]
          blank_iff := by simp [connected, hBlank]
          timeout_iff := by simp [connected, hEndpoint] }
  | some text => exact verdict_connect hKey hText

end Loader

end KsqlBatch

------------------------------------------------------------
-- Checked Connections
------------------------------------------------------------

namespace KsqlBatch

namespace Loader

variable {connection : Connection}

end Loader

end KsqlBatch

------------------------------------------------------------
-- Loaded Connections
------------------------------------------------------------

namespace KsqlBatch

namespace Loader

variable {disk : FileSystem Id}
variable {environment : List (String × String)}
variable {layers : List Layer}

/- The verdict on the layers that a tree is gathered from. -/
theorem verdict_load
    {tree : Setting}
    {port : Nat}
    {useTls : Bool}
    {secs : Nat}
    (hTree :
      gathered disk environment layers = .ok tree)
    (hAccess : tree.HasNamedAccess)
    (hTexts : tree.choices.HasTexts)
    (hWellFormed : tree.IsWellFormed port useTls secs) :
    Verdict tree port useTls secs
      (Id.run (load disk environment layers)).1 := by
  rcases hWellFormed.port with ⟨_, hPort, hNumber⟩
  rcases hWellFormed.tls with ⟨_, hTls, hUseTls⟩
  rcases hWellFormed.timeout with ⟨_, hTimeout, hSecs⟩
  rw [run_load_eq_gathered, hTree]
  dsimp only
  rw [fst_build,
    RawSettings.read_eq hAccess hTexts hPort hTls hTimeout
      hUseTls hSecs,
    hNumber]
  exact verdict_connected tree port useTls secs

end Loader

end KsqlBatch
