import KsqlBatch.Proofs.Engine.BaseUrl
import KsqlBatch.Proofs.Settings.Acceptance
import KsqlBatch.Proofs.Settings.PropertyLines
import KsqlBatch.Proofs.Text.Digits

/-
  This file says that the port of a connection is the one
  that is given, and that greater numbers are refused. The
  base URL names this port or, if the endpoint names a scheme
  of its own, is the endpoint and does not depend on the port.

  Key definitions include:
    * `Setting.SaysNumber`
    * `Connection.NamesPort`
    * `Loader.GivePort`
    * `Setting.HasValidRest`

  Key theorems include:
    * `Setting.SaysNumber.toPort_eq`
    * `Setting.SaysNumber.exists_mismatch`
    * `Connection.namesPort_iff`
    * `Loader.load_of_port`
    * `Loader.load_of_great_port`

  The main result is `Loader.load_port`.
-/

------------------------------------------------------------
-- Numbers of Values
------------------------------------------------------------

namespace KsqlBatch

namespace Setting

/- A value says a number, in decimal digits or by itself. -/
inductive SaysNumber : Setting → Nat → Prop
| text
    (origin : Option String)
    (text : String)
    (n : Nat)
    (hDecimal : Text.IsDecimal text n) :
    SaysNumber (.scalar origin (.text text)) n
| signed
    (origin : Option String)
    (n : Nat) :
    SaysNumber (.scalar origin (.signed n)) n
| unsigned
    (origin : Option String)
    (n : Nat) :
    SaysNumber (.scalar origin (.unsigned n)) n

variable {text : String}
variable {value : Setting}
variable {n : Nat}

/- A number is none of the words for truth values. -/
theorem wordValue?_of_isDecimal
    (hDecimal : Text.IsDecimal text n) :
    wordValue? text = none := by
  have hWord
      (word : String)
      (c : Char)
      (hChar : c ∈ word.toList)
      (hLetter : c.isDigit = false) :
      text ≠ word :=
    hDecimal.ne_of_not_isDigit hChar hLetter
  unfold wordValue?
  rw [hDecimal.lowercase_eq]
  dsimp only
  rw [if_neg, if_neg]
  · exact
      not_or.mpr
        ⟨hWord "false" 'f' (by decide) (by decide),
          not_or.mpr
            ⟨hWord "off" 'o' (by decide) (by decide),
              hWord "no" 'n' (by decide) (by decide)⟩⟩
  · exact
      not_or.mpr
        ⟨hWord "true" 't' (by decide) (by decide),
          not_or.mpr
            ⟨hWord "on" 'o' (by decide) (by decide),
              hWord "yes" 'y' (by decide) (by decide)⟩⟩

theorem decimalNumber_eq
    (digits : List Char) :
    KeyPath.decimalNumber digits =
      Nat.ofDigitChars 10 digits 0 := by
  unfold KeyPath.decimalNumber Nat.ofDigitChars
  congr 1
  funext number c
  rw [Nat.mul_comm]
  rfl

/- A decimal text is read as its number up to a limit. -/
theorem decimal?_of_isDecimal
    (hDecimal : Text.IsDecimal text n) :
    decimal? text =
      if n ≤ unsignedLimit then some n else none := by
  have hPlus : ∀ rest, text.toList ≠ '+' :: rest := by
    intro rest hText
    have hDigit := hDecimal.digits '+'
    rw [hText] at hDigit
    exact absurd (hDigit List.mem_cons_self) (by decide)
  have hDigits :
      text.toList.all Text.isDecimalDigit = true := by
    rw [List.all_eq_true]
    intro c hChar
    exact hDecimal.digits c hChar
  unfold decimal?
  -- No plus sign stands in front of the digits.
  simp only
  rw [if_pos ⟨hDecimal.some_digit, hDigits⟩,
    decimalNumber_eq, hDecimal.number]

/- A number of 64 bits is converted to itself. -/
theorem SaysNumber.toUnsigned_eq
    (hNumber : value.SaysNumber n)
    (hLimit : n ≤ unsignedLimit) :
    value.toUnsigned = .ok n := by
  unfold toUnsigned
  cases hNumber with
  | text origin text n hDecimal =>
      dsimp only
      rw [wordValue?_of_isDecimal hDecimal,
        decimal?_of_isDecimal hDecimal, if_pos hLimit]
  | signed origin n => exact if_neg (by omega)
  | unsigned origin n => exact if_neg (by omega)

/- A number of more bits is not converted. -/
theorem SaysNumber.exists_mismatch_toUnsigned
    (hNumber : value.SaysNumber n)
    (hLimit : unsignedLimit < n) :
    ∃ mismatch,
      value.toUnsigned = .error mismatch ∧
        mismatch.place = [] := by
  unfold toUnsigned
  cases hNumber with
  | text origin text n hDecimal =>
      dsimp only
      rw [wordValue?_of_isDecimal hDecimal,
        decimal?_of_isDecimal hDecimal,
        if_neg (Nat.not_le.mpr hLimit)]
      exact ⟨_, rfl, rfl⟩
  | signed origin n => exact ⟨_, if_pos (by omega), rfl⟩
  | unsigned origin n => exact ⟨_, if_pos hLimit, rfl⟩

/- Port numbers are numbers of 64 bits. -/
theorem portLimit_le_unsignedLimit :
    portLimit ≤ unsignedLimit := by
  decide

/- A port that can be one is taken as it is. -/
theorem SaysNumber.toPort_eq
    (hNumber : value.SaysNumber n)
    (hLimit : n ≤ portLimit) :
    value.toPort = .ok n := by
  unfold toPort
  rw [hNumber.toUnsigned_eq
    (hLimit.trans portLimit_le_unsignedLimit)]
  exact if_pos hLimit

/- A greater number is refused. -/
theorem SaysNumber.exists_mismatch
    (hNumber : value.SaysNumber n)
    (hLimit : portLimit < n) :
    ∃ mismatch,
      value.toPort = .error mismatch ∧
        mismatch.place = [] := by
  unfold toPort
  by_cases hWide : unsignedLimit < n
  · rcases hNumber.exists_mismatch_toUnsigned hWide with
      ⟨mismatch, hValue, hPlace⟩
    rw [hValue]
    exact ⟨mismatch, rfl, hPlace⟩
  · rw [hNumber.toUnsigned_eq (Nat.not_lt.mp hWide)]
    dsimp only
    rw [if_neg (Nat.not_le.mpr hLimit)]
    exact ⟨_, rfl, rfl⟩

end Setting

end KsqlBatch

------------------------------------------------------------
-- Ports in URLs
------------------------------------------------------------

namespace KsqlBatch

namespace Connection

variable (connection : Connection)

/- The base URL ends in a colon and a port number. -/
def NamesPort
    (n : Nat) : Prop :=
  ∃ front text,
    connection.baseUrl.toList =
        front ++ ':' :: text.toList ∧
      Text.IsDecimal text n

/- What stands behind the last colon has no colon in it. -/
theorem rtakeWhile_colon
    {digits : List Char}
    (hDigits : ':' ∉ digits)
    (front : List Char) :
    (front ++ ':' :: digits).rtakeWhile (· != ':') =
      digits := by
  have hBack :
      ∀ c ∈ digits.reverse, (c != ':') = true := by
    intro c hChar
    rw [List.mem_reverse] at hChar
    rw [bne_iff_ne]
    rintro rfl
    exact hDigits hChar
  rw [List.rtakeWhile, List.reverse_append,
    List.reverse_cons, List.append_assoc,
    List.takeWhile_append_of_pos hBack]
  simp

/- A number has no colon in it. -/
theorem colon_not_mem_of_isDecimal
    {text : String}
    {n : Nat}
    (hDecimal : Text.IsDecimal text n) :
    ':' ∉ text.toList := by
  intro hColon
  exact absurd (hDecimal.digits ':' hColon) (by decide)

/-
  The base URL around an endpoint names the port, and no
  other one.
-/
theorem namesPort_iff
    (hScheme : ¬ connection.NamesScheme)
    (n : Nat) :
    connection.NamesPort n ↔ n = connection.port := by
  have hUrl := toList_baseUrl_without_scheme hScheme
  rw [List.append_assoc, List.singleton_append] at hUrl
  have hPort := Text.isDecimal_toString connection.port
  constructor
  · rintro ⟨front, text, hText, hDecimal⟩
    rw [hUrl] at hText
    have hSame :
        (toString connection.port).toList = text.toList := by
      rw [← rtakeWhile_colon
          (colon_not_mem_of_isDecimal hPort),
        hText,
        rtakeWhile_colon
          (colon_not_mem_of_isDecimal hDecimal)]
    rw [← hDecimal.number, ← hSame, hPort.number]
  · rintro rfl
    exact ⟨_, _, hUrl, hPort⟩

end Connection

end KsqlBatch

------------------------------------------------------------
-- Given Ports
------------------------------------------------------------

namespace KsqlBatch

/- What a tree has for the port says a number. -/
def Setting.SaysPort
    (tree : Setting)
    (n : Nat) : Prop :=
  ∃ value,
    tree.choices .port = some value ∧ value.SaysNumber n

namespace Loader

variable (disk : FileSystem Id)
variable (environment : List (String × String))

/- Layers give a number as the port. -/
def GivePort
    (layers : List Layer)
    (n : Nat) : Prop :=
  ∃ tree,
    gathered disk environment layers = .ok tree ∧
      tree.SaysPort n

variable {disk : FileSystem Id}
variable {environment : List (String × String)}
variable {layers others : List Layer}
variable {sources overrides : List (Key × Setting)}
variable {moreSources moreOverrides : List (Key × Setting)}
variable {value : Setting}
variable {n : Nat}

/- The effective number is given. -/
theorem givePort_of_give
    (hGive :
      Layer.Give disk environment layers sources overrides)
    (hPort : effective sources overrides .port = some value)
    (hNumber : value.SaysNumber n) :
    GivePort disk environment layers n := by
  refine ⟨_, gathered_eq_ok hGive, value, ?_, hNumber⟩
  rw [Choices.choices_tree]
  exact hPort

/- A number in a last source is given, if no override is. -/
theorem givePort_append_source
    (hGive :
      Layer.Give disk environment layers sources overrides)
    (hOverrides : Key.port.lastIn? overrides = none)
    (hMore :
      Layer.Give disk environment others moreSources [])
    (hPort : Key.port.lastIn? moreSources = some value)
    (hNumber : value.SaysNumber n) :
    GivePort disk environment (layers ++ others) n := by
  refine givePort_of_give (hGive.append hMore) ?_ hNumber
  unfold effective
  rw [List.append_nil, hOverrides, Key.lastIn?_append, hPort]
  rfl

/- A number in a last override is given. -/
theorem givePort_append_override
    (hGive :
      Layer.Give disk environment layers sources overrides)
    (number : Scalar)
    (hNumber :
      (Setting.scalar none number).SaysNumber n) :
    GivePort disk environment
      (layers ++ [.override "ksqldb.port" number]) n := by
  have hMore :=
    Layer.give_override disk environment .port number
  refine givePort_of_give (hGive.append hMore) ?_ hNumber
  unfold effective
  rw [Key.lastIn?_append]
  rfl

/- The environment gives the settings what it assigns. -/
theorem give_environment
    (hAssigns : Assigns environment)
    (disk : FileSystem Id) :
    ∃ given,
      Layer.Give disk environment [.environment] given [] ∧
        ∀ key : Key,
          key.lastIn? given =
            key.inEnvironment? environment := by
  rcases exists_given_ofEnvironment hAssigns with
    ⟨parts, hGiven, hLast⟩
  exact
    ⟨parts.flatten, Layer.give_source rfl rfl hGiven, hLast⟩

/- A setting has the value of the variable that is for it. -/
theorem Assigns.inEnvironment?_eq_some
    (hAssigns : Assigns environment)
    {key : Key}
    {entry : String × String}
    (hEntry : entry ∈ environment)
    (hName : Text.lowercase entry.1 = key.variableName) :
    key.inEnvironment? environment =
      some (.scalar (some "the environment") (.text entry.2)) := by
  have hFound :
      environment.find?
          (fun pair =>
            Text.lowercase pair.1 = key.variableName) =
        some entry := by
    refine
      find?_of_mem hEntry (decide_eq_true hName)
        (hAssigns.once.imp ?_)
    intro first second hOnce hFirst hSecond
    exact
      hOnce key (of_decide_eq_true hFirst)
        (of_decide_eq_true hSecond)
  rw [Key.inEnvironment?, hFound]
  rfl

/- Digits on a line of a last properties text are given. -/
theorem givePort_append_textOf
    {lines : List Ini.Line}
    {name text : String}
    (hGive :
      Layer.Give disk environment layers sources overrides)
    (hOverrides : Key.port.lastIn? overrides = none)
    (hDecimal : Text.IsDecimal text n)
    (hAssigns : AssignsOnLines lines)
    (hPair : (name, text) ∈ Ini.pairsOf lines)
    (hNamed : Key.port.IsNamedBy name) :
    GivePort disk environment
      (layers ++ [.properties (Ini.textOf lines)]) n := by
  have hPort :=
    hAssigns.inPairs?_eq_some hPair hNamed none
  rcases give_textOf hAssigns disk environment with
    ⟨given, hMore, hLast⟩
  rw [← hLast] at hPort
  exact
    givePort_append_source hGive hOverrides hMore hPort
      (.text none text n hDecimal)

/- Digits in a variable of the environment are given. -/
theorem givePort_append_environment
    {name text : String}
    (hGive :
      Layer.Give disk environment layers sources overrides)
    (hOverrides : Key.port.lastIn? overrides = none)
    (hDecimal : Text.IsDecimal text n)
    (hAssigns : Assigns environment)
    (hEntry : (name, text) ∈ environment)
    (hName : Text.lowercase name = Key.port.variableName) :
    GivePort disk environment (layers ++ [.environment])
      n := by
  have hPort := hAssigns.inEnvironment?_eq_some hEntry hName
  rcases give_environment hAssigns disk with
    ⟨given, hMore, hLast⟩
  rw [← hLast] at hPort
  exact
    givePort_append_source hGive hOverrides hMore hPort
      (.text _ text n hDecimal)

end Loader

end KsqlBatch

------------------------------------------------------------
-- Loaded Ports
------------------------------------------------------------

namespace KsqlBatch

/- All settings but the port are valid. -/
structure Setting.HasValidRest
    (tree : Setting)
    (useTls : Bool)
    (secs : Nat) : Prop where
  access : tree.HasNamedAccess
  texts : tree.choices.HasTexts
  tls :
    ∃ value,
      tree.choices .tls = some value ∧
        value.toBool = .ok useTls
  timeout :
    ∃ value,
      tree.choices .timeoutSecs = some value ∧
        value.toUnsigned = .ok secs
  some_timeout : secs ≠ 0
  some_key : ¬ tree.LacksKey
  some_endpoint : ¬ tree.LacksEndpoint
  no_blank : ¬ tree.HasBlankEndpoint

/- Valid choices make a tree of valid settings. -/
theorem Choices.hasValidRest_tree
    {choices : Choices}
    {endpoint : String}
    {useTls : Bool}
    {secs : Nat}
    (hTexts : choices.HasTexts)
    (hEndpoint : choices.text? .endpoint = some endpoint)
    (hSome : Text.trimWhiteSpace endpoint ≠ "")
    (hKey :
      (choices .apiKey).isSome = true ∨
        choices .apiSecret = none)
    (hTls :
      ∃ value,
        choices .tls = some value ∧
          value.toBool = .ok useTls)
    (hTimeout :
      ∃ value,
        choices .timeoutSecs = some value ∧
          value.toUnsigned = .ok secs)
    (hSecs : secs ≠ 0) :
    choices.tree.HasValidRest useTls secs := by
  have hChoices := choices.choices_tree
  refine
    { access := choices.hasNamedAccess_tree
      texts := ?_
      tls := ?_
      timeout := ?_
      some_timeout := hSecs
      some_key := ?_
      some_endpoint := ?_
      no_blank := ?_ }
  · rw [hChoices]
    exact hTexts
  · rw [hChoices]
    exact hTls
  · rw [hChoices]
    exact hTimeout
  · rintro ⟨hAccess, hNoText⟩
    rw [Choices.isSome_get?_api_tree] at hAccess
    have hGiven : (choices .apiKey).isSome = true := by
      rcases hKey with hGiven | hNone
      · exact hGiven
      · rw [hNone] at hAccess
        exact hAccess.resolve_right (by decide)
    rcases Option.isSome_iff_exists.mp hGiven with
      ⟨value, hValue⟩
    rcases hTexts.apiKey value hValue with ⟨origin, text, rfl⟩
    rw [hChoices, Choices.text?, hValue] at hNoText
    cases hNoText
  · unfold Setting.LacksEndpoint
    rw [hChoices, hEndpoint]
    exact Option.some_ne_none _
  · rintro ⟨text, hText, hBlank⟩
    rw [hChoices, hEndpoint] at hText
    cases hText
    exact hSome (Text.trimWhiteSpace_eq_empty_iff.mpr hBlank)

namespace Loader

variable {disk : FileSystem Id}
variable {environment : List (String × String)}
variable {layers : List Layer}
variable {tree : Setting}
variable {n : Nat}
variable {useTls : Bool}
variable {secs : Nat}

/- With a port number there is a connection to this port. -/
theorem load_of_port
    (hTree : gathered disk environment layers = .ok tree)
    (hPort : tree.SaysPort n)
    (hRest : tree.HasValidRest useTls secs)
    (hLimit : n ≤ Setting.portLimit) :
    ∃ connection,
      (Id.run (load disk environment layers)).1 =
          .ok connection ∧
        tree.Describes n useTls secs connection := by
  rcases hPort with ⟨value, hValue, hNumber⟩
  have hWellFormed : tree.IsWellFormed n useTls secs :=
    { port := ⟨value, hValue, hNumber.toPort_eq hLimit⟩
      tls := hRest.tls
      timeout := hRest.timeout }
  have hVerdict :=
    verdict_load hTree hRest.access hRest.texts hWellFormed
  have hAccepted :=
    hVerdict.accepted_iff.mpr
      ⟨hRest.some_key, hRest.some_endpoint, hRest.no_blank,
        hRest.some_timeout⟩
  rcases hAccepted with ⟨connection, hLoad⟩
  exact
    ⟨connection, hLoad,
      hVerdict.connection connection hLoad⟩

/- A number that is too great is refused at its place. -/
theorem load_of_great_port
    (hTree : gathered disk environment layers = .ok tree)
    (hPort : tree.SaysPort n)
    (hRest : tree.HasValidRest useTls secs)
    (hLimit : Setting.portLimit < n) :
    ∃ mismatch,
      (Id.run (load disk environment layers)).1 =
          .error (.config (.conversion mismatch)) ∧
        mismatch.place = [.name "ksqldb", .name "port"] := by
  rcases hPort with ⟨value, hValue, hNumber⟩
  rcases hRest.tls with ⟨_, hTls, hUseTls⟩
  rcases hRest.timeout with ⟨_, hTimeout, hSecs⟩
  rcases hNumber.exists_mismatch hLimit with
    ⟨mismatch, hMismatch, hPlace⟩
  refine
    ⟨(mismatch.within (.name "port")).within
      (.name "ksqldb"), ?_, ?_⟩
  · rw [run_load_eq_gathered, hTree]
    dsimp only
    rw [fst_build,
      RawSettings.read_eq hRest.access hRest.texts hValue hTls
        hTimeout hUseTls hSecs,
      hMismatch, settings_of_not_lacksKey hRest.some_key]
    rfl
  · unfold Mismatch.within
    dsimp only
    rw [hPlace]

/-
  A number that layers give as the port is the port of the
  connection, or it is refused. It may be given in decimal
  digits by a properties text or by the environment, or as an
  integer by an override. The base URL names the port and no
  other one, unless the endpoint names a scheme of its own:
  then it is the text of the endpoint, without the slashes at
  its end, and the port has nothing to do with it.
-/
theorem load_port
    (disk : FileSystem Id)
    (environment : List (String × String)) :
    (∀ layers sources overrides n,
      Layer.Give disk environment layers sources overrides →
        (∀ value,
          effective sources overrides .port = some value →
            value.SaysNumber n →
              GivePort disk environment layers n) ∧
        (Key.port.lastIn? overrides = none →
          ∀ text,
            Text.IsDecimal text n →
              (∀ lines name,
                AssignsOnLines lines →
                  (name, text) ∈ Ini.pairsOf lines →
                    Key.port.IsNamedBy name →
                      GivePort disk environment
                        (layers ++
                          [.properties (Ini.textOf lines)])
                        n) ∧
              (∀ name,
                Assigns environment →
                  (name, text) ∈ environment →
                    Text.lowercase name =
                        Key.port.variableName →
                      GivePort disk environment
                        (layers ++ [.environment]) n)) ∧
        (∀ number : Scalar,
          number = .signed n ∨ number = .unsigned n →
            GivePort disk environment
              (layers ++ [.override "ksqldb.port" number])
              n)) ∧
    ∀ layers tree n useTls secs,
      gathered disk environment layers = .ok tree →
        tree.SaysPort n →
          tree.HasValidRest useTls secs →
            let result :=
              (Id.run (load disk environment layers)).1
            (n ≤ 65535 →
              ∃ connection,
                result = .ok connection ∧
                  tree.Describes n useTls secs connection ∧
                  (¬ connection.NamesScheme →
                    ∀ m, connection.NamesPort m ↔ m = n) ∧
                  (connection.NamesScheme →
                    connection.baseUrl.toList =
                        Connection.stripSlashes
                          connection.endpoint.toList ∧
                      ∀ port useTls,
                        { connection with
                            port, useTls }.baseUrl =
                          connection.baseUrl)) ∧
            (65535 < n →
              ∃ mismatch,
                result =
                    .error (.config (.conversion mismatch)) ∧
                  mismatch.place =
                    [.name "ksqldb", .name "port"]) := by
  refine ⟨?_, ?_⟩
  · intro layers sources overrides n hGive
    refine ⟨?_, ?_, ?_⟩
    · intro value hPort hNumber
      exact givePort_of_give hGive hPort hNumber
    · intro hOverrides text hDecimal
      constructor
      · intro lines name hAssigns hPair hNamed
        exact
          givePort_append_textOf hGive hOverrides hDecimal
            hAssigns hPair hNamed
      · intro name hAssigns hEntry hName
        exact
          givePort_append_environment hGive hOverrides
            hDecimal hAssigns hEntry hName
    · intro number hNumber
      refine givePort_append_override hGive number ?_
      rcases hNumber with rfl | rfl
      · exact .signed none n
      · exact .unsigned none n
  · intro layers tree n useTls secs hTree hPort hRest result
    constructor
    · intro hLimit
      rcases load_of_port hTree hPort hRest hLimit with
        ⟨connection, hLoad, hDescribes⟩
      refine ⟨connection, hLoad, hDescribes, ?_, ?_⟩
      · intro hScheme m
        rw [connection.namesPort_iff hScheme, hDescribes.port]
      · intro hScheme
        refine
          ⟨Connection.toList_baseUrl_with_scheme hScheme, ?_⟩
        intro port useTls
        exact
          Connection.baseUrl_of_namesScheme hScheme port
            useTls
    · intro hLimit
      exact load_of_great_port hTree hPort hRest hLimit

/-
  A port with a zero in front of it in the environment, and
  the first number that is too great in an override.
-/
theorem load_port_of_variable_and_override :
    let disk := FileSystem.ofScripts "conf" []
    let environment := [("KSQL_RUNNER__KSQLDB__PORT", "08088")]
    let layers : List Layer :=
      [.properties "ksqldb.endpoint=host\n", .environment]
    let override : Layer :=
      .override "ksqldb.port" (.signed 65536)
    GivePort disk environment layers 8088 ∧
      (∃ connection,
        (Id.run (load disk environment layers)).1 =
            .ok connection ∧
          connection.port = 8088) ∧
      ∃ mismatch,
        (Id.run
            (load disk environment
              (layers ++ [override]))).1 =
            .error (.config (.conversion mismatch)) ∧
          mismatch.place =
            [.name "ksqldb", .name "port"] := by
  intro disk environment layers override
  rcases load_port disk environment with ⟨hPorts, hLoad⟩
  let endpoint : Key × Setting :=
    (.endpoint, .scalar none (.text "host"))
  let port : Key × Setting :=
    (.port, .scalar (some "the environment") (.text "08088"))
  let great : Key × Setting :=
    (.port, .scalar none (.signed 65536))
  have hDecimal : Text.IsDecimal "08088" 8088 :=
    { some_digit := by decide +kernel
      digits := List.all_eq_true.mp (by decide +kernel)
      number := by decide +kernel }
  have hAssigns : Assigns environment :=
    { known := by
        intro entry hEntry
        rw [List.mem_singleton.mp hEntry]
        exact Or.inr ⟨.port, by decide +kernel⟩
      once := List.pairwise_singleton _ _ }
  have hText :
      Layer.Give disk environment
        [.properties "ksqldb.endpoint=host\n"] [endpoint]
        [] := by
    refine
      .source _ _ _ [[endpoint]] _ _ rfl rfl ?_ .nil
    exact
      .cons (.value .endpoint _ _ _ (by decide +kernel)) .nil
  have hVariable :
      Layer.Give disk environment [.environment] [port] [] := by
    refine .source _ _ _ [[port]] _ _ rfl rfl ?_ .nil
    exact .cons (.value .port _ _ _ (by decide +kernel)) .nil
  have hOverride :
      Layer.Give disk environment [override] [] [great] :=
    Layer.give_override disk environment .port (.signed 65536)
  have hRest
      (overrides : List (Key × Setting))
      (hOverrides : overrides = [] ∨ overrides = [great]) :
      (effective [endpoint, port]
        overrides).tree.HasValidRest true 30 := by
    rcases hOverrides with rfl | rfl <;>
      · refine
          Choices.hasValidRest_tree ?_ rfl (by decide)
            (Or.inr rfl) ⟨_, rfl, rfl⟩ ⟨_, rfl, rfl⟩
            (by decide)
        refine ⟨?_, nofun, nofun⟩
        rintro _ ⟨⟩
        exact ⟨_, _, rfl⟩
  refine ⟨?_, ?_, ?_⟩
  · exact
      ((hPorts _ _ _ 8088 hText).2.1 rfl "08088" hDecimal).2
        "KSQL_RUNNER__KSQLDB__PORT" hAssigns
        List.mem_cons_self (by decide +kernel)
  · have hTree := gathered_eq_ok (hText.append hVariable)
    have hPort :
        (effective [endpoint, port] []).tree.SaysPort 8088 := by
      refine ⟨port.2, ?_, .text _ _ _ hDecimal⟩
      rw [Choices.choices_tree]
      rfl
    have hValid := hRest [] (Or.inl rfl)
    rcases
      (hLoad _ _ 8088 true 30 hTree hPort hValid).1
        (by decide) with
      ⟨connection, hConnection, hDescribes, _⟩
    exact ⟨connection, hConnection, hDescribes.port⟩
  · have hTree :=
      gathered_eq_ok
        ((hText.append hVariable).append hOverride)
    have hPort :
        (effective [endpoint, port] [great]).tree.SaysPort
          65536 := by
      refine ⟨great.2, ?_, .signed none 65536⟩
      rw [Choices.choices_tree]
      rfl
    have hValid := hRest [great] (Or.inr rfl)
    exact
      (hLoad _ _ 65536 true 30 hTree hPort hValid).2
        (by decide)

/-
  An endpoint with a scheme and a port of its own. The base
  URL names this port and not the one that is given.
-/
theorem load_names_port_of_endpoint :
    let disk := FileSystem.ofScripts "conf" []
    let layers : List Layer :=
      [.properties
        "ksqldb.endpoint=http://host:1\nksqldb.port=2\n"]
    GivePort disk [] layers 2 ∧
      ∃ connection,
        (Id.run (load disk [] layers)).1 = .ok connection ∧
          connection.port = 2 ∧
          connection.baseUrl = "http://host:1" ∧
          connection.NamesPort 1 := by
  intro disk layers
  let given : List (Key × Setting) :=
    [(.endpoint, .scalar none (.text "http://host:1")),
      (.port, .scalar none (.text "2"))]
  let connection : Connection :=
    { endpoint := "http://host:1"
      port := 2
      useTls := true
      timeoutSecs := 30
      credentials := none }
  have hGive : Layer.Give disk [] layers given [] := by
    refine
      .source _ _ _
        [[(.endpoint, .scalar none (.text "http://host:1"))],
          [(.port, .scalar none (.text "2"))]]
        _ _ rfl rfl ?_ .nil
    exact
      .cons (.value .endpoint _ _ _ (by decide +kernel))
        (.cons (.value .port _ _ _ (by decide +kernel)) .nil)
  have hDecimal : Text.IsDecimal "2" 2 :=
    Text.isDecimal_toString 2
  have hUrl : connection.baseUrl = "http://host:1" := by
    decide +kernel
  refine
    ⟨givePort_of_give hGive rfl (.text none "2" 2 hDecimal),
      connection, ?_, rfl, hUrl, ?_⟩
  · rw [load_eq_build hGive]
    rfl
  · refine ⟨"http://host".toList, "1", ?_, ?_⟩
    · rw [hUrl]
      decide +kernel
    · exact Text.isDecimal_toString 1

end Loader

end KsqlBatch
