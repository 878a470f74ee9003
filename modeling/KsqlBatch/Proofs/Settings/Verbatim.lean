import KsqlBatch.Proofs.Settings.Endpoint

/-
  This file says that credentials arrive from a properties
  text as they are written there. The lines may stand in any
  order, among blank lines and comments. Signs, brackets and
  the marks of comments may stand anywhere in the values.

  Key definitions include:
    * `Key.pairOf`
    * `Key.inEntries?`
    * `Loader.Overlay`

  Key theorems include:
    * `Key.inPairs?_of_perm`
    * `Ini.isPlain_of_perm`
    * `Loader.Overlay.exists_give`

  The main result is `Loader.load_verbatim`.
-/

------------------------------------------------------------
-- Pairs for Settings
------------------------------------------------------------

namespace KsqlBatch

namespace Key

/- The pair of texts that gives a value to a setting. -/
def pairOf
    (entry : Key × String) : String × String :=
  (entry.1.text, entry.2)

/- What values for settings give to one of them. -/
def inEntries?
    (key : Key)
    (origin : Option String)
    (entries : List (Key × String)) : Option Setting :=
  (entries.find? fun entry => entry.1 = key).map
    fun entry => .scalar origin (.text entry.2)

variable {entries : List (Key × String)}
variable {pairs : List (String × String)}

/- Every pair names the setting that it is for. -/
theorem exists_isNamedBy_of_perm
    (hPerm : pairs.Perm (entries.map pairOf)) :
    ∀ pair ∈ pairs, ∃ key : Key, key.IsNamedBy pair.1 := by
  intro pair hPair
  rcases List.mem_map.mp (hPerm.mem_iff.mp hPair) with
    ⟨⟨key, value⟩, _, rfl⟩
  exact ⟨key, (isNamedBy_text_iff key key).mpr rfl⟩

/- No setting is named twice if no two pairs are for it. -/
theorem pairwise_map_pairOf
    (hDistinct : (entries.map Prod.fst).Nodup) :
    (entries.map pairOf).Pairwise fun pair other =>
      ∀ key : Key,
        key.IsNamedBy pair.1 → ¬ key.IsNamedBy other.1 := by
  refine List.pairwise_map.mpr ?_
  refine (List.pairwise_map.mp hDistinct).imp ?_
  intro entry other hDifferent key hKey hOther
  rw [pairOf, isNamedBy_text_iff] at hKey hOther
  exact hDifferent (hKey.trans hOther.symm)

theorem pairwise_of_perm
    (hPerm : pairs.Perm (entries.map pairOf))
    (hDistinct : (entries.map Prod.fst).Nodup) :
    pairs.Pairwise fun pair other =>
      ∀ key : Key,
        key.IsNamedBy pair.1 → ¬ key.IsNamedBy other.1 := by
  refine (hPerm.pairwise_iff ?_).mpr
    (pairwise_map_pairOf hDistinct)
  intro pair other hOnce key hOther hPair
  exact hOnce key hPair hOther

/- In any order, pairs give a setting the value for it. -/
theorem inPairs?_of_perm
    (hPerm : pairs.Perm (entries.map pairOf))
    (hDistinct : (entries.map Prod.fst).Nodup)
    (key : Key)
    (origin : Option String) :
    key.inPairs? origin pairs =
      key.inEntries? origin entries := by
  have hFound :=
    key.find?_named_of_perm hPerm
      (pairwise_map_pairOf hDistinct)
  have hNamed :
      (fun pair => decide (key.IsNamedBy pair.1)) ∘ pairOf =
        fun entry => decide (entry.1 = key) := by
    funext entry
    exact decide_eq_decide.mpr (isNamedBy_text_iff _ _)
  rw [inPairs?, hFound, List.find?_map, hNamed,
    Option.map_map]
  rfl

end Key

end KsqlBatch

------------------------------------------------------------
-- Lines for Settings
------------------------------------------------------------

namespace KsqlBatch

namespace Ini

/- The name of a setting cannot be taken for anything else. -/
theorem isPlainName_text
    (key : Key) :
    IsPlainName key.text.toList := by
  cases key <;> decide +kernel

/-
  Lines are plain if, apart from blank lines and comments,
  they give plain values to settings.
-/
theorem isPlain_of_perm
    {lines : List Line}
    {entries : List (Key × String)}
    (hPerm : (pairsOf lines).Perm (entries.map Key.pairOf))
    (hValues :
      ∀ entry ∈ entries, IsPlainValue entry.2.toList)
    (hOther :
      ∀ line ∈ lines, line.pair? = none → line.IsPlain) :
    ∀ line ∈ lines, line.IsPlain := by
  intro line hLine
  cases line with
  | blank spaces => exact hOther _ hLine rfl
  | comment text => exact hOther _ hLine rfl
  | pair name value =>
      have hPair :
          (String.ofList name, String.ofList value) ∈
            pairsOf lines :=
        List.mem_filterMap.mpr ⟨_, hLine, rfl⟩
      rcases List.mem_map.mp (hPerm.mem_iff.mp hPair) with
        ⟨⟨key, text⟩, hEntry, hSame⟩
      rcases Prod.mk.inj hSame with ⟨hName, hValue⟩
      have hPlain := hValues _ hEntry
      have hKey := isPlainName_text key
      dsimp only at hName hValue hPlain
      rw [hName, String.toList_ofList] at hKey
      rw [hValue, String.toList_ofList] at hPlain
      exact ⟨hKey, hPlain⟩

/- Nothing is trimmed off a plain value. -/
theorem trimWhiteSpace_of_plain
    {text : String}
    (hPlain : IsPlainValue text.toList) :
    Text.trimWhiteSpace text = text := by
  rw [← String.toList_inj, Text.trimWhiteSpace,
    Text.toList_stripString]
  exact strip_of_plain hPlain.plain

end Ini

end KsqlBatch

------------------------------------------------------------
-- Overlaid Texts
------------------------------------------------------------

namespace KsqlBatch

namespace Loader

/-
  Layers put the settings of one text on top of the built-in
  ones. The text is given as it is or in a file, and the
  environment may come behind it if no variable in it is for
  the program.
-/
inductive Overlay
    (disk : FileSystem Id)
    (environment : List (String × String))
    (text : String) : List Layer → Prop
| properties :
    Overlay disk environment text [.properties text]
| file
    (path found : String)
    (hFound : Id.run (findFile? disk path) = some found)
    (hText : Id.run (disk.readText found) = .ok text) :
    Overlay disk environment text [.file path]
| environment
    (layers : List Layer)
    (hLayers : Overlay disk environment text layers)
    (hNone : variablePairs environment = []) :
    Overlay disk environment text (layers ++ [.environment])

variable {disk : FileSystem Id}
variable {environment : List (String × String)}
variable {layers : List Layer}
variable {text : String}

/- A file says what its text says. -/
theorem source_file
    (environment : List (String × String))
    {path found : String}
    (hFound : Id.run (findFile? disk path) = some found)
    (hText : Id.run (disk.readText found) = .ok text) :
    Id.run (source disk environment (.file path)) =
      ofText (some (Path.withoutDots found)) text := by
  unfold source ofFile
  simp only [Id.run_bind, hFound, hText]
  rfl

/- The environment gives nothing without variables for it. -/
theorem give_environment_of_none
    (hNone : variablePairs environment = []) :
    Layer.Give disk environment [.environment] [] [] := by
  have hRead :
      Id.run (source disk environment .environment) =
        .ok [] := by
    have hPairs :
        ofEnvironment environment =
          ofPairs (some "the environment")
            (variablePairs environment) :=
      rfl
    rw [hNone] at hPairs
    exact congrArg Except.ok hPairs
  exact Layer.give_source rfl hRead .nil

/-
  A text whose pairs are for settings gives them their
  values, wherever it comes from.
-/
theorem Overlay.exists_give
    {pairs : List (String × String)}
    {entries : List (Key × String)}
    (hOverlay : Overlay disk environment text layers)
    (hRead :
      ∀ origin,
        ofText origin text = .ok (ofPairs origin pairs))
    (hPerm : pairs.Perm (entries.map Key.pairOf))
    (hDistinct : (entries.map Prod.fst).Nodup) :
    ∃ origin given,
      Layer.Give disk environment layers given [] ∧
        ∀ key : Key,
          key.lastIn? given =
            key.inEntries? origin entries := by
  have hNamed := Key.exists_isNamedBy_of_perm hPerm
  have hOnce := Key.pairwise_of_perm hPerm hDistinct
  have hValue := Key.inPairs?_of_perm hPerm hDistinct
  induction hOverlay with
  | properties =>
      have hText :
          Id.run
              (source disk environment (.properties text)) =
            .ok (ofPairs none pairs) :=
        hRead none
      rcases exists_give_source rfl hText hNamed hOnce with
        ⟨given, hGive, hLast⟩
      exact
        ⟨none, given, hGive,
          fun key => (hLast key).trans (hValue key none)⟩
  | file path found hFound hText =>
      have hFile :=
        (source_file environment hFound hText).trans (hRead _)
      rcases exists_give_source rfl hFile hNamed hOnce with
        ⟨given, hGive, hLast⟩
      exact
        ⟨_, given, hGive,
          fun key => (hLast key).trans (hValue key _)⟩
  | environment layers _ hNone ih =>
      rcases ih with ⟨origin, given, hGive, hLast⟩
      have hMore :=
        hGive.append (give_environment_of_none hNone)
      rw [List.append_nil] at hMore
      exact ⟨origin, given, hMore, hLast⟩

end Loader

end KsqlBatch

------------------------------------------------------------
-- Written Credentials
------------------------------------------------------------

namespace KsqlBatch

namespace Loader

/- An endpoint, a key and a secret, each for its setting. -/
def accessEntries
    (endpoint key secret : String) : List (Key × String) :=
  [(.endpoint, endpoint), (.apiKey, key),
    (.apiSecret, secret)]

theorem map_pairOf_accessEntries
    (endpoint key secret : String) :
    (accessEntries endpoint key secret).map Key.pairOf =
      [("ksqldb.endpoint", endpoint), ("api.key", key),
        ("api.secret", secret)] := by
  have hNames :
      Key.endpoint.text = "ksqldb.endpoint" ∧
        Key.apiKey.text = "api.key" ∧
        Key.apiSecret.text = "api.secret" := by
    decide +kernel
  simp only [accessEntries, List.map_cons, List.map_nil,
    Key.pairOf, hNames]

/- A setting for which a text is chosen has this text. -/
theorem text?_of_eq_some
    {choices : Choices}
    {setting : Key}
    {origin : Option String}
    (hChosen :
      choices setting = some (.scalar origin (.text text))) :
    choices.text? setting = some text := by
  rw [Choices.text?, hChosen]
  rfl

/-
  An endpoint, a key and a secret are loaded as they are, if
  nothing else is given.
-/
theorem load_of_entries
    {origin : Option String}
    {sources : List (Key × Setting)}
    {endpoint key secret : String}
    (hGive :
      Layer.Give disk environment layers sources [])
    (hLast :
      ∀ setting : Key,
        setting.lastIn? sources =
          setting.inEntries? origin
            (accessEntries endpoint key secret))
    (hTrim : Text.trimWhiteSpace endpoint = endpoint)
    (hSome : endpoint ≠ "") :
    (Id.run (load disk environment layers)).1 =
      .ok
        { endpoint
          port := 443
          useTls := true
          timeoutSecs := 30
          credentials :=
            some { key, secret := some secret } } := by
  have hChosen (setting : Key) :
      effective sources [] setting =
        (setting.inEntries? origin
            (accessEntries endpoint key secret)).or
          (builtIn setting) := by
    rw [← hLast]
    rfl
  have hTexts : (effective sources []).HasTexts := by
    refine ⟨?_, ?_, ?_⟩ <;>
      · intro value hValue
        rw [hChosen] at hValue
        cases hValue
        exact ⟨_, _, rfl⟩
  have hKey : (effective sources [] .apiKey).isSome = true := by
    rw [hChosen]
    rfl
  rw [← hTrim] at hSome
  rw [load_of_built_in hGive (hChosen .port) (hChosen .tls)
      (hChosen .timeoutSecs) hTexts
      (text?_of_eq_some (hChosen .endpoint)) hSome
      (Or.inl hKey),
    text?_of_eq_some (hChosen .apiKey),
    text?_of_eq_some (hChosen .apiSecret), hTrim]
  rfl

/-
  An endpoint, a key and a secret arrive as they are written
  on the lines of a properties text, whatever the order of
  the lines, and with blank lines and comments anywhere. A
  value may be any text without white space and backslashes
  that does not begin with a quote.
-/
theorem load_verbatim
    (disk : FileSystem Id)
    (environment : List (String × String))
    (layout : Ini.Layout)
    (layers : List Layer)
    (endpoint key secret : String)
    (hEndpoint : endpoint ≠ "")
    (hValues :
      ∀ value ∈ [endpoint, key, secret],
        Ini.IsPlainValue value.toList)
    (hPairs :
      (Ini.pairsOf layout.lines).Perm
        [("ksqldb.endpoint", endpoint), ("api.key", key),
          ("api.secret", secret)])
    (hOther :
      ∀ line ∈ layout.lines,
        line.pair? = none → line.IsPlain)
    (hLayers : Overlay disk environment layout.text layers) :
    (Id.run (load disk environment layers)).1 =
      .ok
        { endpoint
          port := 443
          useTls := true
          timeoutSecs := 30
          credentials :=
            some { key, secret := some secret } } := by
  rw [← map_pairOf_accessEntries] at hPairs
  have hEntries :
      ∀ entry ∈ accessEntries endpoint key secret,
        Ini.IsPlainValue entry.2.toList := by
    intro entry hEntry
    exact hValues _ (List.mem_map_of_mem hEntry)
  have hPlain := Ini.isPlain_of_perm hPairs hEntries hOther
  have hDistinct :
      ((accessEntries endpoint key secret).map
        Prod.fst).Nodup := by
    show [Key.endpoint, Key.apiKey, Key.apiSecret].Nodup
    decide
  rcases
    hLayers.exists_give (ofText_text hPlain) hPairs hDistinct
    with ⟨origin, given, hGive, hLast⟩
  have hTrim :=
    Ini.trimWhiteSpace_of_plain
      (hValues endpoint List.mem_cons_self)
  exact load_of_entries hGive hLast hTrim hEndpoint

/-
  A secret that begins with a sign, and a key that begins
  like a comment. Their lines are in front of the one for the
  endpoint, which nothing ends. The text is given as it is,
  or in a file that is found with a further ending.
-/
theorem load_verbatim_of_signs_and_marks :
    let text :=
      "api.secret==/+#;:[\u00e9\r\n# the key\r\n \n" ++
        "api.key=#k==\nksqldb.endpoint=host"
    let disk :=
      FileSystem.ofScripts "conf" [("ksql.ini", .ok text)]
    let environment := [("HOME", "/root")]
    let connection : Connection :=
      { endpoint := "host"
        port := 443
        useTls := true
        timeoutSecs := 30
        credentials :=
          some
            { key := "#k=="
              secret := some "=/+#;:[\u00e9" } }
    (Id.run
        (load disk environment [.properties text])).1 =
        .ok connection ∧
      (Id.run
          (load disk environment (fileLayers "conf/ksql"))).1 =
        .ok connection := by
  intro text disk environment connection
  let layout : Ini.Layout :=
    { ended :=
        [(.pair "api.secret".toList "=/+#;:[\u00e9".toList,
            .both),
          (.comment " the key".toList, .both),
          (.blank [' '], .lineFeed),
          (.pair "api.key".toList "#k==".toList, .lineFeed)]
      last := .pair "ksqldb.endpoint".toList "host".toList }
  have hText : layout.text = text := by
    decide +kernel
  have hLoad (layers : List Layer)
      (hLayers : Overlay disk environment text layers) :
      (Id.run (load disk environment layers)).1 =
        .ok connection := by
    rw [← hText] at hLayers
    exact
      load_verbatim disk environment layout layers "host"
        "#k==" "=/+#;:[\u00e9" (by decide) (by decide +kernel)
        (by decide +kernel) (by decide +kernel) hLayers
  refine ⟨hLoad _ .properties, ?_⟩
  have hFile :
      Overlay disk environment text [.file "conf/ksql"] :=
    .file "conf/ksql" "conf/ksql.ini" rfl (by decide +kernel)
  exact hLoad _ (.environment _ hFile (by decide +kernel))

end Loader

end KsqlBatch
