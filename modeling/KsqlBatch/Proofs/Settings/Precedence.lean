import KsqlBatch.CommandLine.Program
import KsqlBatch.Proofs.Batch.Run
import KsqlBatch.Proofs.Settings.Loading
import KsqlBatch.Proofs.Settings.Pairs

/-
  This file says which of several layers decides a setting:
  the last override for it, or else the last source that has
  it, or else the built-in settings. Each setting is decided
  on its own, and it does not matter where among the sources
  an override stands.

  Key definitions include:
    * `Layer.isOverride`
    * `Layer.Give`
    * `Loader.gathered`
    * `Loader.effective`

  Key theorems include:
    * `Loader.load_congr`
    * `Loader.gathered_eq_ok`
    * `Loader.load_eq_build`

  The main result is `Loader.load_precedence`.
-/

------------------------------------------------------------
-- Sources and Overrides
------------------------------------------------------------

namespace KsqlBatch

/- A layer that overrides all sources. -/
def Layer.isOverride : Layer → Bool
| .override _ _ => true
| _ => false

namespace Loader

/- Sources are merged like one long source. -/
theorem gather_eq
    (sources : List Values)
    (overrides : List (KeyPath × Setting)) :
    gather sources overrides =
      gather [sources.flatten] overrides := by
  unfold gather
  congr 1
  rw [List.foldl_cons, List.foldl_nil]
  generalize
    Setting.merge (some .emptyTable) defaults = tree
  induction sources generalizing tree with
  | nil => rfl
  | cons values sources ih =>
      rw [List.foldl_cons, ih, List.flatten_cons]
      exact List.foldl_append.symm

variable (disk : FileSystem Id)
variable (environment : List (String × String))

/- The settings in all layers, in order. -/
def collected
    (layers : List Layer) : Except ConfigFault Values :=
  (Id.run (sources disk environment layers)).map List.flatten

theorem collected_cons
    (layer : Layer)
    (layers : List Layer) :
    collected disk environment (layer :: layers) =
      match Id.run (source disk environment layer) with
      | .error fault => .error fault
      | .ok values =>
          (collected disk environment layers).map
            (values ++ ·) := by
  unfold collected
  rw [run_sources_cons]
  cases Id.run (source disk environment layer) with
  | error fault => rfl
  | ok values =>
      cases Id.run (sources disk environment layers) <;> rfl

/- The tree in which the settings of all layers are. -/
def gathered
    (layers : List Layer) : Except ConfigFault Setting :=
  match overrides layers,
      collected disk environment layers with
  | .error fault, _ => .error fault
  | .ok _, .error fault => .error fault
  | .ok overrides, .ok values =>
      .ok (gather [values] overrides)

/- Loading needs no more of the layers than this tree. -/
theorem run_load_eq_gathered
    (layers : List Layer) :
    Id.run (load disk environment layers) =
      match gathered disk environment layers with
      | .error fault => (.error (.config fault), [])
      | .ok tree => build tree := by
  rw [run_load]
  unfold gathered collected
  cases overrides layers with
  | error fault => rfl
  | ok overrides =>
      cases Id.run (sources disk environment layers) with
      | error fault => rfl
      | ok sources =>
          exact congrArg build (gather_eq sources overrides)

/- An override is no source of its own. -/
theorem collected_override
    (key : String)
    (value : Scalar)
    (layers : List Layer) :
    collected disk environment
        (.override key value :: layers) =
      collected disk environment layers := by
  rw [collected_cons]
  cases collected disk environment layers <;> rfl

theorem collected_filter
    (layers : List Layer) :
    collected disk environment
        (layers.filter (! ·.isOverride)) =
      collected disk environment layers := by
  induction layers with
  | nil => rfl
  | cons layer layers ih =>
      cases layer with
      | override key value =>
          rw [collected_override]
          exact ih
      | _ =>
          rw [List.filter_cons_of_pos rfl, collected_cons,
            collected_cons, ih]

/- Other layers are no overrides. -/
theorem overrides_filter
    (layers : List Layer) :
    overrides (layers.filter Layer.isOverride) =
      overrides layers := by
  induction layers with
  | nil => rfl
  | cons layer layers ih =>
      cases layer with
      | override key value =>
          rw [List.filter_cons_of_pos rfl, overrides,
            overrides, ih]
      | _ => exact ih

variable {disk : FileSystem Id}
variable {environment : List (String × String)}
variable {layers others : List Layer}

/-
  Only the order of the sources and the order of the
  overrides count.
-/
theorem load_congr
    (hSources :
      layers.filter (! ·.isOverride) =
        others.filter (! ·.isOverride))
    (hOverrides :
      layers.filter Layer.isOverride =
        others.filter Layer.isOverride) :
    Id.run (load disk environment layers) =
      Id.run (load disk environment others) := by
  rw [run_load_eq_gathered, run_load_eq_gathered]
  unfold gathered
  rw [← collected_filter, hSources, collected_filter,
    ← overrides_filter, hOverrides, overrides_filter]

end Loader

end KsqlBatch

------------------------------------------------------------
-- Effective Values
------------------------------------------------------------

namespace KsqlBatch

/-
  Layers give values to settings: first those that the
  sources among them give, in order, then the overrides.
-/
inductive Layer.Give
    (disk : FileSystem Id)
    (environment : List (String × String)) :
    List Layer → List (Key × Setting) →
      List (Key × Setting) → Prop
| nil :
    Give disk environment [] [] []
| source
    (layer : Layer)
    (layers : List Layer)
    (values : Loader.Values)
    (parts : List (List (Key × Setting)))
    (sources overrides : List (Key × Setting))
    (hLayer : layer.isOverride = false)
    (hRead :
      Id.run (Loader.source disk environment layer) =
        .ok values)
    (hGiven : List.Forall₂ Key.Given values parts)
    (hRest : Give disk environment layers sources overrides) :
    Give disk environment (layer :: layers)
      (parts.flatten ++ sources) overrides
| override
    (key : Key)
    (text : String)
    (path : KeyPath)
    (value : Scalar)
    (layers : List Layer)
    (sources overrides : List (Key × Setting))
    (hText : KeyPath.parse text = .ok path)
    (hPath : path.allSteps = key.steps)
    (hRest : Give disk environment layers sources overrides) :
    Give disk environment (.override text value :: layers)
      sources ((key, .scalar none value) :: overrides)

/- Further layers give values behind the first ones. -/
theorem Layer.Give.append
    {disk : FileSystem Id}
    {environment : List (String × String)}
    {layers others : List Layer}
    {sources overrides : List (Key × Setting)}
    {moreSources moreOverrides : List (Key × Setting)}
    (hGive : Give disk environment layers sources overrides)
    (hMore :
      Give disk environment others moreSources
        moreOverrides) :
    Give disk environment (layers ++ others)
      (sources ++ moreSources)
      (overrides ++ moreOverrides) := by
  induction hGive with
  | nil => exact hMore
  | source layer layers values parts sources overrides hLayer
      hRead hGiven _ ih =>
      rw [List.append_assoc]
      exact
        .source layer _ values parts _ _ hLayer hRead hGiven ih
  | override key text path value layers sources overrides
      hText hPath _ ih =>
      exact .override key text path value _ _ _ hText hPath ih

/- A source gives the settings what its entries give. -/
theorem Layer.give_source
    {disk : FileSystem Id}
    {environment : List (String × String)}
    {layer : Layer}
    {values : Loader.Values}
    {parts : List (List (Key × Setting))}
    (hLayer : layer.isOverride = false)
    (hRead :
      Id.run (Loader.source disk environment layer) =
        .ok values)
    (hGiven : List.Forall₂ Key.Given values parts) :
    Give disk environment [layer] parts.flatten [] := by
  rw [← List.append_nil parts.flatten]
  exact .source _ _ _ _ _ _ hLayer hRead hGiven .nil

/- An override gives a value to the setting that it names. -/
theorem Layer.give_override
    (disk : FileSystem Id)
    (environment : List (String × String))
    (key : Key)
    (value : Scalar) :
    Give disk environment [.override key.text value] []
      [(key, .scalar none value)] :=
  .override key _ _ _ _ _ _ key.parse_text
    key.allSteps_ofText_text .nil

namespace Loader

/- The built-in value of a setting, if it has one. -/
def builtIn : Choices
| .port => some (.scalar none (.signed 443))
| .tls => some (.scalar none (.bool true))
| .timeoutSecs => some (.scalar none (.signed 30))
| _ => none

/-
  What counts for a setting: the last override for it, or
  else what the last source that has it says, or else the
  built-in value.
-/
def effective
    (sources overrides : List (Key × Setting)) : Choices :=
  fun key =>
    (key.lastIn? overrides).or
      ((key.lastIn? sources).or (builtIn key))

theorem merge_defaults :
    Setting.merge (some .emptyTable) defaults =
      Choices.tree builtIn := by
  rfl

theorem effective_eq_assign
    (sources overrides : List (Key × Setting)) :
    effective sources overrides =
      (Choices.assign builtIn sources).assign overrides := by
  funext key
  rw [Choices.assign_apply, Choices.assign_apply]
  rfl

variable {disk : FileSystem Id}
variable {environment : List (String × String)}
variable {layers : List Layer}
variable {given overriding : List (Key × Setting)}

/- The sources say what is given, one after the other. -/
theorem exists_collected_eq_ok
    (hGive :
      Layer.Give disk environment layers given overriding) :
    ∃ values parts,
      collected disk environment layers = .ok values ∧
        List.Forall₂ Key.Given values parts ∧
          given = parts.flatten := by
  induction hGive with
  | nil => exact ⟨[], [], rfl, .nil, rfl⟩
  | source layer layers values parts sources overrides hLayer
      hRead hGiven _ ih =>
      rcases ih with ⟨later, laterParts, hLater, hRest, rfl⟩
      refine
        ⟨values ++ later, parts ++ laterParts, ?_,
          List.rel_append hGiven hRest,
          List.flatten_append.symm⟩
      rw [collected_cons, hRead, hLater]
      rfl
  | override key text path value layers sources overrides
      hText hPath _ ih =>
      rcases ih with ⟨values, parts, hValues, hRest⟩
      exact
        ⟨values, parts, (collected_override _ _ _ _ _).trans
          hValues, hRest⟩

/- The overrides say what is overridden. -/
theorem exists_overrides_eq_ok
    (hGive :
      Layer.Give disk environment layers given overriding) :
    ∃ settings,
      overrides layers = .ok settings ∧
        ∀ choices : Choices,
          settings.foldl
              (fun tree (path, value) =>
                Setting.set path value tree)
              choices.tree =
            (choices.assign overriding).tree := by
  induction hGive with
  | nil => exact ⟨[], rfl, fun choices => rfl⟩
  | source layer layers values parts sources overrides hLayer
      hRead hGiven _ ih =>
      cases layer with
      | override key value => cases hLayer
      | _ => exact ih
  | override key text path value layers sources overrides
      hText hPath _ ih =>
      rcases ih with ⟨settings, hSettings, hTree⟩
      refine ⟨(path, .scalar none value) :: settings, ?_, ?_⟩
      · rw [Loader.overrides, hText, hSettings]
        rfl
      · intro choices
        rw [List.foldl_cons]
        dsimp only
        rw [Choices.set_scalar_tree hPath, hTree]
        rfl

/- The tree holds the effective values and nothing else. -/
theorem gathered_eq_ok
    (hGive :
      Layer.Give disk environment layers given overriding) :
    gathered disk environment layers =
      .ok (effective given overriding).tree := by
  rcases exists_collected_eq_ok hGive with
    ⟨values, parts, hValues, hGiven, rfl⟩
  rcases exists_overrides_eq_ok hGive with
    ⟨settings, hSettings, hTree⟩
  unfold gathered
  rw [hSettings, hValues]
  dsimp only
  unfold gather
  rw [List.foldl_cons, List.foldl_nil, merge_defaults,
    Choices.setAll_tree hGiven, hTree, effective_eq_assign]

/-
  The connection is the one that the effective values
  describe.
-/
theorem load_eq_build
    (hGive :
      Layer.Give disk environment layers given overriding) :
    Id.run (load disk environment layers) =
      build (effective given overriding).tree := by
  rw [run_load_eq_gathered, gathered_eq_ok hGive]

end Loader

end KsqlBatch

------------------------------------------------------------
-- Precedence
------------------------------------------------------------

namespace KsqlBatch

/- What an option for the endpoint says about settings. -/
def Key.inOption?
    (key : Key)
    (endpoint : Option String) : Option Setting :=
  if key = .endpoint then
    endpoint.map fun endpoint => .scalar none (.text endpoint)
  else none

namespace Loader

variable {disk : FileSystem Id}
variable {environment : List (String × String)}

/- The layers of an invocation give what their parts give. -/
theorem give_layers
    {path : String}
    {values : Values}
    {fileParts variableParts : List (List (Key × Setting))}
    (hRead :
      Id.run (source disk environment (.file path)) =
        .ok values)
    (hFile : List.Forall₂ Key.Given values fileParts)
    (hVariables :
      List.Forall₂ Key.Given (ofEnvironment environment)
        variableParts)
    (endpoint : Option String) :
    Layer.Give disk environment
      (Program.layers path endpoint)
      (fileParts.flatten ++ (variableParts.flatten ++ []))
      (endpoint.toList.map fun endpoint =>
        (.endpoint, .scalar none (.text endpoint))) := by
  cases endpoint with
  | none =>
      exact
        .source _ _ _ _ _ _ rfl hRead hFile
          (.source _ _ _ _ _ _ rfl rfl hVariables .nil)
  | some endpoint =>
      exact
        .source _ _ _ _ _ _ rfl hRead hFile
          (.source _ _ _ _ _ _ rfl rfl hVariables
            (Layer.give_override disk environment .endpoint
              (.text endpoint)))

theorem lastIn?_option
    (key : Key)
    (endpoint : Option String) :
    key.lastIn?
        (endpoint.toList.map fun endpoint =>
          (.endpoint, .scalar none (.text endpoint))) =
      key.inOption? endpoint := by
  cases endpoint with
  | none => cases key <;> rfl
  | some endpoint => cases key <;> rfl

/-
  Which layer decides a setting. Layers that give values to
  settings are loaded as the effective values alone, and the
  places of the overrides among the sources never matter.
  Pairs in a text give the settings that they name their
  values, and so do the variables of the environment. For a
  configuration file each setting is decided by the option,
  the environment, the file and the built-in value, in this
  order.
-/
theorem load_precedence
    (disk : FileSystem Id)
    (environment : List (String × String)) :
    (∀ layers sources overrides,
      Layer.Give disk environment layers sources overrides →
        Id.run (load disk environment layers) =
          build (effective sources overrides).tree) ∧
    (∀ layers others : List Layer,
      layers.filter (! ·.isOverride) =
          others.filter (! ·.isOverride) →
        layers.filter Layer.isOverride =
            others.filter Layer.isOverride →
          Id.run (load disk environment layers) =
            Id.run (load disk environment others)) ∧
    (∀ origin text pairs,
      Ini.read text =
          .ok { general := pairs, sections := [] } →
        (∀ pair ∈ pairs,
          ∃ key : Key, key.IsNamedBy pair.1) →
        (pairs.Pairwise fun pair other =>
          ∀ key : Key,
            key.IsNamedBy pair.1 →
              ¬ key.IsNamedBy other.1) →
          ∃ values parts,
            ofText origin text = .ok values ∧
            List.Forall₂ Key.Given values parts ∧
            ∀ key : Key,
              key.lastIn? parts.flatten =
                key.inPairs? origin pairs) ∧
    (Assigns environment →
      (∃ parts,
        List.Forall₂ Key.Given (ofEnvironment environment)
            parts ∧
          ∀ key : Key,
            key.lastIn? parts.flatten =
              key.inEnvironment? environment) ∧
      ∀ path endpoint values parts,
        Id.run (source disk environment (.file path)) =
            .ok values →
          List.Forall₂ Key.Given values parts →
            Id.run
                (load disk environment
                  (Program.layers path endpoint)) =
              build
                (Choices.tree fun key =>
                  (key.inOption? endpoint).or
                    ((key.inEnvironment? environment).or
                      ((key.lastIn? parts.flatten).or
                        (builtIn key))))) := by
  refine ⟨?_, ?_, ?_, ?_⟩
  · intro layers sources overrides hGive
    exact load_eq_build hGive
  · intro layers others hSources hOverrides
    exact load_congr hSources hOverrides
  · intro origin text pairs hRead hNamed hOnce
    rcases exists_given_ofPairs hNamed hOnce origin with
      ⟨parts, hGiven, hLast⟩
    refine ⟨ofPairs origin pairs, parts, ?_, hGiven, hLast⟩
    rw [ofText, hRead]
    rfl
  · intro hAssigns
    rcases exists_given_ofEnvironment hAssigns with
      ⟨variableParts, hVariables, hLast⟩
    refine ⟨⟨variableParts, hVariables, hLast⟩, ?_⟩
    intro path endpoint values parts hRead hFile
    rw [load_eq_build
      (give_layers hRead hFile hVariables endpoint)]
    congr 2
    funext key
    unfold effective
    rw [lastIn?_option, Key.lastIn?_append, List.append_nil,
      hLast, Option.or_assoc]

/-
  An override in front of a file with a section, variables in
  mixed case, one of them not for the program, and a
  properties text. The file is outranked in one setting of
  its section only.
-/
theorem load_precedence_of_four_layers :
    let disk :=
      FileSystem.ofScripts "conf"
        [("ksql.ini",
          .ok "[ksqldb]\nEndpoint = file\nport = 9\n")]
    let environment :=
      [("KSQL_RUNNER__KSQLDB__PORT", "8"),
        ("HOME", "/root"), ("Ksql_Runner__Api__Key", "k")]
    let override : Layer :=
      .override "KSQLDB.tls" (.text "false")
    let sources : List Layer :=
      [.file "conf/ksql", .environment,
        .properties "ksqldb.timeout.secs = 5\n"]
    let credentials : Credentials :=
      { key := "k", secret := none }
    (Id.run
        (load disk environment (override :: sources))).1 =
      .ok
        { endpoint := "file"
          port := 8
          useTls := false
          timeoutSecs := 5
          credentials := some credentials } ∧
    Id.run
        (load disk environment (sources ++ [override])) =
      Id.run
        (load disk environment (override :: sources)) ∧
    (Id.run
        (load disk environment
          (Program.layers "conf/ksql" (some "host")))).1 =
      .ok
        { endpoint := "host"
          port := 8
          useTls := true
          timeoutSecs := 30
          credentials := some credentials } ∧
    ∃ values parts,
      ofText none "ksqldb.timeout.secs = 5\n" = .ok values ∧
      List.Forall₂ Key.Given values parts ∧
      Key.timeoutSecs.lastIn? parts.flatten =
        some (.scalar none (.text "5")) := by
  intro disk environment override sources credentials
  rcases load_precedence disk environment with
    ⟨hLayers, hOrder, hText, hVariables⟩
  let origin := some "conf/ksql.ini"
  let values : Values :=
    [("ksqldb",
      .table origin
        [("Endpoint", .scalar origin (.text "file")),
          ("port", .scalar origin (.text "9"))])]
  let parts : List (List (Key × Setting)) :=
    [[(.endpoint, .scalar origin (.text "file")),
      (.port, .scalar origin (.text "9"))]]
  have hRead :
      Id.run (source disk environment (.file "conf/ksql")) =
        .ok values := by
    rfl
  have hFile : List.Forall₂ Key.Given values parts := by
    refine .cons ?_ .nil
    refine
      .table .engine _ _ _ _ (by decide +kernel)
        (List.cons_ne_nil _ _) ?_
    exact
      .cons ⟨rfl, by decide +kernel, rfl, _, _, rfl⟩
        (.cons ⟨rfl, by decide +kernel, rfl, _, _, rfl⟩ .nil)
  have hAssigns : Assigns environment := by
    refine ⟨?_, ?_⟩
    · intro pair hPair
      simp only [environment, List.mem_cons,
        List.not_mem_nil, or_false] at hPair
      rcases hPair with rfl | rfl | rfl
      · exact Or.inr ⟨.port, by decide +kernel⟩
      · exact Or.inl (by decide +kernel)
      · exact Or.inr ⟨.apiKey, by decide +kernel⟩
    · refine .cons ?_ (.cons ?_ (.cons nofun .nil))
      · intro other hOther key
        simp only [List.mem_cons, List.not_mem_nil,
          or_false] at hOther
        rcases hOther with rfl | rfl <;>
          cases key <;> decide +kernel
      · intro other hOther key
        simp only [List.mem_cons, List.not_mem_nil,
          or_false] at hOther
        rcases hOther with rfl
        cases key <;> decide +kernel
  refine ⟨?_, ?_, ?_, ?_⟩
  · have hGive :
        Layer.Give disk environment (override :: sources)
          [(.endpoint, .scalar origin (.text "file")),
            (.port, .scalar origin (.text "9")),
            (.apiKey,
              .scalar (some "the environment") (.text "k")),
            (.port,
              .scalar (some "the environment") (.text "8")),
            (.timeoutSecs, .scalar none (.text "5"))]
          [(.tls, .scalar none (.text "false"))] := by
      have hKey :
          KeyPath.parse "KSQLDB.tls" =
            .ok
              { first := "ksqldb", steps := [.name "tls"] } := by
        decide +kernel
      refine .override .tls _ _ _ _ _ _ hKey rfl ?_
      refine .source _ _ _ parts _ _ rfl hRead hFile ?_
      refine
        .source _ _ _
          [[(.apiKey,
              .scalar (some "the environment") (.text "k"))],
            [(.port,
              .scalar (some "the environment") (.text "8"))]]
          _ _ rfl rfl ?_ ?_
      · exact
          .cons (.value .apiKey _ _ _ (by decide +kernel))
            (.cons (.value .port _ _ _ (by decide +kernel))
              .nil)
      · refine
          .source _ _ _
            [[(.timeoutSecs, .scalar none (.text "5"))]] _ _
            rfl rfl ?_ .nil
        exact
          .cons (.value .timeoutSecs _ _ _ (by decide +kernel))
            .nil
    rw [hLayers _ _ _ hGive]
    rfl
  · exact hOrder _ _ rfl rfl
  · rw [(hVariables hAssigns).2 "conf/ksql" (some "host")
      values parts hRead hFile]
    rfl
  · have hNamed :
        ∀ pair ∈ [("ksqldb.timeout.secs", "5")],
          ∃ key : Key, key.IsNamedBy pair.1 := by
      intro pair hPair
      rw [List.mem_singleton.mp hPair]
      exact ⟨.timeoutSecs, by decide +kernel⟩
    rcases
      hText none "ksqldb.timeout.secs = 5\n" _ (by rfl)
        hNamed (List.pairwise_singleton _ _) with
      ⟨values, parts, hValues, hGiven, hLast⟩
    refine ⟨values, parts, hValues, hGiven, ?_⟩
    rw [hLast]
    rfl

end Loader

end KsqlBatch
