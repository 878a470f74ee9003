import KsqlBatch.CommandLine.Program
import KsqlBatch.Proofs.CommandLine.Options

/-
  This file says what a run can rely on if its arguments are
  accepted. There is one input, and a configuration unless
  the run is a preview, so that nothing is left to a default.
  The order and the spelling of the options do not matter.

  Key definitions include:
    * `Given.inputOr`
    * `Program.executeOr`
    * `Invocation.IsGivenBy`
    * `Respells`

  Key theorems include:
    * `Program.executeOr_eq_execute`
    * `Command.parse_eq_run_iff_spells`
    * `Command.parse_of_spells_perm`
    * `Respells.spells`

  The main result is `Command.accepted_runs_are_complete`.
-/

------------------------------------------------------------
-- Inputs
------------------------------------------------------------

namespace KsqlBatch

/- The path of an input. -/
def BatchInput.path : BatchInput → String
| .file path => path
| .directory path => path

/- The input that an option names. -/
def GivenOption.input? : GivenOption → Option BatchInput
| .value .directory path => some (.directory path)
| .value .filename path => some (.file path)
| _ => none

/- Inputs are named by options of two kinds. -/
theorem GivenOption.filterMap_input?_perm
    (options : List GivenOption) :
    (options.filterMap input?).Perm
      ((options.filterMap (valueOf? .directory)).map
          .directory ++
        (options.filterMap (valueOf? .filename)).map
          .file) := by
  induction options with
  | nil => exact .nil
  | cons option options ih =>
      cases option with
      | dryRun => exact ih
      | value option path =>
          cases option with
          | directory => exact ih.cons _
          | filename =>
              exact (ih.cons _).trans List.perm_middle.symm
          | _ => exact ih

namespace Given

/-
  The input that options name without a look at whether they
  name one. Where no path is given, one has to be made up.
-/
def inputOr
    (given : Given)
    (missing : String) : BatchInput :=
  match given.directory with
  | some path => .directory path
  | Option.none => .file (given.filename.getD missing)

variable {given : Given}
variable {input : BatchInput}

/- One input is given as one path. -/
theorem input_eq_ok_iff :
    given.input = .ok input ↔
      given.directory.toList.map .directory ++
          given.filename.toList.map .file =
        [input] := by
  unfold Given.input
  cases given.directory <;> cases given.filename <;> simp

/- With one input, no path is made up. -/
theorem inputOr_eq
    (hInput : given.input = .ok input)
    (missing : String) :
    given.inputOr missing = input := by
  unfold Given.input at hInput
  unfold inputOr
  split at hInput
  · cases hInput
  · rename_i hDirectory _
    cases hInput
    rw [hDirectory]
  · rename_i hDirectory hFilename
    cases hInput
    rw [hDirectory, hFilename]
    rfl
  · cases hInput

end Given

end KsqlBatch

------------------------------------------------------------
-- Missing Configurations
------------------------------------------------------------

namespace KsqlBatch

namespace Program

variable {m : Type → Type}
variable [Monad m]

/-
  Carry out an invocation. What is done where it lacks a
  configuration is left open.
-/
def executeOr
    (host : Host m)
    (invocation : Invocation)
    (missing : m (Except RunError BatchReport)) :
    m (Except RunError BatchReport) := do
  match ← configure host invocation with
  | .error error => return .error error
  | .ok connection =>
      if invocation.dryRun then
        runBatch host invocation
          (Preview.executor host.report)
      else
        match connection with
        | none => missing
        | some connection => do
            let client := Client.ofConnection connection
            host.report (.log client.connecting)
            runBatch host invocation
              (client.executor host.transport host.report)

/- The program refuses to go without a configuration. -/
theorem execute_eq_executeOr
    (host : Host m)
    (invocation : Invocation) :
    execute host invocation =
      executeOr host invocation
        (return .error (.invalidConfig .noConfiguration)) :=
  rfl

/-
  A run with a configuration and a preview never come to the
  place where the configuration is missing.
-/
theorem executeOr_eq_execute
    [LawfulMonad m]
    {invocation : Invocation}
    (hConfigured :
      invocation.config = none → invocation.dryRun = true)
    (host : Host m)
    (missing : m (Except RunError BatchReport)) :
    executeOr host invocation missing =
      execute host invocation := by
  rw [execute_eq_executeOr]
  unfold executeOr configure
  cases hConfig : invocation.config with
  | none => rw [hConfigured hConfig]; rfl
  | some path =>
      simp only [bind_assoc, pure_bind]
      congr 1
      funext _
      congr 1
      funext loading
      rcases loading with ⟨loaded, log⟩
      congr 1
      funext _
      cases loaded <;> rfl

end Program

end KsqlBatch

------------------------------------------------------------
-- Accepted Options
------------------------------------------------------------

namespace KsqlBatch

/- A run has what it needs from its options. -/
structure Invocation.IsGivenBy
    (invocation : Invocation)
    (options : List GivenOption) : Prop where
  oneInput :
    options.filterMap GivenOption.input? = [invocation.input]
  somePath :
    invocation.input.path ≠ ""
  config :
    options.filterMap (·.valueOf? .config) =
      invocation.config.toList
  endpoint :
    options.filterMap (·.valueOf? .endpoint) =
      invocation.endpoint.toList
  dryRun :
    invocation.dryRun = true ↔ .dryRun ∈ options
  configured :
    invocation.dryRun = false → invocation.config.isSome = true
  connected :
    invocation.endpoint.isSome = true →
      invocation.config.isSome = true

variable {given : Given}
variable {invocation : Invocation}
variable {options : List GivenOption}

namespace Given

theorem filterMap_input?_of_takeAll
    (hTake : none.takeAll options = .ok given)
    {input : BatchInput}
    (hInput : given.input = .ok input) :
    options.filterMap GivenOption.input? = [input] := by
  have hPerm := GivenOption.filterMap_input?_perm options
  rw [filterMap_valueOf?_of_takeAll hTake .directory,
    filterMap_valueOf?_of_takeAll hTake .filename] at hPerm
  have hOne := input_eq_ok_iff.mp hInput
  exact List.perm_singleton.mp (hOne ▸ hPerm)

/- A path that is given is not empty. -/
theorem path_ne_empty_of_takeAll
    (hTake : none.takeAll options = .ok given)
    {input : BatchInput}
    (hInput : input ∈ options.filterMap GivenOption.input?) :
    input.path ≠ "" := by
  rcases List.mem_filterMap.mp hInput with
    ⟨option, hMember, hOption⟩
  have hValid := isValid_of_takeAll hTake hMember
  unfold GivenOption.input? at hOption
  split at hOption
  · cases hOption
    exact hValid.left rfl
  · cases hOption
    exact hValid.left rfl
  · cases hOption

/- Options that pass the check give a run what it needs. -/
theorem isGivenBy_of_check
    (hTake : none.takeAll options = .ok given)
    (hCheck : given.check = .ok invocation) :
    invocation.IsGivenBy options := by
  rcases check_eq_ok_iff.mp hCheck with
    ⟨hConfig, hEndpoint, hInput, _, hDry, hAlone⟩
  have hInputs := filterMap_input?_of_takeAll hTake hInput
  rw [hConfig] at hAlone
  rw [hEndpoint, hDry] at hAlone
  exact
    { oneInput := hInputs
      somePath := by
        apply path_ne_empty_of_takeAll hTake
        rw [hInputs]
        exact List.mem_singleton_self _
      config := by
        rw [← hConfig]
        exact filterMap_valueOf?_of_takeAll hTake .config
      endpoint := by
        rw [← hEndpoint]
        exact filterMap_valueOf?_of_takeAll hTake .endpoint
      dryRun := by
        rw [← hDry, dryRun_of_takeAll hTake]
        simp [none]
      configured := by
        intro hRun
        cases hFound : invocation.config with
        | none =>
            rw [(hAlone hFound).left] at hRun
            cases hRun
        | some path => rfl
      connected := by
        intro hSome
        cases hFound : invocation.config with
        | none =>
            rw [(hAlone hFound).right] at hSome
            cases hSome
        | some path => rfl }

end Given

end KsqlBatch

------------------------------------------------------------
-- Other Spellings
------------------------------------------------------------

namespace KsqlBatch

open Argument

/-
  A text that is taken for a value wherever it stands: it is
  not empty, and begins neither like an option nor like a
  value behind an equals sign.
-/
structure Argument.IsPlain
    (text : String) : Prop where
  nonempty : text ≠ ""
  dash : text.toList.head? ≠ some '-'
  equals : text.toList.head? ≠ some '='

theorem Argument.IsPlain.isValue
    {text : String}
    (hPlain : IsPlain text) :
    IsValue text :=
  fun hDash => hPlain.dash hDash.left

/-
  One value moves from its own argument into that of its
  option.
-/
inductive Respells : List String → List String → Prop
| long
    (before after : List String)
    (option : ValueOption)
    (text : String)
    (hPlain : IsPlain text) :
    Respells
      (before ++ [option.name, text] ++ after)
      (before ++ [option.name ++ "=" ++ text] ++ after)
| short
    (before after : List String)
    (option : ValueOption)
    (letter : Char)
    (text : String)
    (hLetter : option.letter? = some letter)
    (hPlain : IsPlain text) :
    Respells
      (before ++ [shortText letter, text] ++ after)
      (before ++ [shortText letter ++ text] ++ after)

namespace Command

variable {arguments otherArguments : List String}
variable {invocation : Invocation}
variable {options others : List GivenOption}

/- Accepted arguments are written from accepted options. -/
theorem parse_eq_run_iff_spells :
    parse arguments = .ok (.run invocation) ↔
      ∃ options given,
        Spells options arguments ∧
          Given.none.takeAll options = .ok given ∧
          given.check = .ok invocation := by
  rw [parse_eq_run_iff]
  constructor
  · rintro ⟨given, hReads, hCheck⟩
    rcases reads_iff_spells.mp hReads with
      ⟨options, hSpells, hTake⟩
    exact ⟨options, given, hSpells, hTake, hCheck⟩
  · rintro ⟨options, given, hSpells, hTake, hCheck⟩
    exact
      ⟨given, reads_iff_spells.mpr ⟨options, hSpells, hTake⟩,
        hCheck⟩

/-
  Arguments that are written from the same options, in any
  order, ask for the same.
-/
theorem parse_of_spells_perm
    (hAccepted : parse arguments = .ok (.run invocation))
    (hSpells : Spells options arguments)
    (hPerm : others.Perm options)
    (hOthers : Spells others otherArguments) :
    parse otherArguments = .ok (.run invocation) := by
  rcases parse_eq_run_iff_spells.mp hAccepted with
    ⟨found, given, hFound, hTake, hCheck⟩
  rw [hFound.unique hSpells] at hTake
  exact
    parse_eq_run_iff_spells.mpr
      ⟨others, given, hOthers,
        Given.takeAll_of_perm hPerm.symm hTake, hCheck⟩

end Command

theorem Respells.spells
    {options : List GivenOption}
    {arguments otherArguments : List String}
    (hRespells : Respells arguments otherArguments) :
    Spells options arguments ↔
      Spells options otherArguments := by
  cases hRespells with
  | long before after option text hPlain =>
      have hWritten :=
        GivenOption.IsWritten.long option text hPlain.isValue
      have hOther :=
        GivenOption.IsWritten.longEquals option text
      exact
        ⟨fun hSpells => hSpells.respell hWritten hOther,
          fun hSpells => hSpells.respell hOther hWritten⟩
  | short before after option letter text hLetter hPlain =>
      have hWritten :=
        GivenOption.IsWritten.short option letter text hLetter
          hPlain.isValue
      have hOther :=
        GivenOption.IsWritten.shortAttached option letter text
          hLetter hPlain.nonempty hPlain.equals
      exact
        ⟨fun hSpells => hSpells.respell hWritten hOther,
          fun hSpells => hSpells.respell hOther hWritten⟩

end KsqlBatch

------------------------------------------------------------
-- Accepted Runs
------------------------------------------------------------

namespace KsqlBatch

namespace Command

/-
  Arguments that are accepted as a run are written from one
  list of options. It names one input with a path, and a
  configuration where one is needed. So no path has to be
  made up, and the run never finds its configuration missing.
  In any order and in any spelling, the options ask for the
  same run.
-/
theorem accepted_runs_are_complete
    {arguments : List String}
    {invocation : Invocation}
    (hAccepted : parse arguments = .ok (.run invocation)) :
    (∃ options,
      Spells options arguments ∧
      (∀ others,
        Spells others arguments → others = options) ∧
      invocation.IsGivenBy options ∧
      (∃ given,
        Given.none.takeAll options = .ok given ∧
          ∀ missing,
            given.inputOr missing = invocation.input) ∧
      ∀ others otherArguments,
        others.Perm options →
          Spells others otherArguments →
            parse otherArguments = .ok (.run invocation)) ∧
    (∀ otherArguments,
      Respells arguments otherArguments ∨
          Respells otherArguments arguments →
        parse otherArguments = .ok (.run invocation)) ∧
    ∀ (m : Type → Type) [Monad m] [LawfulMonad m]
      (host : Host m)
      (missing : m (Except RunError BatchReport)),
        Program.executeOr host invocation missing =
          Program.execute host invocation := by
  rcases parse_eq_run_iff_spells.mp hAccepted with
    ⟨options, given, hSpells, hTake, hCheck⟩
  have hGiven := Given.isGivenBy_of_check hTake hCheck
  have hInput := (Given.check_eq_ok_iff.mp hCheck).2.2.1
  refine
    ⟨⟨options, hSpells, ?unique, hGiven, ?path, ?order⟩,
      ?spelling, ?configured⟩
  case unique =>
    intro others hOthers
    exact hOthers.unique hSpells
  case path =>
    exact ⟨given, hTake, Given.inputOr_eq hInput⟩
  case order =>
    intro others otherArguments hPerm hOthers
    exact parse_of_spells_perm hAccepted hSpells hPerm hOthers
  case spelling =>
    intro otherArguments hRespells
    have hOther : Spells options otherArguments := by
      rcases hRespells with hRespells | hRespells
      · exact hRespells.spells.mp hSpells
      · exact hRespells.spells.mpr hSpells
    exact
      parse_of_spells_perm hAccepted hSpells (.refl _) hOther
  case configured =>
    intro m _ _ host missing
    apply Program.executeOr_eq_execute
    intro hMissing
    cases hDry : invocation.dryRun with
    | true => rfl
    | false =>
        have hConfig := hGiven.configured hDry
        rw [hMissing] at hConfig
        cases hConfig

/-
  A configuration that is named like an option, and a script:
  with the path in the same argument, and in the other order
  with a separator behind it.
-/
theorem accepted_runs_are_complete_of_config_and_file :
    let arguments := ["-c", "-", "--filename", "a=b.ksql"]
    let invocation : Invocation :=
      { config := some "-"
        endpoint := none
        input := .file "a=b.ksql"
        policy := .before
        dryRun := false }
    let options : List GivenOption :=
      [.value .config "-", .value .filename "a=b.ksql"]
    parse arguments = .ok (.run invocation) ∧
      invocation.IsGivenBy options ∧
      parse ["-c", "-", "--filename=a=b.ksql"] =
        .ok (.run invocation) ∧
      parse ["-fa=b.ksql", "--config=-", "--"] =
        .ok (.run invocation) := by
  intro arguments invocation options
  have hAccepted :
      parse arguments = .ok (.run invocation) := by
    decide +kernel
  have hPlain : Argument.IsPlain "a=b.ksql" :=
    ⟨by decide, by decide, by decide⟩
  have hDash : Argument.IsValue "-" := fun h => h.2 rfl
  have hArguments : Spells options arguments :=
    .next _ _ ["-c", "-"] ["--filename", "a=b.ksql"]
      (.short .config 'c' "-" rfl hDash)
      (.next _ _ ["--filename", "a=b.ksql"] []
        (.long .filename "a=b.ksql" hPlain.isValue) .done)
  have hOthers :
      Spells options.reverse
        ["-fa=b.ksql", "--config=-", "--"] :=
    .next _ _ ["-fa=b.ksql"] ["--config=-", "--"]
      (.shortAttached .filename 'f' "a=b.ksql" rfl
        hPlain.nonempty hPlain.equals)
      (.next _ _ ["--config=-"] ["--"]
        (.longEquals .config "-") .separated)
  rcases accepted_runs_are_complete hAccepted with
    ⟨⟨found, _, hUnique, hGiven, _, hOrder⟩, hSpelling, _⟩
  cases hUnique options hArguments
  exact
    ⟨hAccepted, hGiven,
      hSpelling _
        (Or.inl
          (.long ["-c", "-"] [] .filename "a=b.ksql" hPlain)),
      hOrder _ _ options.reverse_perm hOthers⟩

end Command

end KsqlBatch
