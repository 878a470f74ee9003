import KsqlBatch.CommandLine.Arguments

/-
  This file says how arguments are read as options, and what
  is left of an invocation when the options that concern the
  connection are taken out of its arguments.

  Key definitions include:
    * `Reads`
    * `Given.withoutConnection`
    * `Arguments.withoutConnection`

  Key theorems include:
    * `Reading.readAll_eq_ok_iff`
    * `Reads.withoutConnection`
    * `Command.parse_withoutConnection`
-/

------------------------------------------------------------
-- Reading Options
------------------------------------------------------------

namespace KsqlBatch

/- A text that is taken for the value of an option. -/
def Argument.IsValue
    (text : String) : Prop :=
  ¬ (text.toList.head? = some '-' ∧ text ≠ "-")

/-
  Arguments add up to options: switches, and options with a
  value in the same argument or in the next one. Only at the
  end may there be a separator.
-/
inductive Reads : Given → List String → Given → Prop
| done
    (given : Given) :
    Reads given [] given
| separated
    (given : Given)
    (text : String)
    (hText : Argument.ofText text = .separator) :
    Reads given [text] given
| dryRun
    (given result : Given)
    (text : String)
    (rest : List String)
    (hText :
      (Argument.ofText text).option? = some (.dryRun, none))
    (hFirst : given.dryRun = false)
    (hRest :
      Reads { given with dryRun := true } rest result) :
    Reads given (text :: rest) result
| attached
    (given next result : Given)
    (text value : String)
    (option : ValueOption)
    (rest : List String)
    (hText :
      (Argument.ofText text).option? =
        some (.value option, some value))
    (hPut : given.put option value = .ok next)
    (hRest : Reads next rest result) :
    Reads given (text :: rest) result
| following
    (given next result : Given)
    (text value : String)
    (option : ValueOption)
    (rest : List String)
    (hText :
      (Argument.ofText text).option? =
        some (.value option, none))
    (hValue : Argument.IsValue value)
    (hPut : given.put option value = .ok next)
    (hRest : Reads next rest result) :
    Reads given (text :: value :: rest) result

variable {given result : Given}
variable {arguments : List String}
variable {text : String}

/- A separator is no option. -/
theorem Argument.ne_separator_of_option?
    {found : OptionKind × Option String}
    (hText : (ofText text).option? = some found) :
    ofText text ≠ .separator := by
  intro hSeparator
  rw [hSeparator] at hText
  cases hText

namespace Reading

theorem reads_of_readAll_eq_ok
    (hRead : readAll given arguments = .ok (.options result)) :
    Reads given arguments result := by
  fun_induction readAll given arguments with
  | case1 given =>
      cases hRead
      exact .done _
  | case2 given text argument hText =>
      cases hRead
      exact .separated _ _ hText
  | case11 given text rest argument _ hText hFirst ih =>
      exact
        .dryRun _ _ _ _ hText
          (Bool.eq_false_iff.mpr hFirst) (ih hRead)
  | case13 given text rest argument _ option value hText next
      hPut ih =>
      exact .attached _ _ _ _ _ _ _ hText hPut (ih hRead)
  | case17 given text argument _ option hText value rest
      hValue next hPut ih =>
      exact
        .following _ _ _ _ _ _ _ hText hValue hPut (ih hRead)
  | _ => cases hRead

/- Arguments are read as the options they add up to. -/
theorem readAll_eq_ok_iff :
    readAll given arguments = .ok (.options result) ↔
      Reads given arguments result := by
  refine ⟨reads_of_readAll_eq_ok, ?_⟩
  intro hReads
  induction hReads with
  | done given => rfl
  | separated given text hText =>
      rw [readAll.eq_def]
      simp [hText]
  | dryRun given result text rest hText hFirst _ ih =>
      rw [readAll.eq_def]
      simp [Argument.ne_separator_of_option? hText, hText,
        hFirst, ih]
  | attached given next result text value option rest hText
      hPut _ ih =>
      rw [readAll.eq_def]
      simp [Argument.ne_separator_of_option? hText, hText,
        hPut, ih]
  | following given next result text value option rest hText
      hValue hPut _ ih =>
      rw [readAll,
        if_neg (Argument.ne_separator_of_option? hText)]
      unfold Argument.IsValue at hValue
      simp [hText, hPut, ih, hValue]

end Reading

end KsqlBatch

------------------------------------------------------------
-- Options of a Connection
------------------------------------------------------------

namespace KsqlBatch

/- An option that concerns the connection. -/
def ValueOption.isConnection : ValueOption → Bool
| .config => true
| .endpoint => true
| .directory => false
| .filename => false
| .listStreams => false

/- The options without those of the connection. -/
def Given.withoutConnection
    (given : Given) : Given :=
  { given with
    config := Option.none
    endpoint := Option.none }

/- The run without the options of the connection. -/
def Invocation.withoutConnection
    (invocation : Invocation) : Invocation :=
  { invocation with
    config := none
    endpoint := none }

/- Arguments without the options of the connection. -/
def Arguments.withoutConnection :
    List String → List String
| [] => []
| text :: rest =>
    match (Argument.ofText text).option? with
    | some (.value option, some _) =>
        if option.isConnection then withoutConnection rest
        else text :: withoutConnection rest
    | some (.value option, none) =>
        match rest with
        | [] => [text]
        | value :: rest =>
            if option.isConnection then withoutConnection rest
            else text :: value :: withoutConnection rest
    | _ => text :: withoutConnection rest

namespace Given

variable {given next : Given}
variable {option : ValueOption}
variable {value : String}

theorem withoutConnection_of_put
    (hPut : given.put option value = .ok next)
    (hConnection : option.isConnection = true) :
    next.withoutConnection = given.withoutConnection := by
  unfold put at hPut
  cases option <;> cases hConnection <;>
    · split at hPut
      · cases hPut
      · split at hPut
        · cases hPut
        · cases hPut
          rfl

theorem put_withoutConnection
    (hPut : given.put option value = .ok next)
    (hConnection : option.isConnection = false) :
    given.withoutConnection.put option value =
      .ok next.withoutConnection := by
  have hHas :
      given.withoutConnection.has option =
        given.has option := by
    cases option <;> cases hConnection <;> rfl
  unfold put at hPut ⊢
  rw [hHas]
  split at hPut
  · cases hPut
  · rename_i hNew
    rw [if_neg hNew]
    split at hPut
    · cases hPut
    · rename_i hText
      rw [if_neg hText]
      cases option with
      | config => cases hConnection
      | endpoint => cases hConnection
      | directory =>
          cases hPut
          rfl
      | filename =>
          cases hPut
          rfl
      | listStreams =>
          dsimp only at hPut ⊢
          split at hPut
          · cases hPut
            rfl
          · cases hPut

/-
  Options are accepted if there is one input, and if only a
  preview goes without a configuration.
-/
theorem check_eq_ok_iff
    {invocation : Invocation} :
    given.check = .ok invocation ↔
      given.config = invocation.config ∧
      given.endpoint = invocation.endpoint ∧
      given.input = .ok invocation.input ∧
      given.policy.getD .before = invocation.policy ∧
      given.dryRun = invocation.dryRun ∧
      (given.config = Option.none →
        given.dryRun = true ∧
          given.endpoint = Option.none) := by
  rcases invocation with
    ⟨config, endpoint, input, policy, dryRun⟩
  unfold check
  cases hInput : given.input with
  | error fault => simp
  | ok found =>
      cases hConfig : given.config <;>
        cases hDry : given.dryRun <;>
          cases hEndpoint : given.endpoint <;>
            simp [eq_comm]

/- A preview goes without a connection. -/
theorem check_withoutConnection
    {invocation : Invocation}
    (hCheck : given.check = .ok invocation)
    (hDry : invocation.dryRun = true) :
    given.withoutConnection.check =
      .ok invocation.withoutConnection := by
  rcases check_eq_ok_iff.mp hCheck with
    ⟨_, _, hInput, hPolicy, hDryRun, _⟩
  refine
    check_eq_ok_iff.mpr
      ⟨rfl, rfl, hInput, hPolicy, hDryRun, ?_⟩
  intro _
  exact ⟨hDryRun.trans hDry, rfl⟩

end Given

/- Without some options, arguments add up to the others. -/
theorem Reads.withoutConnection
    {given result : Given}
    {arguments : List String}
    (hReads : Reads given arguments result) :
    Reads given.withoutConnection
      (Arguments.withoutConnection arguments)
      result.withoutConnection := by
  induction hReads with
  | done given => exact .done _
  | separated given text hText =>
      rw [Arguments.withoutConnection, hText]
      exact .separated _ _ hText
  | dryRun given result text rest hText hFirst _ ih =>
      rw [Arguments.withoutConnection, hText]
      exact .dryRun _ _ _ _ hText hFirst ih
  | attached given next result text value option rest hText
      hPut _ ih =>
      rw [Arguments.withoutConnection, hText]
      dsimp only
      cases hConnection : option.isConnection with
      | true =>
          rw [Given.withoutConnection_of_put hPut hConnection]
            at ih
          exact ih
      | false =>
          exact
            .attached _ _ _ _ _ _ _ hText
              (Given.put_withoutConnection hPut hConnection)
              ih
  | following given next result text value option rest hText
      hValue hPut _ ih =>
      rw [Arguments.withoutConnection, hText]
      dsimp only
      cases hConnection : option.isConnection with
      | true =>
          rw [Given.withoutConnection_of_put hPut hConnection]
            at ih
          exact ih
      | false =>
          exact
            .following _ _ _ _ _ _ _ hText hValue
              (Given.put_withoutConnection hPut hConnection)
              ih

namespace Command

variable {arguments : List String}
variable {invocation : Invocation}

/- Arguments ask for a run if their options add up to it. -/
theorem parse_eq_run_iff :
    parse arguments = .ok (.run invocation) ↔
      ∃ given,
        Reads Given.none arguments given ∧
          given.check = .ok invocation := by
  constructor
  · intro hAccepted
    unfold parse at hAccepted
    split at hAccepted
    · cases hAccepted
    · cases hAccepted
    · cases hAccepted
    · rename_i given hRead
      refine
        ⟨given, Reading.readAll_eq_ok_iff.mp hRead, ?_⟩
      split at hAccepted
      · cases hAccepted
      · rename_i hCheck
        cases hAccepted
        exact hCheck
  · rintro ⟨given, hReads, hCheck⟩
    unfold parse
    rw [Reading.readAll_eq_ok_iff.mpr hReads]
    dsimp only
    rw [hCheck]

/- The arguments of a preview need no connection. -/
theorem parse_withoutConnection
    (hAccepted : parse arguments = .ok (.run invocation))
    (hDry : invocation.dryRun = true) :
    parse (Arguments.withoutConnection arguments) =
      .ok (.run invocation.withoutConnection) := by
  rcases parse_eq_run_iff.mp hAccepted with
    ⟨given, hReads, hCheck⟩
  exact
    parse_eq_run_iff.mpr
      ⟨given.withoutConnection, hReads.withoutConnection,
        Given.check_withoutConnection hCheck hDry⟩

end Command

end KsqlBatch
