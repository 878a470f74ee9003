import Mathlib.Data.List.Perm.Basic
import KsqlBatch.Proofs.CommandLine.Spelling

/-
  This file says what a list of options amounts to. Arguments
  that are read without a fault are options written one after
  the other. There is one such list of options, and neither
  its order nor the way it is written matters.

  Key definitions include:
    * `Spells`
    * `Given.takeAll`
    * `Given.text?`
    * `GivenOption.valueOf?`

  Key theorems include:
    * `reads_iff_spells`
    * `Spells.unique`
    * `Spells.respell`
    * `Given.takeAll_of_perm`
    * `Given.filterMap_valueOf?_of_takeAll`
-/

------------------------------------------------------------
-- Giving Options
------------------------------------------------------------

namespace KsqlBatch

/- An option can be given with its value. -/
def GivenOption.IsValid : GivenOption → Prop
| .dryRun => True
| .value option text =>
    (option.needsText = true → text ≠ "") ∧
      (option = .listStreams →
        (ListingPolicy.ofName? text).isSome = true)

namespace Given

/- An option has not been given yet. -/
def Lacks
    (given : Given) : GivenOption → Prop
| .dryRun => given.dryRun = false
| .value option _ => given.has option = false

/- One option more. -/
def adding
    (given : Given) : GivenOption → Given
| .dryRun => { given with dryRun := true }
| .value .config text => { given with config := some text }
| .value .endpoint text =>
    { given with endpoint := some text }
| .value .directory text =>
    { given with directory := some text }
| .value .filename text =>
    { given with filename := some text }
| .value .listStreams text =>
    { given with policy := ListingPolicy.ofName? text }

/- Give one option. -/
def take
    (given : Given) :
    GivenOption → Except UsageFault Given
| .dryRun =>
    if given.dryRun then .error (.repeated "--dry-run")
    else .ok { given with dryRun := true }
| .value option text => given.put option text

/- Give options in order. -/
def takeAll
    (given : Given) :
    List GivenOption → Except UsageFault Given
| [] => .ok given
| option :: options =>
    match given.take option with
    | .error fault => .error fault
    | .ok next => next.takeAll options

variable {given next middle result : Given}
variable {option first second : GivenOption}
variable {options others : List GivenOption}

/- An option is taken if it is new and has a valid value. -/
theorem take_eq_ok_iff :
    given.take option = .ok next ↔
      given.Lacks option ∧
        option.IsValid ∧ given.adding option = next := by
  cases option with
  | dryRun =>
      unfold take Lacks
      cases given.dryRun <;> simp [GivenOption.IsValid, adding]
  | value option text =>
      unfold take put Lacks GivenOption.IsValid
      by_cases hHas : given.has option = true
      · simp [hHas]
      · cases option with
        | listStreams =>
            cases hPolicy : ListingPolicy.ofName? text <;>
              simp [hHas, ValueOption.needsText, adding,
                hPolicy]
        | _ =>
            by_cases hEmpty : text = "" <;>
              simp [hHas, ValueOption.needsText, adding,
                hEmpty]

theorem takeAll_cons_eq_ok_iff :
    given.takeAll (option :: options) = .ok result ↔
      ∃ next,
        given.take option = .ok next ∧
          next.takeAll options = .ok result := by
  rw [takeAll]
  cases given.take option <;> simp

/-
  An option that is still lacking behind another one is for a
  different place, so that the two can change places.
-/
theorem adding_comm
    (hFirst : given.Lacks first)
    (hValid : first.IsValid)
    (hSecond : (given.adding first).Lacks second) :
    given.Lacks second ∧
      (given.adding second).Lacks first ∧
      (given.adding second).adding first =
        (given.adding first).adding second := by
  cases first with
  | dryRun =>
      cases second with
      | dryRun => cases hSecond
      | value later _ =>
          cases later <;> exact ⟨hSecond, hFirst, rfl⟩
  | value option text =>
      cases second with
      | dryRun => cases option <;> exact ⟨hSecond, hFirst, rfl⟩
      | value later _ =>
          by_cases hSame : later = option
          · -- Nothing is lacking twice.
            rw [hSame] at hSecond
            cases option with
            | listStreams =>
                exact
                  absurd (hValid.right rfl)
                    (Bool.eq_false_iff.mp hSecond)
            | _ => cases hSecond
          · cases option <;> cases later <;>
              first
              | exact absurd rfl hSame
              | exact ⟨hSecond, hFirst, rfl⟩

/- Two options that are taken can change places. -/
theorem take_comm
    (hFirst : given.take first = .ok middle)
    (hSecond : middle.take second = .ok result) :
    ∃ other,
      given.take second = .ok other ∧
        other.take first = .ok result := by
  rcases take_eq_ok_iff.mp hFirst with
    ⟨hLacksFirst, hValidFirst, rfl⟩
  rcases take_eq_ok_iff.mp hSecond with
    ⟨hLacksSecond, hValidSecond, rfl⟩
  rcases
    adding_comm hLacksFirst hValidFirst hLacksSecond with
      ⟨hBefore, hBehind, hSame⟩
  exact
    ⟨given.adding second,
      take_eq_ok_iff.mpr ⟨hBefore, hValidSecond, rfl⟩,
      take_eq_ok_iff.mpr ⟨hBehind, hValidFirst, hSame⟩⟩

/- The order of options does not matter. -/
theorem takeAll_of_perm
    (hPerm : options.Perm others)
    (hTake : given.takeAll options = .ok result) :
    given.takeAll others = .ok result := by
  induction hPerm generalizing given with
  | nil => exact hTake
  | cons option _ ih =>
      rcases takeAll_cons_eq_ok_iff.mp hTake with
        ⟨next, hNext, hLater⟩
      exact
        takeAll_cons_eq_ok_iff.mpr ⟨next, hNext, ih hLater⟩
  | swap second first options =>
      rcases takeAll_cons_eq_ok_iff.mp hTake with
        ⟨middle, hFirst, hTail⟩
      rcases takeAll_cons_eq_ok_iff.mp hTail with
        ⟨next, hSecond, hLater⟩
      rcases take_comm hFirst hSecond with
        ⟨other, hOther, hNext⟩
      exact
        takeAll_cons_eq_ok_iff.mpr
          ⟨other, hOther,
            takeAll_cons_eq_ok_iff.mpr ⟨next, hNext, hLater⟩⟩
  | trans _ _ ihFirst ihSecond =>
      exact ihSecond (ihFirst hTake)

end Given

end KsqlBatch

------------------------------------------------------------
-- Values of Options
------------------------------------------------------------

namespace KsqlBatch

/- The name of a listing policy. -/
def ListingPolicy.name : ListingPolicy → String
| .never => "never"
| .before => "before"
| .after => "after"
| .both => "both"

theorem ListingPolicy.name_of_ofName?
    {name : String}
    {policy : ListingPolicy}
    (hName : ofName? name = some policy) :
    policy.name = name := by
  unfold ofName? at hName
  split_ifs at hName with hNever hBefore hAfter hBoth
  · cases hName
    exact hNever.symm
  · cases hName
    exact hBefore.symm
  · cases hName
    exact hAfter.symm
  · cases hName
    exact hBoth.symm

/- The value of a wanted option, if it is this one. -/
def GivenOption.valueOf?
    (wanted : ValueOption) : GivenOption → Option String
| .dryRun => none
| .value option text =>
    if option = wanted then some text else none

namespace Given

/- The value that has been given for an option. -/
def text?
    (given : Given) : ValueOption → Option String
| .config => given.config
| .endpoint => given.endpoint
| .directory => given.directory
| .filename => given.filename
| .listStreams => given.policy.map ListingPolicy.name

variable {given next result : Given}
variable {option : GivenOption}
variable {options : List GivenOption}

theorem has_eq_isSome_text?
    (option : ValueOption) :
    given.has option = (given.text? option).isSome := by
  cases option with
  | listStreams => rw [has, text?, Option.isSome_map]
  | _ => rfl

theorem text?_adding
    (hValid : option.IsValid)
    (wanted : ValueOption) :
    (given.adding option).text? wanted =
      ((option.valueOf? wanted).or (given.text? wanted)) := by
  cases option with
  | dryRun => cases wanted <;> rfl
  | value option text =>
      by_cases hSame : option = wanted
      · rw [GivenOption.valueOf?, if_pos hSame, ← hSame]
        cases option with
        | listStreams =>
            rcases
              Option.isSome_iff_exists.mp
                (hValid.right rfl) with
                  ⟨policy, hPolicy⟩
            rw [adding, text?, hPolicy, Option.map_some,
              ListingPolicy.name_of_ofName? hPolicy]
            rfl
        | _ => rfl
      · rw [GivenOption.valueOf?, if_neg hSame]
        cases option <;> cases wanted <;>
          first
          | exact absurd rfl hSame
          | rfl

/- What is taken for an option is its value. -/
theorem toList_text?_of_take
    (hTake : given.take option = .ok next)
    (wanted : ValueOption) :
    (next.text? wanted).toList =
      (given.text? wanted).toList ++
        (option.valueOf? wanted).toList := by
  rcases take_eq_ok_iff.mp hTake with
    ⟨hLacks, hValid, rfl⟩
  rw [text?_adding hValid]
  cases option with
  | dryRun => simp [GivenOption.valueOf?]
  | value option text =>
      rw [GivenOption.valueOf?]
      split_ifs with hSame
      · rw [Lacks, has_eq_isSome_text?, hSame] at hLacks
        rw [Option.isNone_iff_eq_none.mp
          (Option.isSome_eq_false_iff.mp hLacks)]
        rfl
      · simp

/- What has been given for an option are its values. -/
theorem toList_text?_of_takeAll
    (hTake : given.takeAll options = .ok result)
    (wanted : ValueOption) :
    (result.text? wanted).toList =
      (given.text? wanted).toList ++
        options.filterMap (·.valueOf? wanted) := by
  induction options generalizing given with
  | nil =>
      cases hTake
      rw [List.filterMap_nil, List.append_nil]
  | cons option options ih =>
      rcases takeAll_cons_eq_ok_iff.mp hTake with
        ⟨next, hNext, hLater⟩
      rw [ih hLater, toList_text?_of_take hNext,
        List.append_assoc, List.filterMap_cons]
      cases option.valueOf? wanted <;> rfl

/- Behind a list of options nothing else has been given. -/
theorem filterMap_valueOf?_of_takeAll
    (hTake : none.takeAll options = .ok result)
    (wanted : ValueOption) :
    options.filterMap (·.valueOf? wanted) =
      (result.text? wanted).toList := by
  rw [toList_text?_of_takeAll hTake]
  cases wanted <;> rfl

/- Only an option asks for a dry run. -/
theorem dryRun_of_takeAll
    (hTake : given.takeAll options = .ok result) :
    result.dryRun = true ↔
      given.dryRun = true ∨ .dryRun ∈ options := by
  induction options generalizing given with
  | nil =>
      cases hTake
      simp
  | cons option options ih =>
      rcases takeAll_cons_eq_ok_iff.mp hTake with
        ⟨next, hNext, hLater⟩
      rcases take_eq_ok_iff.mp hNext with ⟨_, _, rfl⟩
      rw [ih hLater, List.mem_cons]
      cases option with
      | dryRun => simp [adding]
      | value option text => cases option <;> simp [adding]

/- Only valid options are taken. -/
theorem isValid_of_takeAll
    (hTake : given.takeAll options = .ok result)
    (hMember : option ∈ options) :
    option.IsValid := by
  induction options generalizing given with
  | nil => cases hMember
  | cons first options ih =>
      rcases takeAll_cons_eq_ok_iff.mp hTake with
        ⟨next, hNext, hLater⟩
      rcases List.mem_cons.mp hMember with rfl | hMember
      · exact (take_eq_ok_iff.mp hNext).right.left
      · exact ih hLater hMember

end Given

end KsqlBatch

------------------------------------------------------------
-- Options in Order
------------------------------------------------------------

namespace KsqlBatch

/-
  The arguments are the options, one written after the other.
  Only at the end may there be a separator.
-/
inductive Spells :
    List GivenOption → List String → Prop
| done :
    Spells [] []
| separated :
    Spells [] ["--"]
| next
    (option : GivenOption)
    (options : List GivenOption)
    (texts rest : List String)
    (hWritten : option.IsWritten texts)
    (hRest : Spells options rest) :
    Spells (option :: options) (texts ++ rest)

/- Only two dashes are a separator. -/
theorem Argument.ofText_eq_separator_iff
    {text : String} :
    ofText text = .separator ↔ text = "--" := by
  constructor
  · intro hText
    unfold ofText at hText
    split at hText
    · cases hText
    · rename_i hList
      exact String.toList_injective hList
    · dsimp only at hText
      split at hText <;> cases hText
    · split at hText <;> cases hText
    · cases hText
  · rintro rfl
    decide +kernel

section Reading

variable {given result : Given}
variable {options : List GivenOption}
variable {arguments : List String}

theorem Reads.exists_spells
    (hReads : Reads given arguments result) :
    ∃ options,
      Spells options arguments ∧
        given.takeAll options = .ok result := by
  induction hReads with
  | done given => exact ⟨[], .done, rfl⟩
  | separated given text hText =>
      rw [Argument.ofText_eq_separator_iff] at hText
      rw [hText]
      exact ⟨[], .separated, rfl⟩
  | dryRun given result text rest hText hFirst _ ih =>
      rcases ih with ⟨options, hSpells, hTake⟩
      rw [Argument.option?_eq_dryRun_iff] at hText
      rw [hText]
      refine
        ⟨.dryRun :: options, .next _ _ _ _ .dryRun hSpells,
          Given.takeAll_cons_eq_ok_iff.mpr ⟨_, ?_, hTake⟩⟩
      rw [Given.take, hFirst]
      rfl
  | attached given next result text value option rest hText
      hPut _ ih =>
      rcases ih with ⟨options, hSpells, hTake⟩
      have hWritten := Argument.option?_eq_attached_iff.mp hText
      exact
        ⟨.value option value :: options,
          .next _ _ _ _ hWritten hSpells,
          Given.takeAll_cons_eq_ok_iff.mpr
            ⟨next, hPut, hTake⟩⟩
  | following given next result text value option rest hText
      hValue hPut _ ih =>
      rcases ih with ⟨options, hSpells, hTake⟩
      have hWritten :=
        Argument.option?_eq_following_iff.mp ⟨hText, hValue⟩
      exact
        ⟨.value option value :: options,
          .next _ _ _ _ hWritten hSpells,
          Given.takeAll_cons_eq_ok_iff.mpr
            ⟨next, hPut, hTake⟩⟩

theorem Spells.reads
    (hSpells : Spells options arguments)
    (hTake : given.takeAll options = .ok result) :
    Reads given arguments result := by
  induction hSpells generalizing given with
  | done =>
      cases hTake
      exact .done _
  | separated =>
      cases hTake
      exact
        .separated _ _
          (Argument.ofText_eq_separator_iff.mpr rfl)
  | next option options texts rest hWritten _ ih =>
      rcases Given.takeAll_cons_eq_ok_iff.mp hTake with
        ⟨next, hNext, hLater⟩
      rcases hWritten.reading with
        ⟨text, rfl, rfl, hText⟩ |
        ⟨kind, text, value, rfl, rfl, hText⟩ |
        ⟨kind, text, value, rfl, rfl, hText, hValue⟩
      · rw [Given.take] at hNext
        split at hNext
        · cases hNext
        · rename_i hFirst
          cases hNext
          exact
            .dryRun _ _ _ _ hText (Bool.eq_false_iff.mpr hFirst)
              (ih hLater)
      · exact .attached _ _ _ _ _ _ _ hText hNext (ih hLater)
      · exact
          .following _ _ _ _ _ _ _ hText hValue hNext
            (ih hLater)

/- Arguments are read as the options they are written from. -/
theorem reads_iff_spells :
    Reads given arguments result ↔
      ∃ options,
        Spells options arguments ∧
          given.takeAll options = .ok result :=
  ⟨Reads.exists_spells,
    fun ⟨_, hSpells, hTake⟩ => hSpells.reads hTake⟩

end Reading

end KsqlBatch

------------------------------------------------------------
-- One Way to Read
------------------------------------------------------------

namespace KsqlBatch

/- The option that stands first, and what is behind it. -/
def GivenOption.first? :
    List String → Option (GivenOption × List String)
| [] => none
| text :: rest =>
    match (Argument.ofText text).option?, rest with
    | some (.dryRun, none), rest => some (.dryRun, rest)
    | some (.value kind, some found), rest =>
        some (.value kind found, rest)
    | some (.value kind, none), found :: rest =>
        some (.value kind found, rest)
    | _, _ => none

theorem GivenOption.IsWritten.first?_append
    {option : GivenOption}
    {texts : List String}
    (hWritten : option.IsWritten texts)
    (rest : List String) :
    first? (texts ++ rest) = some (option, rest) := by
  rcases hWritten.reading with
    ⟨text, rfl, rfl, hText⟩ |
    ⟨kind, text, value, rfl, rfl, hText⟩ |
    ⟨kind, text, value, rfl, rfl, hText, _⟩ <;>
  simp [first?, hText]

namespace Spells

variable {option : GivenOption}
variable {options others : List GivenOption}
variable {arguments before rest : List String}
variable {texts otherTexts : List String}
variable {text : String}

theorem first?_of_nil
    (hSpells : Spells [] arguments) :
    GivenOption.first? arguments = none := by
  cases hSpells with
  | done => rfl
  | separated =>
      have hNone :
          (Argument.ofText "--").option? = none := by
        decide +kernel
      simp [GivenOption.first?, hNone]

theorem first?_of_cons
    (hSpells : Spells (option :: options) arguments) :
    ∃ rest,
      GivenOption.first? arguments = some (option, rest) ∧
        Spells options rest := by
  cases hSpells with
  | next _ _ texts rest hWritten hRest =>
      exact ⟨rest, hWritten.first?_append rest, hRest⟩

/- Arguments are written from one list of options only. -/
theorem unique
    (hSpells : Spells options arguments)
    (hOther : Spells others arguments) :
    options = others := by
  induction options generalizing others arguments with
  | nil =>
      cases others with
      | nil => rfl
      | cons other others =>
          rcases hOther.first?_of_cons with ⟨rest, hFirst, _⟩
          rw [hSpells.first?_of_nil] at hFirst
          cases hFirst
  | cons option options ih =>
      rcases hSpells.first?_of_cons with ⟨rest, hFirst, hRest⟩
      cases others with
      | nil =>
          rw [hOther.first?_of_nil] at hFirst
          cases hFirst
      | cons other others =>
          rcases hOther.first?_of_cons with
            ⟨rest', hSame, hOthers⟩
          rw [hFirst] at hSame
          cases hSame
          rw [ih hRest hOthers]

/-
  Arguments fall apart in front of one that is no value, and
  others may stand there.
-/
theorem exists_split
    (hSpells : Spells options (before ++ text :: rest))
    (hText : ¬ Argument.IsValue text) :
    ∃ first later,
      options = first ++ later ∧
        Spells later (text :: rest) ∧
        ∀ {others arguments},
          Spells others arguments →
            Spells (first ++ others) (before ++ arguments) := by
  generalize hWhole : before ++ text :: rest = whole at hSpells
  induction hSpells generalizing before with
  | done => simp at hWhole
  | separated =>
      rcases List.append_eq_singleton_iff.mp hWhole with
        ⟨rfl, hRest⟩ | ⟨_, hRest⟩
      · rw [hRest]
        exact ⟨[], [], rfl, .separated, id⟩
      · cases hRest
  | next option options texts behind hWritten hBehind ih =>
      rcases List.append_eq_append_iff.mp hWhole with
        ⟨between, hTexts, hRest⟩ | ⟨between, hBefore, hSame⟩
      · cases between with
        | nil =>
            rw [List.append_nil] at hTexts
            refine ⟨[option], options, rfl, ?_, ?_⟩
            · rw [hRest, List.nil_append]
              exact hBehind
            · intro others arguments hOthers
              rw [← hTexts]
              exact .next _ _ _ _ hWritten hOthers
        | cons head between =>
            -- The first option ends behind `text`, so it
            -- begins with it.
            cases (List.cons_eq_cons.mp hRest).left
            have hStart : before = [] := by
              rw [hTexts] at hWritten
              exact
                hWritten.eq_nil_or_isValue.resolve_right hText
            rw [hStart, List.nil_append] at hTexts
            refine
              ⟨[], option :: options, rfl, ?_, ?_⟩
            · rw [hRest, ← hTexts]
              exact .next _ _ _ _ hWritten hBehind
            · intro others arguments hOthers
              rw [hStart]
              exact hOthers
      · rcases ih hSame.symm with
          ⟨first, later, hOptions, hLater, hJoin⟩
        refine
          ⟨option :: first, later, ?_, hLater, ?_⟩
        · rw [hOptions, List.cons_append]
        · intro others arguments hOthers
          rw [hBefore, List.append_assoc]
          exact .next _ _ _ _ hWritten (hJoin hOthers)

/- An option may be written in another way in its place. -/
theorem respell
    (hSpells : Spells options (before ++ texts ++ rest))
    (hWritten : option.IsWritten texts)
    (hOther : option.IsWritten otherTexts) :
    Spells options (before ++ otherTexts ++ rest) := by
  rcases hWritten.exists_first with
    ⟨text, behind, hTexts, hText⟩
  rw [hTexts, List.append_assoc, List.cons_append] at hSpells
  rcases hSpells.exists_split hText with
    ⟨first, later, hOptions, hLater, hJoin⟩
  have hFirst := hWritten.first?_append rest
  rw [hTexts, List.cons_append] at hFirst
  cases later with
  | nil =>
      rw [hLater.first?_of_nil] at hFirst
      cases hFirst
  | cons other later =>
      rcases hLater.first?_of_cons with ⟨_, hSame, hRest⟩
      rw [hFirst] at hSame
      cases hSame
      rw [hOptions, List.append_assoc]
      exact hJoin (.next _ _ _ _ hOther hRest)

end Spells

end KsqlBatch
