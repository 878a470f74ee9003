import Mathlib.Tactic.SplitIfs
import KsqlBatch.Proofs.CommandLine.Arguments

/-
  This file says how one option is written as arguments. An
  option with a value is written with its long name or its
  letter, and the value in the same argument or in the next
  one.

  Key definitions include:
    * `GivenOption`
    * `GivenOption.IsWritten`

  Key theorems include:
    * `Argument.option?_eq_dryRun_iff`
    * `Argument.option?_eq_attached_iff`
    * `Argument.option?_eq_following_iff`
    * `GivenOption.IsWritten.reading`
-/

------------------------------------------------------------
-- Texts of Arguments
------------------------------------------------------------

namespace KsqlBatch

namespace Argument

/- The text of a long option. -/
def longText
    (name : String) : Option String → String
| none => "--" ++ name
| some value => "--" ++ name ++ "=" ++ value

/- A long option is its name and what stands behind it. -/
theorem takeWhile_append_drop
    (rest : List Char) :
    rest.takeWhile (· != '=') ++
        rest.drop (rest.takeWhile (· != '=')).length =
      rest :=
  List.prefix_iff_eq_append.mp (List.takeWhile_prefix _)

theorem drop_takeWhile
    (rest : List Char) :
    rest.drop (rest.takeWhile (· != '=')).length =
      rest.dropWhile (· != '=') :=
  List.append_cancel_left
    ((takeWhile_append_drop rest).trans
      List.takeWhile_append_dropWhile.symm)

/- A value stands behind an equals sign. -/
theorem eq_append_of_drop_takeWhile
    {rest value : List Char}
    {sign : Char}
    (hDrop :
      rest.drop (rest.takeWhile (· != '=')).length =
        sign :: value) :
    rest = rest.takeWhile (· != '=') ++ '=' :: value := by
  have hParts := takeWhile_append_drop rest
  have hSign : sign = '=' := by
    have hNot := List.head?_dropWhile_not (· != '=') rest
    rw [← drop_takeWhile, hDrop] at hNot
    simpa using hNot
  rw [hDrop, hSign] at hParts
  exact hParts.symm

/- A long option is written with its name and its value. -/
theorem eq_longText_of_ofText
    {text name : String}
    {value : Option String}
    (hText : ofText text = .long name value) :
    text = longText name value := by
  unfold ofText at hText
  split at hText
  · cases hText
  · cases hText
  · rename_i rest _ hList
    dsimp only at hText
    split at hText
    · rename_i hDrop
      cases hText
      have hParts := takeWhile_append_drop rest
      rw [hDrop, List.append_nil] at hParts
      apply String.toList_injective
      simp [hList, hParts, longText]
    · rename_i sign value hDrop
      cases hText
      have hParts := eq_append_of_drop_takeWhile hDrop
      generalize rest.takeWhile (· != '=') = name at hParts ⊢
      apply String.toList_injective
      simp [hList, hParts, longText]
  · split at hText <;> cases hText
  · cases hText

/- The text of an option of one letter. -/
def shortText
    (letter : Char) : String :=
  String.ofList ['-', letter]

theorem eq_shortText_of_ofText
    {text : String}
    {letter : Char}
    (hText : ofText text = .short letter none) :
    text = shortText letter := by
  unfold ofText at hText
  split at hText
  · cases hText
  · cases hText
  · dsimp only at hText
    split at hText <;> cases hText
  · split at hText
    · rename_i hList
      cases hText
      apply String.toList_injective
      rw [hList, shortText, String.toList_ofList]
    · cases hText
    · cases hText
  · cases hText

/-
  The value of an option of one letter follows it at once, or
  behind an equals sign.
-/
theorem eq_shortText_append_of_ofText
    {text value : String}
    {letter : Char}
    (hText : ofText text = .short letter (some value)) :
    text = shortText letter ++ "=" ++ value ∨
      text = shortText letter ++ value ∧
        value ≠ "" ∧
        value.toList.head? ≠ some '=' := by
  unfold ofText at hText
  split at hText
  · cases hText
  · cases hText
  · dsimp only at hText
    split at hText <;> cases hText
  · split at hText
    · cases hText
    · rename_i hList
      cases hText
      refine Or.inl (String.toList_injective ?_)
      simp [hList, shortText]
    · cases hText
      rename_i rest _ hSome hOther _ _ hList
      refine
        Or.inr ⟨String.toList_injective ?_, ?_, ?_⟩
      · simp [hList, shortText]
      · simpa using hSome
      · rw [String.toList_ofList]
        intro hFirst
        rcases List.head?_eq_some_iff.mp hFirst with
          ⟨value, hValue⟩
        exact hOther value hValue
  · cases hText

/- Behind two dashes stands a name. -/
theorem ofText_of_dashes
    {text : String}
    {rest : List Char}
    (hList : text.toList = '-' :: '-' :: rest)
    (hSome : rest ≠ []) :
    ofText text =
      (let name := rest.takeWhile (· != '=')
      match rest.drop name.length with
      | [] => .long (String.ofList name) none
      | _ :: value =>
          .long (String.ofList name)
            (some (String.ofList value))) := by
  unfold ofText
  rw [hList]
  cases rest with
  | nil => exact absurd rfl hSome
  | cons first rest => rfl

/- A name ends in front of the first equals sign. -/
theorem takeWhile_append_of_not_mem
    {name later : List Char}
    (hSign : '=' ∉ name) :
    (name ++ later).takeWhile (· != '=') =
      name ++ later.takeWhile (· != '=') := by
  apply List.takeWhile_append_of_pos
  intro c hMember
  rw [bne_iff_ne]
  intro hSame
  rw [hSame] at hMember
  exact hSign hMember

theorem ofText_longText
    {name : String}
    (hSome : name ≠ "")
    (hSign : '=' ∉ name.toList)
    (value : Option String) :
    ofText (longText name value) = .long name value := by
  have hChars : name.toList ≠ [] := by
    simpa using hSome
  cases value with
  | none =>
      have hList :
          (longText name none).toList =
            '-' :: '-' :: (name.toList ++ []) := by
        simp [longText]
      rw [ofText_of_dashes hList (by simpa using hChars),
        takeWhile_append_of_not_mem hSign]
      simp
  | some value =>
      have hList :
          (longText name (some value)).toList =
            '-' :: '-' ::
              (name.toList ++ '=' :: value.toList) := by
        simp [longText]
      rw [ofText_of_dashes hList (by simp),
        takeWhile_append_of_not_mem hSign]
      simp

theorem ofText_shortText
    {letter : Char}
    (hLetter : letter ≠ '-') :
    ofText (shortText letter) = .short letter none := by
  unfold ofText shortText
  rw [String.toList_ofList]
  simp [hLetter]

theorem ofText_shortText_equals
    {letter : Char}
    (hLetter : letter ≠ '-')
    (value : String) :
    ofText (shortText letter ++ "=" ++ value) =
      .short letter (some value) := by
  have hList :
      (shortText letter ++ "=" ++ value).toList =
        '-' :: letter :: '=' :: value.toList := by
    simp [shortText]
  unfold ofText
  rw [hList]
  simp

/- A value that follows at once must not begin like a sign. -/
theorem ofText_shortText_append
    {letter : Char}
    (hLetter : letter ≠ '-')
    {value : String}
    (hSome : value ≠ "")
    (hFirst : value.toList.head? ≠ some '=') :
    ofText (shortText letter ++ value) =
      .short letter (some value) := by
  have hList :
      (shortText letter ++ value).toList =
        '-' :: letter :: value.toList := by
    simp [shortText]
  unfold ofText
  rw [hList]
  cases hValue : value.toList with
  | nil =>
      exact absurd (by simpa using hValue) hSome
  | cons first rest =>
      rw [hValue, List.head?_cons] at hFirst
      have hOther : first ≠ '=' :=
        fun hSame => hFirst (congrArg some hSame)
      have hSame : String.ofList (first :: rest) = value := by
        rw [← hValue, String.ofList_toList]
      simp [hOther, hSame]

end Argument

end KsqlBatch

------------------------------------------------------------
-- Names of Options
------------------------------------------------------------

namespace KsqlBatch

namespace ValueOption

/- The long name of an option, without the dashes. -/
def word : ValueOption → String
| .config => "config"
| .endpoint => "endpoint"
| .directory => "directory"
| .filename => "filename"
| .listStreams => "list-streams"

/- The letter of an option that has one. -/
def letter? : ValueOption → Option Char
| .config => some 'c'
| .endpoint => none
| .directory => some 'd'
| .filename => some 'f'
| .listStreams => none

variable {option : ValueOption}

theorem name_eq
    (option : ValueOption) :
    option.name = "--" ++ option.word := by
  cases option <;> decide +kernel

theorem word_ne_empty
    (option : ValueOption) :
    option.word ≠ "" := by
  cases option <;> decide +kernel

theorem equals_not_mem_word
    (option : ValueOption) :
    '=' ∉ option.word.toList := by
  cases option <;> decide +kernel

theorem letter_ne_dash
    {letter : Char}
    (hLetter : option.letter? = some letter) :
    letter ≠ '-' := by
  cases option <;> cases hLetter <;> decide

theorem ofLong?_eq_value_iff
    {word : String} :
    OptionKind.ofLong? word = some (.value option) ↔
      word = option.word := by
  constructor
  · intro hKind
    unfold OptionKind.ofLong? at hKind
    split_ifs at hKind <;> cases hKind <;> assumption
  · rintro rfl
    cases option <;> decide +kernel

theorem ofLong?_eq_dryRun_iff
    {word : String} :
    OptionKind.ofLong? word = some .dryRun ↔
      word = "dry-run" := by
  constructor
  · intro hKind
    unfold OptionKind.ofLong? at hKind
    split_ifs at hKind <;> cases hKind
    assumption
  · rintro rfl
    decide +kernel

theorem ofShort?_eq_value_iff
    {letter : Char} :
    OptionKind.ofShort? letter = some (.value option) ↔
      option.letter? = some letter := by
  constructor
  · intro hKind
    unfold OptionKind.ofShort? at hKind
    split_ifs at hKind <;> cases hKind <;>
      · subst_vars
        rfl
  · intro hLetter
    cases option <;> cases hLetter <;> decide

end ValueOption

end KsqlBatch

------------------------------------------------------------
-- Spellings of One Option
------------------------------------------------------------

namespace KsqlBatch

/- One option, with its value if it takes one. -/
inductive GivenOption where
| dryRun
| value (option : ValueOption) (text : String)
deriving DecidableEq, Repr, Inhabited

open Argument

/- The arguments that an option can be written as. -/
inductive GivenOption.IsWritten :
    GivenOption → List String → Prop
| dryRun :
    IsWritten .dryRun ["--dry-run"]
| long
    (option : ValueOption)
    (text : String)
    (hValue : IsValue text) :
    IsWritten (.value option text) [option.name, text]
| longEquals
    (option : ValueOption)
    (text : String) :
    IsWritten (.value option text)
      [option.name ++ "=" ++ text]
| short
    (option : ValueOption)
    (letter : Char)
    (text : String)
    (hLetter : option.letter? = some letter)
    (hValue : IsValue text) :
    IsWritten (.value option text) [shortText letter, text]
| shortEquals
    (option : ValueOption)
    (letter : Char)
    (text : String)
    (hLetter : option.letter? = some letter) :
    IsWritten (.value option text)
      [shortText letter ++ "=" ++ text]
| shortAttached
    (option : ValueOption)
    (letter : Char)
    (text : String)
    (hLetter : option.letter? = some letter)
    (hSome : text ≠ "")
    (hFirst : text.toList.head? ≠ some '=') :
    IsWritten (.value option text) [shortText letter ++ text]

namespace Argument

variable {option : ValueOption}
variable {text value : String}

/- An argument names an option by its name or its letter. -/
theorem option?_eq_some_iff
    {argument : Argument}
    {kind : OptionKind}
    {found : Option String} :
    argument.option? = some (kind, found) ↔
      (∃ name,
        argument = .long name found ∧
          OptionKind.ofLong? name = some kind) ∨
      ∃ letter,
        argument = .short letter found ∧
          OptionKind.ofShort? letter = some kind := by
  constructor
  · intro hOption
    cases argument with
    | long name value =>
        rcases Option.map_eq_some_iff.mp hOption with
          ⟨_, hKind, hSame⟩
        cases hSame
        exact Or.inl ⟨name, rfl, hKind⟩
    | short letter value =>
        rcases Option.map_eq_some_iff.mp hOption with
          ⟨_, hKind, hSame⟩
        cases hSame
        exact Or.inr ⟨letter, rfl, hKind⟩
    | separator => cases hOption
    | plain => cases hOption
  · rintro (⟨name, rfl, hKind⟩ | ⟨letter, rfl, hKind⟩)
    · exact Option.map_eq_some_iff.mpr ⟨kind, hKind, rfl⟩
    · exact Option.map_eq_some_iff.mpr ⟨kind, hKind, rfl⟩

/- The dry run is asked for in one way. -/
theorem option?_eq_dryRun_iff :
    (ofText text).option? = some (.dryRun, none) ↔
      text = "--dry-run" := by
  constructor
  · intro hOption
    rcases option?_eq_some_iff.mp hOption with
      ⟨name, hText, hKind⟩ | ⟨letter, _, hKind⟩
    · rw [eq_longText_of_ofText hText,
        ValueOption.ofLong?_eq_dryRun_iff.mp hKind]
      decide +kernel
    · unfold OptionKind.ofShort? at hKind
      split_ifs at hKind <;> cases hKind
  · rintro rfl
    decide +kernel

/- An option with its value in the same argument. -/
theorem option?_eq_attached_iff :
    (ofText text).option? =
        some (.value option, some value) ↔
      (GivenOption.value option value).IsWritten [text] := by
  constructor
  · intro hOption
    rcases option?_eq_some_iff.mp hOption with
      ⟨name, hText, hKind⟩ | ⟨letter, hText, hKind⟩
    · rw [eq_longText_of_ofText hText,
        ValueOption.ofLong?_eq_value_iff.mp hKind, longText,
        ← ValueOption.name_eq]
      exact .longEquals option value
    · have hLetter :=
        ValueOption.ofShort?_eq_value_iff.mp hKind
      rcases eq_shortText_append_of_ofText hText with
        rfl | ⟨rfl, hSome, hFirst⟩
      · exact .shortEquals option letter value hLetter
      · exact
          .shortAttached option letter value hLetter hSome
            hFirst
  · intro hWritten
    apply option?_eq_some_iff.mpr
    cases hWritten with
    | longEquals =>
        refine
          Or.inl
            ⟨option.word, ?_,
              ValueOption.ofLong?_eq_value_iff.mpr rfl⟩
        rw [ValueOption.name_eq]
        exact
          ofText_longText option.word_ne_empty
            option.equals_not_mem_word (some value)
    | shortEquals _ letter _ hLetter =>
        exact
          Or.inr
            ⟨letter,
              ofText_shortText_equals
                (ValueOption.letter_ne_dash hLetter) value,
              ValueOption.ofShort?_eq_value_iff.mpr hLetter⟩
    | shortAttached _ letter _ hLetter hSome hFirst =>
        exact
          Or.inr
            ⟨letter,
              ofText_shortText_append
                (ValueOption.letter_ne_dash hLetter) hSome
                hFirst,
              ValueOption.ofShort?_eq_value_iff.mpr hLetter⟩

/- An option with its value in the next argument. -/
theorem option?_eq_following_iff :
    (ofText text).option? = some (.value option, none) ∧
        IsValue value ↔
      (GivenOption.value option value).IsWritten
        [text, value] := by
  constructor
  · rintro ⟨hOption, hValue⟩
    rcases option?_eq_some_iff.mp hOption with
      ⟨name, hText, hKind⟩ | ⟨letter, hText, hKind⟩
    · rw [eq_longText_of_ofText hText,
        ValueOption.ofLong?_eq_value_iff.mp hKind, longText,
        ← ValueOption.name_eq]
      exact .long option value hValue
    · rw [eq_shortText_of_ofText hText]
      exact
        .short option letter value
          (ValueOption.ofShort?_eq_value_iff.mp hKind) hValue
  · intro hWritten
    rw [option?_eq_some_iff]
    cases hWritten with
    | long _ _ hValue =>
        refine
          ⟨Or.inl
            ⟨option.word, ?_,
              ValueOption.ofLong?_eq_value_iff.mpr rfl⟩,
            hValue⟩
        rw [ValueOption.name_eq]
        exact
          ofText_longText option.word_ne_empty
            option.equals_not_mem_word none
    | short _ letter _ hLetter hValue =>
        exact
          ⟨Or.inr
            ⟨letter,
              ofText_shortText
                (ValueOption.letter_ne_dash hLetter),
              ValueOption.ofShort?_eq_value_iff.mpr hLetter⟩,
            hValue⟩

end Argument

/- An option is written as one argument or as two. -/
theorem GivenOption.IsWritten.reading
    {option : GivenOption}
    {texts : List String}
    (hWritten : option.IsWritten texts) :
    (∃ text,
      option = .dryRun ∧
        texts = [text] ∧
        (Argument.ofText text).option? =
          some (.dryRun, none)) ∨
    (∃ kind text value,
      option = .value kind value ∧
        texts = [text] ∧
        (Argument.ofText text).option? =
          some (.value kind, some value)) ∨
    ∃ kind text value,
      option = .value kind value ∧
        texts = [text, value] ∧
        (Argument.ofText text).option? =
          some (.value kind, none) ∧
        Argument.IsValue value := by
  have hSame := hWritten
  cases hWritten with
  | dryRun =>
      exact
        Or.inl
          ⟨_, rfl, rfl, Argument.option?_eq_dryRun_iff.mpr rfl⟩
  | long kind value =>
      exact
        Or.inr
          (Or.inr
            ⟨kind, _, value, rfl, rfl,
              Argument.option?_eq_following_iff.mpr hSame⟩)
  | short kind _ value =>
      exact
        Or.inr
          (Or.inr
            ⟨kind, _, value, rfl, rfl,
              Argument.option?_eq_following_iff.mpr hSame⟩)
  | longEquals kind value =>
      exact
        Or.inr
          (Or.inl
            ⟨kind, _, value, rfl, rfl,
              Argument.option?_eq_attached_iff.mpr hSame⟩)
  | shortEquals kind _ value =>
      exact
        Or.inr
          (Or.inl
            ⟨kind, _, value, rfl, rfl,
              Argument.option?_eq_attached_iff.mpr hSame⟩)
  | shortAttached kind _ value =>
      exact
        Or.inr
          (Or.inl
            ⟨kind, _, value, rfl, rfl,
              Argument.option?_eq_attached_iff.mpr hSame⟩)

/- An option is not taken for a value. -/
theorem Argument.not_isValue_of_option?
    {text : String}
    {found : OptionKind × Option String}
    (hOption : (ofText text).option? = some found) :
    ¬ IsValue text := by
  intro hValue
  apply hValue
  unfold ofText at hOption
  split at hOption
  · cases hOption
  · cases hOption
  · rename_i hList
    refine ⟨by rw [hList, List.head?_cons], ?_⟩
    rintro rfl
    simp at hList
  · rename_i hList
    refine ⟨by rw [hList, List.head?_cons], ?_⟩
    rintro rfl
    simp at hList
  · cases hOption

theorem GivenOption.IsWritten.exists_first
    {option : GivenOption}
    {texts : List String}
    (hWritten : option.IsWritten texts) :
    ∃ text rest,
      texts = text :: rest ∧ ¬ Argument.IsValue text := by
  rcases hWritten.reading with
    ⟨text, _, rfl, hText⟩ |
    ⟨_, text, _, _, rfl, hText⟩ |
    ⟨_, text, _, _, rfl, hText, _⟩ <;>
  exact ⟨text, _, rfl, Argument.not_isValue_of_option? hText⟩

/- Only a value can stand behind the first argument. -/
theorem GivenOption.IsWritten.eq_nil_or_isValue
    {option : GivenOption}
    {before rest : List String}
    {text : String}
    (hWritten : option.IsWritten (before ++ text :: rest)) :
    before = [] ∨ Argument.IsValue text := by
  cases before with
  | nil => exact Or.inl rfl
  | cons head before =>
      apply Or.inr
      rcases hWritten.reading with
        ⟨_, _, hTexts, _⟩ |
        ⟨_, _, _, _, hTexts, _⟩ |
        ⟨_, _, value, _, hTexts, _, hValue⟩
      · simp at hTexts
      · simp at hTexts
      · have hTail : before ++ text :: rest = [value] :=
          (List.cons_eq_cons.mp hTexts).right
        rcases List.append_eq_singleton_iff.mp hTail with
          ⟨_, hLast⟩ | ⟨_, hLast⟩
        · rw [(List.cons_eq_cons.mp hLast).left]
          exact hValue
        · cases hLast

end KsqlBatch
