import Mathlib.Data.List.Pairwise
import Mathlib.Data.List.Perm.Basic
import KsqlBatch.Proofs.Settings.Keys
import KsqlBatch.Settings.Loader

/-
  This file says what pairs of texts give to the settings of
  a connection, in a properties text or in the environment.
  No setting is named twice, so the order of the pairs does
  not matter.

  Key definitions include:
    * `Key.IsNamedBy`
    * `Key.inPairs?`
    * `Key.variableName`
    * `Key.inEnvironment?`
    * `Loader.Assigns`

  Key theorems include:
    * `Loader.exists_given_ofPairs`
    * `Loader.exists_given_ofEnvironment`
-/

------------------------------------------------------------
-- Names of Settings
------------------------------------------------------------

namespace KsqlBatch

namespace Key

/- A text names the setting. -/
def IsNamedBy
    (key : Key)
    (text : String) : Prop :=
  (KeyPath.ofText text).allSteps = key.steps

instance
    (key : Key)
    (text : String) :
    Decidable (key.IsNamedBy text) := by
  unfold IsNamedBy
  infer_instance

/- What pairs of texts give to the setting. -/
def inPairs?
    (key : Key)
    (origin : Option String)
    (pairs : List (String × String)) : Option Setting :=
  (pairs.find? fun pair => key.IsNamedBy pair.1).map
    fun pair => .scalar origin (.text pair.2)

/- The name of the variable of the setting, in lower case. -/
def variableName
    (key : Key) : String :=
  "ksql_runner__" ++
    "__".intercalate (key.group.names ++ [key.name])

/- What the environment gives to the setting. -/
def inEnvironment?
    (key : Key)
    (environment : List (String × String)) :
    Option Setting :=
  (environment.find? fun pair =>
      Text.lowercase pair.1 = key.variableName).map
    fun pair =>
      .scalar (some "the environment") (.text pair.2)

theorem steps_injective : Function.Injective steps := by
  intro key other
  cases key <;> cases other <;> decide

/- A variable sets the setting that it belongs to. -/
theorem variableKey?_of_lowercase
    {key : Key}
    {name : String}
    (hName : Text.lowercase name = key.variableName) :
    Loader.variableKey? name = some key.text := by
  unfold Loader.variableKey?
  rw [hName]
  cases key <;> decide +kernel

theorem isNamedBy_text_iff
    (key other : Key) :
    key.IsNamedBy other.text ↔ other = key := by
  unfold IsNamedBy
  rw [allSteps_ofText_text]
  exact steps_injective.eq_iff

end Key

end KsqlBatch

------------------------------------------------------------
-- Pairs
------------------------------------------------------------

namespace KsqlBatch

/- It does not matter where the only match stands. -/
theorem find?_eq_of_perm
    {α : Type}
    {items others : List α}
    {p : α → Bool}
    (hPerm : items.Perm others)
    (hOnce :
      others.Pairwise fun a b => p a = true → ¬ p b = true) :
    items.find? p = others.find? p := by
  have hMatches := hPerm.filter p
  rw [← List.head?_filter, ← List.head?_filter]
  cases hFilter : others.filter p with
  | nil =>
      rw [hFilter] at hMatches
      rw [hMatches.eq_nil]
  | cons a rest =>
      cases rest with
      | nil =>
          rw [hFilter] at hMatches
          rw [List.perm_singleton.mp hMatches]
      | cons b rest =>
          have hTwice := hOnce.filter p
          rw [hFilter] at hTwice
          have ha : a ∈ others.filter p := by simp [hFilter]
          have hb : b ∈ others.filter p := by simp [hFilter]
          exact
            absurd (List.of_mem_filter hb)
              ((List.pairwise_cons.mp hTwice).1 b
                List.mem_cons_self (List.of_mem_filter ha))

/- The only match is found. -/
theorem find?_of_mem
    {α : Type}
    {items : List α}
    {p : α → Bool}
    {a : α}
    (hMember : a ∈ items)
    (hMatch : p a = true)
    (hOnce :
      items.Pairwise fun a b => p a = true → ¬ p b = true) :
    items.find? p = some a := by
  induction items with
  | nil => cases hMember
  | cons b items ih =>
      rcases List.pairwise_cons.mp hOnce with
        ⟨hFirst, hOnce⟩
      rcases List.mem_cons.mp hMember with rfl | hMember
      · exact List.find?_cons_of_pos hMatch
      · have hOther : ¬ p b = true := by
          intro hFound
          exact hFirst a hMember hFound hMatch
        rw [List.find?_cons_of_neg hOther]
        exact ih hMember hOnce

/- It does not matter where a setting is named. -/
theorem Key.find?_named_of_perm
    {α : Type}
    {pairs others : List (String × α)}
    (hPerm : pairs.Perm others)
    (hOnce :
      others.Pairwise fun pair other =>
        ∀ key : Key,
          key.IsNamedBy pair.1 → ¬ key.IsNamedBy other.1)
    (key : Key) :
    pairs.find? (fun pair => key.IsNamedBy pair.1) =
      others.find? (fun pair => key.IsNamedBy pair.1) := by
  refine find?_eq_of_perm hPerm (hOnce.imp ?_)
  intro pair other hNotTwice hPair hOther
  exact
    hNotTwice key (of_decide_eq_true hPair)
      (of_decide_eq_true hOther)

namespace Loader

variable {values : Values}

/- A pair of texts as an entry of a source. -/
def entryOf
    (origin : Option String)
    (pair : String × String) : String × Setting :=
  (pair.1, .scalar origin (.text pair.2))

/- Single values under names of settings are given to them. -/
theorem exists_given
    (hNamed :
      ∀ entry ∈ values,
        entry.2.IsScalar ∧
          ∃ key : Key, key.IsNamedBy entry.1) :
    ∃ parts,
      List.Forall₂ Key.Given values parts ∧
        ∀ key : Key,
          key.lastIn? parts.flatten =
            (values.reverse.find? fun entry =>
              key.IsNamedBy entry.1).map Prod.snd := by
  induction values with
  | nil => exact ⟨[], .nil, fun key => rfl⟩
  | cons entry values ih =>
      rw [List.forall_mem_cons] at hNamed
      rcases hNamed with
        ⟨⟨⟨origin, value, hValue⟩, key, hKey⟩, hNamed⟩
      rcases ih hNamed with ⟨parts, hGiven, hLast⟩
      rcases entry with ⟨text, setting⟩
      dsimp only at hValue hKey
      subst hValue
      refine
        ⟨[(key, .scalar origin value)] :: parts,
          .cons (.value key text origin value hKey) hGiven, ?_⟩
      intro other
      -- The last value is the first one from the end.
      rw [List.flatten_cons, List.singleton_append,
        Key.lastIn?, hLast, List.reverse_cons,
        List.find?_append]
      have hSame : other.IsNamedBy text ↔ key = other := by
        unfold Key.IsNamedBy at hKey ⊢
        rw [hKey]
        exact Key.steps_injective.eq_iff
      rw [Option.map_or, List.find?_singleton]
      congr 1
      by_cases hOther : key = other
      · rw [if_pos hOther, if_pos]
        · rfl
        · exact decide_eq_true (hSame.mpr hOther)
      · rw [if_neg hOther, if_neg]
        · rfl
        · exact mt of_decide_eq_true (mt hSame.mp hOther)

/-
  Pairs that name every setting at most once give it the
  value of the pair that names it.
-/
theorem exists_given_ofPairs
    {pairs : List (String × String)}
    (hNamed :
      ∀ pair ∈ pairs, ∃ key : Key, key.IsNamedBy pair.1)
    (hOnce :
      pairs.Pairwise fun pair other =>
        ∀ key : Key,
          key.IsNamedBy pair.1 → ¬ key.IsNamedBy other.1)
    (origin : Option String) :
    ∃ parts,
      List.Forall₂ Key.Given (ofPairs origin pairs) parts ∧
        ∀ key : Key,
          key.lastIn? parts.flatten =
            key.inPairs? origin pairs := by
  have hDistinct :
      ((pairs.map (entryOf origin)).map
        Prod.fst).Nodup := by
    rw [List.map_map]
    refine List.pairwise_map.mpr (hOnce.imp_of_mem ?_)
    intro pair other hPair _ hNotTwice hSame
    rcases hNamed pair hPair with ⟨key, hKey⟩
    refine hNotTwice key hKey ?_
    have hText : pair.1 = other.1 := hSame
    rw [← hText]
    exact hKey
  have hPerm :
      (ofPairs origin pairs).Perm
        (pairs.map (entryOf origin)) :=
    Keyed.perm_ofList hDistinct
  have hEntries :
      ∀ entry ∈ ofPairs origin pairs,
        entry.2.IsScalar ∧
          ∃ key : Key, key.IsNamedBy entry.1 := by
    intro entry hEntry
    rcases List.mem_map.mp (hPerm.mem_iff.mp hEntry) with
      ⟨pair, hPair, rfl⟩
    exact ⟨⟨_, _, rfl⟩, hNamed pair hPair⟩
  rcases exists_given hEntries with ⟨parts, hGiven, hLast⟩
  refine ⟨parts, hGiven, ?_⟩
  intro key
  have hFound :=
    key.find?_named_of_perm
      ((List.reverse_perm _).trans hPerm)
      (List.pairwise_map.mpr hOnce)
  rw [hLast, hFound, List.find?_map, Option.map_map]
  rfl

end Loader

end KsqlBatch

------------------------------------------------------------
-- Variables
------------------------------------------------------------

namespace KsqlBatch

namespace Loader

/- The pairs of keys and values in the environment. -/
def variablePairs
    (environment : List (String × String)) :
    List (String × String) :=
  environment.filterMap fun (name, value) =>
    (variableKey? name).map fun key => (key, value)

/-
  A variable that is not for the program, or that belongs to
  a setting.
-/
def IsKnown
    (name : String) : Prop :=
  variableKey? name = none ∨
    ∃ key : Key, Text.lowercase name = key.variableName

/-
  All variables are known, and no two of them belong to the
  same setting.
-/
structure Assigns
    (environment : List (String × String)) : Prop where
  known : ∀ entry ∈ environment, IsKnown entry.1
  once :
    environment.Pairwise fun entry other =>
      ∀ key : Key,
        Text.lowercase entry.1 = key.variableName →
          Text.lowercase other.1 ≠ key.variableName

/- A variable names the setting that it belongs to. -/
theorem IsKnown.isNamedBy_iff
    {name text : String}
    (hKnown : IsKnown name)
    (hText : variableKey? name = some text)
    (key : Key) :
    key.IsNamedBy text ↔
      Text.lowercase name = key.variableName := by
  rcases hKnown with hNone | ⟨found, hFound⟩
  · rw [hNone] at hText
    cases hText
  · rw [Key.variableKey?_of_lowercase hFound] at hText
    cases hText
    constructor
    · intro hKey
      rw [← (Key.isNamedBy_text_iff key found).mp hKey]
      exact hFound
    · intro hKey
      have hSame :
          some found.text = some key.text :=
        (Key.variableKey?_of_lowercase hFound).symm.trans
          (Key.variableKey?_of_lowercase hKey)
      rw [Option.some.inj hSame]
      exact (Key.isNamedBy_text_iff key key).mpr rfl

/- A setting has the value of the variable named like it. -/
theorem inPairs?_variablePairs
    {environment : List (String × String)}
    (hKnown : ∀ entry ∈ environment, IsKnown entry.1)
    (key : Key) :
    key.inPairs? (some "the environment")
        (variablePairs environment) =
      key.inEnvironment? environment := by
  induction environment with
  | nil => rfl
  | cons entry environment ih =>
      rw [List.forall_mem_cons] at hKnown
      have hRest := ih hKnown.2
      unfold Key.inPairs? Key.inEnvironment? at hRest ⊢
      cases hText : variableKey? entry.1 with
      | none =>
          have hOther :
              Text.lowercase entry.1 ≠ key.variableName := by
            intro hKey
            rw [Key.variableKey?_of_lowercase hKey] at hText
            cases hText
          have hPairs :
              variablePairs (entry :: environment) =
                variablePairs environment := by
            simp [variablePairs, hText]
          rw [hPairs, hRest, List.find?_cons_of_neg]
          exact mt of_decide_eq_true hOther
      | some text =>
          have hPairs :
              variablePairs (entry :: environment) =
                (text, entry.2) ::
                  variablePairs environment := by
            simp [variablePairs, hText]
          have hIff := hKnown.1.isNamedBy_iff hText key
          rw [hPairs]
          by_cases hKey :
            Text.lowercase entry.1 = key.variableName
          · rw [List.find?_cons_of_pos, List.find?_cons_of_pos]
            · rfl
            · exact decide_eq_true hKey
            · exact decide_eq_true (hIff.mpr hKey)
          · rw [List.find?_cons_of_neg,
              List.find?_cons_of_neg, hRest]
            · exact mt of_decide_eq_true hKey
            · exact mt of_decide_eq_true (mt hIff.mp hKey)

/- Every variable for the program names a setting. -/
theorem Assigns.exists_isNamedBy
    {environment : List (String × String)}
    (hAssigns : Assigns environment) :
    ∀ pair ∈ variablePairs environment,
      ∃ key : Key, key.IsNamedBy pair.1 := by
  intro pair hPair
  rcases List.mem_filterMap.mp hPair with
    ⟨entry, hEntry, hPair⟩
  rcases Option.map_eq_some_iff.mp hPair with
    ⟨text, hText, rfl⟩
  have hIff :=
    (hAssigns.known entry hEntry).isNamedBy_iff hText
  rcases hAssigns.known entry hEntry with
    hNone | ⟨key, hKey⟩
  · rw [hNone] at hText
    cases hText
  · exact ⟨key, (hIff key).mpr hKey⟩

/- No setting is named by two variables. -/
theorem Assigns.pairwise_variablePairs
    {environment : List (String × String)}
    (hAssigns : Assigns environment) :
    (variablePairs environment).Pairwise fun pair other =>
      ∀ key : Key,
        key.IsNamedBy pair.1 → ¬ key.IsNamedBy other.1 := by
  refine List.pairwise_filterMap.mpr ?_
  refine hAssigns.once.imp_of_mem ?_
  intro entry later hEntry hLater hOnce pair hPair other
    hOther key hKey hSame
  rcases Option.map_eq_some_iff.mp hPair with
    ⟨text, hText, rfl⟩
  rcases Option.map_eq_some_iff.mp hOther with
    ⟨laterText, hLaterText, rfl⟩
  have hKnown := hAssigns.known entry hEntry
  have hLaterKnown := hAssigns.known later hLater
  exact
    hOnce key
      ((hKnown.isNamedBy_iff hText key).mp hKey)
      ((hLaterKnown.isNamedBy_iff hLaterText key).mp hSame)

/-
  The environment gives each setting the value of its
  variable.
-/
theorem exists_given_ofEnvironment
    {environment : List (String × String)}
    (hAssigns : Assigns environment) :
    ∃ parts,
      List.Forall₂ Key.Given (ofEnvironment environment)
          parts ∧
        ∀ key : Key,
          key.lastIn? parts.flatten =
            key.inEnvironment? environment := by
  rcases
    exists_given_ofPairs hAssigns.exists_isNamedBy
      hAssigns.pairwise_variablePairs
      (some "the environment") with
    ⟨parts, hGiven, hLast⟩
  refine ⟨parts, hGiven, ?_⟩
  intro key
  rw [hLast, inPairs?_variablePairs hAssigns.known]

end Loader

end KsqlBatch
