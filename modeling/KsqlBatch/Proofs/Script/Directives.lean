import KsqlBatch.Proofs.Text.Lines
import KsqlBatch.Script.Directive
import Mathlib.Tactic.ByContra

/-
  This file says which directives are read back as they are
  written. The key of a directive reaches as far as possible,
  so nothing in the value may look like the end of a key.

  Key definitions include:
    * `Script.HasSign`
    * `Script.Directive.render`
    * `Script.Directive.IsSafe`

  Key theorems include:
    * `Script.longestQuoted?_eq_none_iff`
    * `Script.longestQuoted?_of_last`
    * `Script.Directive.parse?_render`
-/

------------------------------------------------------------
-- Blanks
------------------------------------------------------------

namespace KsqlBatch

namespace Script

variable {expected : Char}
variable {cs rest : List Char}

/- White space may precede an expected character. -/
theorem afterBlanks?_eq_some_iff
    (hExpected : Text.isWhiteSpace expected = false) :
    afterBlanks? expected cs = some rest ↔
      ∃ blanks,
        cs = blanks ++ expected :: rest ∧
        ∀ c ∈ blanks, Text.isWhiteSpace c = true := by
  induction cs with
  | nil => simp [afterBlanks?]
  | cons c cs ih =>
      by_cases hBlank : Text.isWhiteSpace c = true
      · have hSkip :
            afterBlanks? expected (c :: cs) =
              afterBlanks? expected cs := by
          simp [afterBlanks?, hBlank]
        rw [hSkip, ih]
        constructor
        · rintro ⟨blanks, rfl, hBlanks⟩
          refine ⟨c :: blanks, rfl, ?_⟩
          exact List.forall_mem_cons.mpr ⟨hBlank, hBlanks⟩
        · rintro ⟨blanks, hSplit, hBlanks⟩
          cases blanks with
          | nil =>
              have hFirst : c = expected :=
                List.head_eq_of_cons_eq hSplit
              simp [hFirst, hExpected] at hBlank
          | cons blank blanks =>
              exact
                ⟨blanks, List.tail_eq_of_cons_eq hSplit,
                  (List.forall_mem_cons.mp hBlanks).2⟩
      · have hStop :
            afterBlanks? expected (c :: cs) =
              if c = expected then some cs else none := by
          simp [afterBlanks?, hBlank]
        rw [hStop]
        constructor
        · intro hRest
          split at hRest
          · rename_i hFirst
            refine ⟨[], ?_, by simp⟩
            rw [hFirst, Option.some.inj hRest]
            rfl
          · cases hRest
        · rintro ⟨blanks, hSplit, hBlanks⟩
          cases blanks with
          | nil =>
              rw [List.nil_append] at hSplit
              rw [if_pos (List.head_eq_of_cons_eq hSplit),
                List.tail_eq_of_cons_eq hSplit]
          | cons blank blanks =>
              have hFirst : c = blank :=
                List.head_eq_of_cons_eq hSplit
              rw [hFirst] at hBlank
              exact
                absurd (List.forall_mem_cons.mp hBlanks).1
                  hBlank

end Script

end KsqlBatch

------------------------------------------------------------
-- Quoted Texts
------------------------------------------------------------

namespace KsqlBatch

namespace Script

variable {α : Type}
variable {accept? : List Char → Option α}

/-
  No quote closes a text if what follows is refused behind
  each of them, up to the end of the line.
-/
theorem longestQuoted?_eq_none_iff
    {cs : List Char} :
    longestQuoted? accept? cs = none ↔
      ∀ inner rest,
        cs = inner ++ '\'' :: rest →
        '\n' ∉ inner →
        accept? rest = none := by
  induction cs with
  | nil => simp [longestQuoted?]
  | cons c cs ih =>
      simp only [longestQuoted?]
      by_cases hFeed : c = '\n'
      · simp only [hFeed, if_true, true_iff]
        intro inner rest hSplit hLine
        cases inner with
        | nil =>
            exact absurd (List.head_eq_of_cons_eq hSplit)
              (by decide)
        | cons first inner =>
            rw [List.mem_cons, not_or] at hLine
            exact
              absurd (List.head_eq_of_cons_eq hSplit) hLine.1
      · rw [if_neg hFeed]
        cases hLater : longestQuoted? accept? cs with
        | some found =>
            simp only [reduceCtorEq, false_iff]
            intro hNone
            have hSame : longestQuoted? accept? cs = none := by
              refine ih.mpr ?_
              intro inner rest hSplit hLine
              refine hNone (c :: inner) rest ?_ ?_
              · rw [hSplit]
                rfl
              · simp [hLine, Ne.symm hFeed]
            simp [hLater] at hSame
        | none =>
            have hRefused := ih.mp hLater
            simp only
            constructor
            · intro hNone inner rest hSplit hLine
              cases inner with
              | nil =>
                  have hQuote : c = '\'' :=
                    List.head_eq_of_cons_eq hSplit
                  rw [if_pos hQuote,
                    Option.map_eq_none_iff] at hNone
                  rw [← List.tail_eq_of_cons_eq hSplit]
                  exact hNone
              | cons first inner =>
                  refine
                    hRefused inner rest
                      (List.tail_eq_of_cons_eq hSplit) ?_
                  exact fun hInner =>
                    hLine (List.mem_cons_of_mem _ hInner)
            · intro hNone
              split
              · rename_i hQuote
                rw [Option.map_eq_none_iff]
                exact
                  hNone [] cs (by rw [hQuote]; rfl) (by simp)
              · rfl

/-
  A text reaches up to a quote with something acceptable
  behind it if no later quote closes a text.
-/
theorem longestQuoted?_of_last
    {inner rest : List Char}
    {result : α}
    (hLine : '\n' ∉ inner)
    (hAccept : accept? rest = some result)
    (hLast : longestQuoted? accept? rest = none) :
    longestQuoted? accept? (inner ++ '\'' :: rest) =
      some (inner, result) := by
  induction inner with
  | nil => simp [longestQuoted?, hLast, hAccept]
  | cons c inner ih =>
      rw [List.mem_cons, not_or] at hLine
      rw [List.cons_append, longestQuoted?,
        if_neg (Ne.symm hLine.1), ih hLine.2]

end Script

end KsqlBatch

------------------------------------------------------------
-- Signs
------------------------------------------------------------

namespace KsqlBatch

namespace Script

/-
  A quote, a sign and another quote follow one another with
  nothing but white space between them.
-/
def HasSign
    (cs : List Char) : Prop :=
  ∃ before left right after,
    cs =
      before ++
        '\'' :: (left ++ '=' :: (right ++ '\'' :: after)) ∧
    (∀ c ∈ left, Text.isWhiteSpace c = true) ∧
    ∀ c ∈ right, Text.isWhiteSpace c = true

/- What follows a sign and a quote, after white space. -/
def afterSign?
    (cs : List Char) : Option (List Char) :=
  (afterBlanks? '=' cs).bind (afterBlanks? '\'')

theorem afterSign?_eq_some_iff
    {cs rest : List Char} :
    afterSign? cs = some rest ↔
      ∃ left right,
        cs = left ++ '=' :: (right ++ '\'' :: rest) ∧
        (∀ c ∈ left, Text.isWhiteSpace c = true) ∧
        ∀ c ∈ right, Text.isWhiteSpace c = true := by
  have hSign : Text.isWhiteSpace '=' = false := by decide
  have hQuote : Text.isWhiteSpace '\'' = false := by decide
  simp only [afterSign?, Option.bind_eq_some_iff,
    afterBlanks?_eq_some_iff hSign,
    afterBlanks?_eq_some_iff hQuote]
  constructor
  · rintro ⟨_, ⟨left, rfl, hLeft⟩, right, rfl, hRight⟩
    exact ⟨left, right, rfl, hLeft, hRight⟩
  · rintro ⟨left, right, rfl, hLeft, hRight⟩
    exact ⟨_, ⟨left, rfl, hLeft⟩, right, rfl, hRight⟩

theorem hasSign_cons_iff
    {c : Char}
    {cs : List Char} :
    HasSign (c :: cs) ↔
      c = '\'' ∧ (afterSign? cs).isSome = true ∨
        HasSign cs := by
  simp only [Option.isSome_iff_exists, afterSign?_eq_some_iff]
  constructor
  · rintro ⟨before, left, right, after, hSplit, hLeft, hRight⟩
    cases before with
    | nil =>
        exact
          Or.inl
            ⟨List.head_eq_of_cons_eq hSplit, after, left,
              right, List.tail_eq_of_cons_eq hSplit, hLeft,
              hRight⟩
    | cons first before =>
        exact
          Or.inr
            ⟨before, left, right, after,
              List.tail_eq_of_cons_eq hSplit, hLeft, hRight⟩
  · rintro (⟨rfl, after, left, right, rfl, hLeft, hRight⟩ |
      ⟨before, left, right, after, rfl, hLeft, hRight⟩)
    · exact
        ⟨[], left, right, after, rfl, hLeft, hRight⟩
    · exact
        ⟨c :: before, left, right, after, rfl, hLeft, hRight⟩

theorem not_hasSign_nil :
    ¬ HasSign [] := by
  rintro ⟨before, left, right, after, hSplit, _⟩
  simp at hSplit

instance decidableHasSign :
    (cs : List Char) → Decidable (HasSign cs)
| [] => isFalse not_hasSign_nil
| c :: cs =>
    have := decidableHasSign cs
    decidable_of_iff
      (c = '\'' ∧ (afterSign? cs).isSome = true ∨ HasSign cs)
      hasSign_cons_iff.symm

/- Characters that are no quotes do not add a sign. -/
theorem hasSign_of_hasSign_append
    {before cs : List Char}
    (hBefore : '\'' ∉ before)
    (hSign : HasSign (before ++ cs)) :
    HasSign cs := by
  induction before with
  | nil => exact hSign
  | cons c before ih =>
      rw [List.mem_cons, not_or] at hBefore
      rcases hasSign_cons_iff.mp hSign with ⟨hQuote, _⟩ |
        hLater
      · exact absurd hQuote.symm hBefore.1
      · exact ih hBefore.2 hLater

/- A sign behind a quote needs another quote. -/
theorem mem_of_hasSign_quote
    {cs : List Char}
    (hSign : HasSign ('\'' :: cs)) :
    '\'' ∈ cs := by
  rcases hSign with ⟨before, left, right, after, hSplit, _⟩
  cases before with
  | nil =>
      rw [List.tail_eq_of_cons_eq hSplit]
      simp
  | cons first before =>
      rw [List.tail_eq_of_cons_eq hSplit]
      simp

end Script

end KsqlBatch

------------------------------------------------------------
-- Writing Directives
------------------------------------------------------------

namespace KsqlBatch

namespace Script

namespace Directive

/- A directive as a line of a script. -/
def render
    (directive : Directive) : String :=
  "SET '" ++ directive.key ++ "' = '" ++ directive.value ++
    "';"

/-
  Key and value are parts of one line, and nothing in the
  value, with the quote before it, looks like a sign between
  two quotes.
-/
structure IsSafe
    (directive : Directive) : Prop where
  key_line : Text.IsLine directive.key.toList
  value_line : Text.IsLine directive.value.toList
  no_sign : ¬ HasSign ('\'' :: directive.value.toList)

instance
    (directive : Directive) :
    Decidable directive.IsSafe :=
  decidable_of_iff
    (Text.IsLine directive.key.toList ∧
      Text.IsLine directive.value.toList ∧
      ¬ HasSign ('\'' :: directive.value.toList))
    ⟨fun ⟨hKey, hValue, hSign⟩ => ⟨hKey, hValue, hSign⟩,
      fun ⟨hKey, hValue, hSign⟩ => ⟨hKey, hValue, hSign⟩⟩

/- The characters of a directive, part by part. -/
theorem toList_render
    (directive : Directive) :
    directive.render.toList =
      'S' :: 'E' :: 'T' :: ' ' :: '\'' ::
        (directive.key.toList ++
          '\'' :: ' ' :: '=' :: ' ' :: '\'' ::
            (directive.value.toList ++ ['\'', ';'])) := by
  simp [render]

end Directive

/- A value reaches up to the quote before the end. -/
theorem valueOf?_append_end
    {value : List Char}
    (hLine : '\n' ∉ value) :
    valueOf? (value ++ ['\'', ';']) = some value := by
  have hRead :
      longestQuoted? closesDirective (value ++ ['\'', ';']) =
        some (value, ()) :=
    longestQuoted?_of_last hLine (by decide) (by decide)
  rw [valueOf?, hRead]
  rfl

theorem valueAfterSign?_append_end
    {value : List Char}
    (hLine : '\n' ∉ value) :
    valueAfterSign?
        (' ' :: '=' :: ' ' :: '\'' ::
          (value ++ ['\'', ';'])) =
      some value := by
  have hBlank :
      ∀ c ∈ [' '], Text.isWhiteSpace c = true :=
    List.forall_mem_singleton.mpr (by decide)
  have hSign :
      afterBlanks? '='
          (' ' :: '=' :: ' ' :: '\'' ::
            (value ++ ['\'', ';'])) =
        some (' ' :: '\'' :: (value ++ ['\'', ';'])) :=
    (afterBlanks?_eq_some_iff (by decide)).mpr
      ⟨[' '], rfl, hBlank⟩
  have hQuote :
      afterBlanks? '\''
          (' ' :: '\'' :: (value ++ ['\'', ';'])) =
        some (value ++ ['\'', ';']) :=
    (afterBlanks?_eq_some_iff (by decide)).mpr
      ⟨[' '], rfl, hBlank⟩
  simp only [valueAfterSign?, hSign, hQuote,
    Option.bind_some, valueOf?_append_end hLine]

/- A value is read only where a sign stands before it. -/
theorem exists_afterSign?_of_valueAfterSign?
    {cs value : List Char}
    (hRead : valueAfterSign? cs = some value) :
    ∃ rest,
      afterSign? cs = some rest ∧ '\'' ∈ rest := by
  simp only [valueAfterSign?, Option.bind_eq_some_iff]
    at hRead
  rcases hRead with ⟨signed, hSign, rest, hQuote, hValue⟩
  refine ⟨rest, ?_, ?_⟩
  · rw [afterSign?, hSign, Option.bind_some, hQuote]
  · by_contra hNone
    have hRefused :
        longestQuoted? closesDirective rest = none := by
      refine longestQuoted?_eq_none_iff.mpr ?_
      intro inner after hSplit _
      rw [hSplit] at hNone
      simp at hNone
    simp [valueOf?, hRefused] at hValue

/-
  No quote behind the key closes it too: a sign between two
  quotes would have to lie in the value, since yet another
  quote follows it in front of the end.
-/
theorem longestQuoted?_behind_key
    {value : List Char}
    (hSign : ¬ HasSign ('\'' :: value)) :
    longestQuoted? valueAfterSign?
        (' ' :: '=' :: ' ' :: '\'' ::
          (value ++ ['\'', ';'])) = none := by
  refine longestQuoted?_eq_none_iff.mpr ?_
  intro inner rest hSplit _
  by_contra hRead
  rcases Option.ne_none_iff_exists'.mp hRead with
    ⟨found, hFound⟩
  rcases exists_afterSign?_of_valueAfterSign? hFound with
    ⟨after, hAfter, hQuote⟩
  rcases afterSign?_eq_some_iff.mp hAfter with
    ⟨left, right, hRest, hLeft, hRight⟩
  have hParts :
      (' ' :: '=' :: ' ' :: '\'' :: value) ++ ['\'', ';'] =
        (inner ++
            '\'' :: (left ++ '=' :: (right ++ ['\'']))) ++
          after := by
    rw [hRest] at hSplit
    simpa using hSplit
  have hInside :
      ∃ others,
        ' ' :: '=' :: ' ' :: '\'' :: value =
          (inner ++
              '\'' :: (left ++ '=' :: (right ++ ['\'']))) ++
            others := by
    rcases List.append_eq_append_iff.mp hParts with
      ⟨extra, hBefore, hEnd⟩ | ⟨others, hValue, _⟩
    · -- The last quote of all is the one that follows.
      cases extra with
      | nil =>
          rw [List.append_nil] at hBefore
          exact ⟨[], by rw [hBefore, List.append_nil]⟩
      | cons c extra =>
          have hTail := List.tail_eq_of_cons_eq hEnd
          have hLate : after.Sublist [';'] := by
            rw [hTail]
            exact List.sublist_append_right _ _
          exact absurd (hLate.subset hQuote) (by decide)
    · exact ⟨others, hValue⟩
  rcases hInside with ⟨others, hInside⟩
  have hWhole :
      HasSign ([' ', '=', ' '] ++ '\'' :: value) := by
    refine ⟨inner, left, right, others, ?_, hLeft, hRight⟩
    rw [List.cons_append, List.cons_append,
      List.cons_append, List.nil_append, hInside]
    simp
  exact hSign (hasSign_of_hasSign_append (by decide) hWhole)

/-
  A directive is read back as it is written if key and value
  are parts of one line and nothing looks like the end of
  another key.
-/
theorem Directive.parse?_render
    (directive : Directive)
    (hKey : '\n' ∉ directive.key.toList)
    (hValue : '\n' ∉ directive.value.toList)
    (hSign : ¬ HasSign ('\'' :: directive.value.toList)) :
    Directive.parse? directive.render = some directive := by
  have hRead :
      assignment?
          (directive.key.toList ++
            '\'' :: ' ' :: '=' :: ' ' :: '\'' ::
              (directive.value.toList ++ ['\'', ';'])) =
        some
          (directive.key.toList, directive.value.toList) :=
    longestQuoted?_of_last hKey
      (valueAfterSign?_append_end hValue)
      (longestQuoted?_behind_key hSign)
  simp [Directive.parse?, Directive.toList_render,
    findAssignment?, afterOpening?, hRead]

/- A safe directive is read back as it is written. -/
theorem Directive.IsSafe.parse?_render
    {directive : Directive}
    (hSafe : directive.IsSafe) :
    Directive.parse? directive.render = some directive :=
  Directive.parse?_render directive hSafe.key_line.1
    hSafe.value_line.1 hSafe.no_sign

end Script

end KsqlBatch
