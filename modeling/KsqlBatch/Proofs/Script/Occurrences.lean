import KsqlBatch.Proofs.Script.Directives

/-
  This file says, without reading a text from left to right,
  where directives occur in it and which of them is read: the
  one that begins first, with the longest key that is
  possible there, and with the longest value behind that.
  From this follows which keys and values a directive that is
  written out can carry.

  Key definitions include:
    * `Script.Occurrence`
    * `Script.Occurrence.IsIn`
    * `Script.Occurrence.IsFirst`

  Key theorems include:
    * `Script.longestQuoted?_eq_some_iff`
    * `Script.Occurrence.IsSpelled.exists_assignment?`
    * `Script.exists_isFirst_of_findAssignment?`

  The main results are `Script.parse?_first_occurrence` and
  `Script.parse?_render_iff`.
-/

------------------------------------------------------------
-- Occurrences
------------------------------------------------------------

namespace KsqlBatch

namespace Script

/- What a directive begins with, up to its key. -/
def opening : List Char :=
  ['S', 'E', 'T', ' ', '\'']

/-
  The parts of a text in which a directive occurs: the key
  and the value, the characters around the sign, those in
  front of the semicolon, and what stands around the whole.
-/
structure Occurrence where
  before : List Char
  key : List Char
  left : List Char
  right : List Char
  value : List Char
  gap : List Char
  after : List Char
deriving DecidableEq

namespace Occurrence

/- The text behind the quote that opens the value. -/
def behindSign
    (occurrence : Occurrence) : List Char :=
  occurrence.value ++
    '\'' :: (occurrence.gap ++ ';' :: occurrence.after)

/- The text behind the quote that closes the key. -/
def behindKey
    (occurrence : Occurrence) : List Char :=
  occurrence.left ++
    '=' :: (occurrence.right ++
      '\'' :: occurrence.behindSign)

/- The text behind the opening of the directive. -/
def body
    (occurrence : Occurrence) : List Char :=
  occurrence.key ++ '\'' :: occurrence.behindKey

/- The whole text. -/
def text
    (occurrence : Occurrence) : List Char :=
  occurrence.before ++ opening ++ occurrence.body

/- The directive that occurs. -/
def directive
    (occurrence : Occurrence) : Directive where
  key := String.ofList occurrence.key
  value := String.ofList occurrence.value

/-
  Key and value are parts of one line each, and nothing but
  white space stands around the sign and in front of the
  semicolon.
-/
structure IsSpelled
    (occurrence : Occurrence) : Prop where
  key_line : '\n' ∉ occurrence.key
  left_blank :
    ∀ c ∈ occurrence.left, Text.isWhiteSpace c = true
  right_blank :
    ∀ c ∈ occurrence.right, Text.isWhiteSpace c = true
  value_line : '\n' ∉ occurrence.value
  gap_blank :
    ∀ c ∈ occurrence.gap, Text.isWhiteSpace c = true

/- The directive occurs in a text. -/
structure IsIn
    (occurrence : Occurrence)
    (cs : List Char) : Prop where
  text_eq : cs = occurrence.text
  spelled : occurrence.IsSpelled

/-
  No directive in a text begins earlier, none that begins at
  the same place has a longer key, and none with that key has
  a longer value.
-/
structure IsFirst
    (occurrence : Occurrence)
    (cs : List Char) : Prop where
  isIn : occurrence.IsIn cs
  shortest_before :
    ∀ other : Occurrence,
      other.IsIn cs →
      occurrence.before.length ≤ other.before.length
  longest_key :
    ∀ other : Occurrence,
      other.IsIn cs →
      other.before = occurrence.before →
      other.key.length ≤ occurrence.key.length
  longest_value :
    ∀ other : Occurrence,
      other.IsIn cs →
      other.before = occurrence.before →
      other.key = occurrence.key →
      other.value.length ≤ occurrence.value.length

end Occurrence

end Script

end KsqlBatch

------------------------------------------------------------
-- Longest Texts
------------------------------------------------------------

namespace KsqlBatch

namespace Script

variable {α : Type}
variable {accept? : List Char → Option α}
variable {cs inner : List Char}
variable {result : α}

/-
  A text reaches up to a quote with something acceptable
  behind it, and no later quote closes a text.
-/
theorem longestQuoted?_eq_some_iff :
    longestQuoted? accept? cs = some (inner, result) ↔
      ∃ rest,
        cs = inner ++ '\'' :: rest ∧
        '\n' ∉ inner ∧
        accept? rest = some result ∧
        longestQuoted? accept? rest = none := by
  constructor
  · intro hRead
    induction cs generalizing inner with
    | nil => simp [longestQuoted?] at hRead
    | cons c cs ih =>
        rw [longestQuoted?] at hRead
        by_cases hFeed : c = '\n'
        · simp [hFeed] at hRead
        rw [if_neg hFeed] at hRead
        cases hLater : longestQuoted? accept? cs with
        | some found =>
            rcases found with ⟨tail, other⟩
            simp only [hLater, Option.some.injEq,
              Prod.mk.injEq] at hRead
            rcases hRead with ⟨rfl, rfl⟩
            rcases ih hLater with
              ⟨rest, rfl, hLine, hAccept, hLast⟩
            refine ⟨rest, rfl, ?_, hAccept, hLast⟩
            rw [List.mem_cons, not_or]
            exact ⟨Ne.symm hFeed, hLine⟩
        | none =>
            simp only [hLater] at hRead
            by_cases hQuote : c = '\''
            · rw [if_pos hQuote] at hRead
              rcases Option.map_eq_some_iff.mp hRead with
                ⟨other, hAccept, hSame⟩
              simp only [Prod.mk.injEq] at hSame
              rcases hSame with ⟨rfl, rfl⟩
              exact
                ⟨cs, by rw [hQuote]; rfl, by simp, hAccept,
                  hLater⟩
            · simp [hQuote] at hRead
  · rintro ⟨rest, rfl, hLine, hAccept, hLast⟩
    exact longestQuoted?_of_last hLine hAccept hLast

/- No acceptable quote closes a text later. -/
theorem length_le_of_longestQuoted?_eq_some
    {longer later : List Char}
    (hRead :
      longestQuoted? accept? cs = some (inner, result))
    (hSplit : cs = longer ++ '\'' :: later)
    (hLine : '\n' ∉ longer)
    (hAccept : (accept? later).isSome = true) :
    longer.length ≤ inner.length := by
  rcases longestQuoted?_eq_some_iff.mp hRead with
    ⟨rest, hCut, _, _, hLast⟩
  rw [hCut] at hSplit
  rcases List.append_eq_append_iff.mp hSplit with
    ⟨extra, hLonger, hRest⟩ | ⟨extra, hInner, _⟩
  · cases extra with
    | nil => simp [hLonger]
    | cons c extra =>
        have hBehind : rest = extra ++ '\'' :: later :=
          List.tail_eq_of_cons_eq hRest
        have hTail : '\n' ∉ extra := by
          intro hFeed
          apply hLine
          rw [hLonger]
          exact
            List.mem_append_right _
              (List.mem_cons_of_mem _ hFeed)
        have hNone :=
          longestQuoted?_eq_none_iff.mp hLast extra later
            hBehind hTail
        rw [hNone] at hAccept
        cases hAccept
  · rw [hInner, List.length_append]
    exact Nat.le_add_right _ _

/- A text is closed if one of its quotes is acceptable. -/
theorem exists_longestQuoted?_eq_some
    {rest : List Char}
    (hLine : '\n' ∉ inner)
    (hAccept : (accept? rest).isSome = true) :
    ∃ longest result,
      longestQuoted? accept? (inner ++ '\'' :: rest) =
        some (longest, result) ∧
      inner.length ≤ longest.length := by
  cases hRead :
      longestQuoted? accept? (inner ++ '\'' :: rest) with
  | none =>
      have hNone :=
        longestQuoted?_eq_none_iff.mp hRead inner rest rfl
          hLine
      rw [hNone] at hAccept
      cases hAccept
  | some found =>
      exact
        ⟨found.1, found.2, rfl,
          length_le_of_longestQuoted?_eq_some hRead rfl
            hLine hAccept⟩

end Script

end KsqlBatch

------------------------------------------------------------
-- Values
------------------------------------------------------------

namespace KsqlBatch

namespace Script

variable {cs value : List Char}

/- A directive is closed by a semicolon after white space. -/
theorem closesDirective_eq_some_iff :
    closesDirective cs = some () ↔
      ∃ gap after,
        cs = gap ++ ';' :: after ∧
        ∀ c ∈ gap, Text.isWhiteSpace c = true := by
  have hEnd : Text.isWhiteSpace ';' = false := by decide
  simp only [closesDirective, Option.map_eq_some_iff,
    afterBlanks?_eq_some_iff hEnd, and_true]
  exact exists_comm

/- A value is read up to a quote that the end follows. -/
theorem exists_of_valueOf?_eq_some
    (hRead : valueOf? cs = some value) :
    ∃ gap after,
      cs = value ++ '\'' :: (gap ++ ';' :: after) ∧
      '\n' ∉ value ∧
      ∀ c ∈ gap, Text.isWhiteSpace c = true := by
  rcases Option.map_eq_some_iff.mp hRead with
    ⟨⟨inner, _⟩, hLongest, rfl⟩
  rcases longestQuoted?_eq_some_iff.mp hLongest with
    ⟨rest, hSplit, hLine, hEnd, _⟩
  rcases closesDirective_eq_some_iff.mp hEnd with
    ⟨gap, after, rfl, hGap⟩
  exact ⟨gap, after, hSplit, hLine, hGap⟩

/- A value is read that is no shorter than a possible one. -/
theorem exists_valueOf?_eq_some
    {gap after : List Char}
    (hLine : '\n' ∉ value)
    (hGap : ∀ c ∈ gap, Text.isWhiteSpace c = true) :
    ∃ longest,
      valueOf? (value ++ '\'' :: (gap ++ ';' :: after)) =
        some longest ∧
      value.length ≤ longest.length := by
  have hEnd :
      closesDirective (gap ++ ';' :: after) = some () :=
    closesDirective_eq_some_iff.mpr ⟨gap, after, rfl, hGap⟩
  rcases
    exists_longestQuoted?_eq_some hLine
      (Option.isSome_iff_exists.mpr ⟨(), hEnd⟩) with
    ⟨longest, result, hRead, hLength⟩
  refine ⟨longest, ?_, hLength⟩
  rw [valueOf?, hRead]
  rfl

/- A value is read behind the sign. -/
theorem valueAfterSign?_eq_bind :
    valueAfterSign? cs = (afterSign? cs).bind valueOf? := by
  rw [afterSign?, Option.bind_assoc]
  rfl

end Script

end KsqlBatch

------------------------------------------------------------
-- Keys
------------------------------------------------------------

namespace KsqlBatch

namespace Script

variable {cs key value : List Char}

/- Key and value are read off a directive that occurs. -/
theorem exists_of_assignment?_eq_some
    (hRead : assignment? cs = some (key, value))
    (before : List Char) :
    ∃ occurrence : Occurrence,
      occurrence.before = before ∧
      occurrence.key = key ∧
      occurrence.value = value ∧
      occurrence.body = cs ∧
      occurrence.IsSpelled := by
  rcases longestQuoted?_eq_some_iff.mp hRead with
    ⟨rest, hSplit, hKey, hValue, _⟩
  rw [valueAfterSign?_eq_bind] at hValue
  rcases Option.bind_eq_some_iff.mp hValue with
    ⟨signed, hSign, hRest⟩
  rcases afterSign?_eq_some_iff.mp hSign with
    ⟨left, right, hSigned, hLeft, hRight⟩
  rcases exists_of_valueOf?_eq_some hRest with
    ⟨gap, after, hClosed, hLine, hGap⟩
  refine
    ⟨{ before, key, left, right, value, gap, after }, rfl,
      rfl, rfl, ?_, ?_⟩
  · rw [hSplit, hSigned, hClosed]
    rfl
  · exact
      { key_line := hKey
        left_blank := hLeft
        right_blank := hRight
        value_line := hLine
        gap_blank := hGap }

namespace Occurrence

variable {occurrence other : Occurrence}

/- The sign is found behind the key, and the value behind it. -/
theorem IsSpelled.afterSign?_behindKey
    (hSpelled : occurrence.IsSpelled) :
    afterSign? occurrence.behindKey =
      some occurrence.behindSign :=
  afterSign?_eq_some_iff.mpr
    ⟨occurrence.left, occurrence.right, rfl,
      hSpelled.left_blank, hSpelled.right_blank⟩

/- What follows the key is read as a value. -/
theorem IsSpelled.exists_valueAfterSign?
    (hSpelled : occurrence.IsSpelled) :
    ∃ longest,
      valueAfterSign? occurrence.behindKey = some longest ∧
      occurrence.value.length ≤ longest.length := by
  rw [valueAfterSign?_eq_bind,
    hSpelled.afterSign?_behindKey, Option.bind_some]
  exact
    exists_valueOf?_eq_some hSpelled.value_line
      hSpelled.gap_blank

/-
  A directive is read where one occurs. Its key is no shorter
  than the one that occurs, and if it is the same, then its
  value is no shorter.
-/
theorem IsSpelled.exists_assignment?
    (hSpelled : occurrence.IsSpelled) :
    ∃ key value,
      assignment? occurrence.body = some (key, value) ∧
      occurrence.key.length ≤ key.length ∧
      (occurrence.key = key →
        occurrence.value.length ≤ value.length) := by
  rcases hSpelled.exists_valueAfterSign? with
    ⟨longest, hValue, hLength⟩
  rcases
    exists_longestQuoted?_eq_some hSpelled.key_line
      (Option.isSome_iff_exists.mpr ⟨longest, hValue⟩) with
    ⟨key, value, hRead, hKey⟩
  refine ⟨key, value, hRead, hKey, ?_⟩
  -- The same key leaves the same text to read a value from.
  intro hSame
  rcases longestQuoted?_eq_some_iff.mp hRead with
    ⟨rest, hSplit, _, hAccept, _⟩
  rw [hSame] at hSplit
  have hRest :=
    List.tail_eq_of_cons_eq (List.append_cancel_left hSplit)
  rw [← hRest, hValue] at hAccept
  rw [← Option.some.inj hAccept]
  exact hLength

end Occurrence

end Script

end KsqlBatch

------------------------------------------------------------
-- Openings
------------------------------------------------------------

namespace KsqlBatch

namespace Script

variable {cs : List Char}

/- What follows an opening is what it is put in front of. -/
theorem afterOpening?_eq_some_iff
    {rest : List Char} :
    afterOpening? cs = some rest ↔ cs = opening ++ rest := by
  constructor
  · intro hOpens
    unfold afterOpening? at hOpens
    split at hOpens
    · rw [Option.some.inj hOpens]
      rfl
    · cases hOpens
  · rintro rfl
    rfl

/- No directive is read behind any opening. -/
theorem findAssignment?_eq_none_iff :
    findAssignment? cs = none ↔
      ∀ before body,
        cs = before ++ opening ++ body →
        assignment? body = none := by
  induction cs with
  | nil => simp [findAssignment?, opening]
  | cons c cs ih =>
      rw [findAssignment?]
      cases hHere :
          (afterOpening? (c :: cs)).bind assignment? with
      | some found =>
          simp only [reduceCtorEq, false_iff]
          intro hNone
          rcases Option.bind_eq_some_iff.mp hHere with
            ⟨body, hOpens, hRead⟩
          have hRefused :=
            hNone [] body (afterOpening?_eq_some_iff.mp hOpens)
          simp [hRead] at hRefused
      | none =>
          simp only [ih]
          constructor
          · intro hLater before body hSplit
            cases before with
            | nil =>
                have hOpens :=
                  afterOpening?_eq_some_iff.mpr hSplit
                rw [hOpens, Option.bind_some] at hHere
                exact hHere
            | cons first before =>
                exact
                  hLater before body
                    (List.tail_eq_of_cons_eq hSplit)
          · intro hAll before body hSplit
            refine hAll (c :: before) body ?_
            rw [hSplit]
            rfl

/-
  A directive is read behind an opening, and none behind an
  earlier one.
-/
theorem exists_of_findAssignment?_eq_some
    {found : List Char × List Char}
    (hFound : findAssignment? cs = some found) :
    ∃ before body,
      cs = before ++ opening ++ body ∧
      assignment? body = some found ∧
      ∀ earlier other,
        cs = earlier ++ opening ++ other →
        (assignment? other).isSome = true →
        before.length ≤ earlier.length := by
  induction cs with
  | nil => simp [findAssignment?] at hFound
  | cons c cs ih =>
      rw [findAssignment?] at hFound
      cases hHere :
          (afterOpening? (c :: cs)).bind assignment? with
      | some here =>
          simp only [hHere, Option.some.injEq] at hFound
          rw [hFound] at hHere
          rcases Option.bind_eq_some_iff.mp hHere with
            ⟨body, hOpens, hRead⟩
          exact
            ⟨[], body, afterOpening?_eq_some_iff.mp hOpens,
              hRead, fun _ _ _ _ => Nat.zero_le _⟩
      | none =>
          simp only [hHere] at hFound
          rcases ih hFound with
            ⟨before, body, rfl, hRead, hEarliest⟩
          refine ⟨c :: before, body, rfl, hRead, ?_⟩
          intro earlier other hSplit hOther
          cases earlier with
          | nil =>
              have hOpens :=
                afterOpening?_eq_some_iff.mpr hSplit
              rw [hOpens, Option.bind_some] at hHere
              rw [hHere] at hOther
              cases hOther
          | cons first earlier =>
              exact
                Nat.succ_le_succ
                  (hEarliest earlier other
                    (List.tail_eq_of_cons_eq hSplit) hOther)

end Script

end KsqlBatch

------------------------------------------------------------
-- First Occurrences
------------------------------------------------------------

namespace KsqlBatch

namespace Script

variable {cs : List Char}

namespace Occurrence

variable {occurrence other : Occurrence}

/- Occurrences that begin at the same place. -/
theorem IsIn.body_eq
    (hIn : occurrence.IsIn cs)
    (hOther : other.IsIn cs)
    (hBefore : other.before = occurrence.before) :
    other.body = occurrence.body := by
  have hText := hOther.text_eq.symm.trans hIn.text_eq
  unfold text at hText
  rw [hBefore] at hText
  exact List.append_cancel_left hText

/- Where a directive occurs, one is found. -/
theorem IsIn.exists_findAssignment?
    (hIn : occurrence.IsIn cs) :
    ∃ found, findAssignment? cs = some found := by
  rcases hIn.spelled.exists_assignment? with
    ⟨key, value, hRead, _⟩
  cases hFound : findAssignment? cs with
  | some found => exact ⟨found, rfl⟩
  | none =>
      have hNone :=
        findAssignment?_eq_none_iff.mp hFound
          occurrence.before occurrence.body hIn.text_eq
      simp [hRead] at hNone

/- The text behind the key says where the value begins. -/
theorem behindSign_eq_of_body_eq
    (hSpelled : occurrence.IsSpelled)
    (hOther : other.IsSpelled)
    (hBody : other.body = occurrence.body)
    (hKey : other.key = occurrence.key) :
    other.behindSign = occurrence.behindSign := by
  unfold body at hBody
  rw [hKey] at hBody
  have hBehind : other.behindKey = occurrence.behindKey :=
    List.tail_eq_of_cons_eq (List.append_cancel_left hBody)
  have hSign := hOther.afterSign?_behindKey
  rw [hBehind, hSpelled.afterSign?_behindKey] at hSign
  exact (Option.some.inj hSign).symm

/- There is only one first directive. -/
theorem IsFirst.directive_eq
    (hFirst : occurrence.IsFirst cs)
    (hOther : other.IsFirst cs) :
    other.directive = occurrence.directive := by
  have hBefore : other.before = occurrence.before := by
    have hText :=
      hOther.isIn.text_eq.symm.trans hFirst.isIn.text_eq
    unfold text at hText
    rw [List.append_assoc, List.append_assoc] at hText
    refine (List.append_inj hText ?_).1
    exact
      Nat.le_antisymm
        (hOther.shortest_before _ hFirst.isIn)
        (hFirst.shortest_before _ hOther.isIn)
  have hBody :=
    hFirst.isIn.body_eq hOther.isIn hBefore
  have hKey : other.key = occurrence.key := by
    refine (List.append_inj hBody ?_).1
    exact
      Nat.le_antisymm
        (hFirst.longest_key _ hOther.isIn hBefore)
        (hOther.longest_key _ hFirst.isIn hBefore.symm)
  have hValue : other.value = occurrence.value := by
    have hBehind : other.behindSign = occurrence.behindSign :=
      behindSign_eq_of_body_eq hFirst.isIn.spelled
        hOther.isIn.spelled hBody hKey
    refine (List.append_inj hBehind ?_).1
    exact
      Nat.le_antisymm
        (hFirst.longest_value _ hOther.isIn hBefore hKey)
        (hOther.longest_value _ hFirst.isIn hBefore.symm
          hKey.symm)
  rw [directive, directive, hKey, hValue]

end Occurrence

/- What is found is the directive that occurs first. -/
theorem exists_isFirst_of_findAssignment?
    {key value : List Char}
    (hFound : findAssignment? cs = some (key, value)) :
    ∃ occurrence : Occurrence,
      occurrence.IsFirst cs ∧
      occurrence.key = key ∧
      occurrence.value = value := by
  rcases exists_of_findAssignment?_eq_some hFound with
    ⟨before, body, hSplit, hRead, hEarliest⟩
  rcases exists_of_assignment?_eq_some hRead before with
    ⟨occurrence, rfl, hKey, hValue, rfl, hSpelled⟩
  have hIn : occurrence.IsIn cs := ⟨hSplit, hSpelled⟩
  refine ⟨occurrence, ?_, hKey, hValue⟩
  -- What is read at the same place is the longest there.
  have hLongest :
      ∀ other : Occurrence,
        other.IsIn cs →
        other.before = occurrence.before →
        other.key.length ≤ key.length ∧
          (other.key = key →
            other.value.length ≤ value.length) := by
    intro other hOther hBefore
    rcases hOther.spelled.exists_assignment? with
      ⟨otherKey, otherValue, hOtherRead, hOtherKey,
        hOtherValue⟩
    rw [hIn.body_eq hOther hBefore, hRead] at hOtherRead
    cases hOtherRead
    exact ⟨hOtherKey, hOtherValue⟩
  exact
    { isIn := hIn
      shortest_before := by
        intro other hOther
        rcases hOther.spelled.exists_assignment? with
          ⟨otherKey, otherValue, hOtherRead, _⟩
        exact
          hEarliest other.before other.body hOther.text_eq
            (Option.isSome_iff_exists.mpr ⟨_, hOtherRead⟩)
      longest_key := by
        intro other hOther hBefore
        rw [hKey]
        exact (hLongest other hOther hBefore).1
      longest_value := by
        intro other hOther hBefore hSame
        rw [hValue]
        exact
          (hLongest other hOther hBefore).2
            (hSame.trans hKey) }

end Script

end KsqlBatch

------------------------------------------------------------
-- First Openings
------------------------------------------------------------

namespace KsqlBatch

namespace Script

variable {cs earlier rest : List Char}

/- Two openings in a text do not overlap. -/
theorem exists_between_of_openings
    {before body : List Char}
    (hSame :
      earlier ++ opening ++ rest =
        before ++ opening ++ body)
    (hEarlier : earlier.length < before.length) :
    ∃ between, before = earlier ++ opening ++ between := by
  rw [List.append_assoc before] at hSame
  rcases List.append_eq_append_iff.mp hSame with
    ⟨between, hBefore, _⟩ | ⟨overlap, hOpens, hBehind⟩
  · exact ⟨between, hBefore⟩
  cases overlap with
  | nil =>
      exact ⟨[], by rw [hOpens]; simp⟩
  | cons c overlap =>
      -- An opening has no other capital S than its first.
      have hFirst : c = 'S' :=
        (List.head_eq_of_cons_eq hBehind).symm
      rcases List.append_eq_append_iff.mp hOpens with
        ⟨extra, hBefore, hOpening⟩ | ⟨extra, hLonger, _⟩
      · cases extra with
        | nil =>
            rw [List.append_nil] at hBefore
            rw [hBefore] at hEarlier
            exact absurd hEarlier (Nat.lt_irrefl _)
        | cons d extra =>
            have hTail : opening.tail = extra ++ c :: overlap :=
              congrArg List.tail hOpening
            have hInside : 'S' ∈ opening.tail := by
              rw [hTail, hFirst]
              simp
            exact absurd hInside (by decide)
      · rw [hLonger, List.length_append] at hEarlier
        omega

/-
  Within one line, a directive that occurs behind an opening
  also occurs behind every earlier one, with a longer key.
-/
theorem Occurrence.IsIn.exists_isIn_of_opening
    {occurrence : Occurrence}
    (hIn : occurrence.IsIn cs)
    (hLine : '\n' ∉ cs)
    (hOpening : cs = earlier ++ opening ++ rest)
    (hEarlier :
      earlier.length < occurrence.before.length) :
    ∃ other : Occurrence,
      other.IsIn cs ∧ other.before = earlier := by
  have hText := hIn.text_eq
  unfold Occurrence.text at hText
  rcases
    exists_between_of_openings (hOpening.symm.trans hText)
      hEarlier with
    ⟨between, hBefore⟩
  refine
    ⟨{ occurrence with
        before := earlier
        key := between ++ opening ++ occurrence.key },
      ⟨?_, ?_⟩, rfl⟩
  · rw [hText, hBefore]
    simp [Occurrence.text, Occurrence.body,
      Occurrence.behindKey, Occurrence.behindSign]
  · refine { hIn.spelled with key_line := ?_ }
    intro hFeed
    apply hLine
    rw [hText, hBefore, Occurrence.body]
    simp only [List.mem_append] at hFeed ⊢
    rcases hFeed with (hBetween | hAgain) | hKey
    · exact Or.inl (Or.inl (Or.inr hBetween))
    · exact Or.inl (Or.inr hAgain)
    · exact Or.inr (Or.inl hKey)

/- Within one line the first opening counts. -/
theorem Occurrence.IsFirst.length_before_le
    {occurrence : Occurrence}
    (hFirst : occurrence.IsFirst cs)
    (hLine : '\n' ∉ cs)
    (hOpening : cs = earlier ++ opening ++ rest) :
    occurrence.before.length ≤ earlier.length := by
  by_contra hLonger
  rcases
    hFirst.isIn.exists_isIn_of_opening hLine hOpening
      (Nat.lt_of_not_le hLonger) with
    ⟨other, hOther, rfl⟩
  exact hLonger (hFirst.shortest_before other hOther)

end Script

end KsqlBatch

------------------------------------------------------------
-- Directives of Lines
------------------------------------------------------------

namespace KsqlBatch

namespace Script

/-
  A line has a directive if one occurs in it, and it is the
  one that occurs first. Unless the line contains a line
  feed, this is behind the first opening in it.
-/
theorem parse?_first_occurrence
    (line : String) :
    ((Directive.parse? line).isSome = true ↔
      ∃ occurrence : Occurrence,
        occurrence.IsIn line.toList) ∧
    (∀ directive,
      Directive.parse? line = some directive ↔
        ∃ occurrence : Occurrence,
          occurrence.IsFirst line.toList ∧
          occurrence.directive = directive) ∧
    ('\n' ∉ line.toList →
      ∀ occurrence : Occurrence,
        occurrence.IsFirst line.toList →
        ∀ earlier rest,
          line.toList = earlier ++ opening ++ rest →
          occurrence.before.length ≤ earlier.length) := by
  have hSound :
      ∀ directive,
        Directive.parse? line = some directive →
        ∃ occurrence : Occurrence,
          occurrence.IsFirst line.toList ∧
          occurrence.directive = directive := by
    intro directive hRead
    rcases Option.map_eq_some_iff.mp hRead with
      ⟨⟨key, value⟩, hFound, rfl⟩
    rcases exists_isFirst_of_findAssignment? hFound with
      ⟨occurrence, hFirst, rfl, rfl⟩
    exact ⟨occurrence, hFirst, rfl⟩
  have hComplete :
      ∀ occurrence : Occurrence,
        occurrence.IsIn line.toList →
        ∃ directive,
          Directive.parse? line = some directive := by
    intro occurrence hIn
    rcases hIn.exists_findAssignment? with ⟨found, hFound⟩
    exact ⟨_, Option.map_eq_some_iff.mpr ⟨found, hFound, rfl⟩⟩
  refine ⟨⟨?_, ?_⟩, ?_, ?_⟩
  · intro hRead
    rcases Option.isSome_iff_exists.mp hRead with
      ⟨directive, hDirective⟩
    rcases hSound directive hDirective with
      ⟨occurrence, hFirst, _⟩
    exact ⟨occurrence, hFirst.isIn⟩
  · rintro ⟨occurrence, hIn⟩
    exact Option.isSome_iff_exists.mpr (hComplete _ hIn)
  · intro directive
    refine ⟨hSound directive, ?_⟩
    rintro ⟨occurrence, hFirst, rfl⟩
    rcases hComplete _ hFirst.isIn with ⟨found, hRead⟩
    rcases hSound found hRead with ⟨other, hOther, rfl⟩
    rw [hRead, hFirst.directive_eq hOther]
  · intro hLine occurrence hFirst earlier rest hOpening
    exact hFirst.length_before_le hLine hOpening

/-
  A key goes on behind quotes, signs, semicolons and even
  another directive, as long as a value can still follow.
-/
theorem first_occurrence_of_nested_directives :
    let line := "x SET 'a' = 'b'; SET 'c' = 'd';"
    ∃ occurrence : Occurrence,
      occurrence.IsFirst line.toList ∧
      occurrence.directive = ⟨"a' = 'b'; SET 'c", "d"⟩ ∧
      occurrence.before.length ≤ 2 := by
  intro line
  rcases parse?_first_occurrence line with
    ⟨_, hRead, hOpening⟩
  rcases
    (hRead ⟨"a' = 'b'; SET 'c", "d"⟩).mp (by decide +kernel)
    with ⟨occurrence, hFirst, hDirective⟩
  refine ⟨occurrence, hFirst, hDirective, ?_⟩
  exact
    hOpening (by decide) occurrence hFirst ['x', ' ']
      "a' = 'b'; SET 'c' = 'd';".toList (by decide +kernel)

end Script

end KsqlBatch

------------------------------------------------------------
-- Written Directives
------------------------------------------------------------

namespace KsqlBatch

namespace Script

/- What a directive that is written out has behind its key. -/
def writtenBody
    (directive : Directive) : List Char :=
  directive.key.toList ++
    '\'' :: ' ' :: '=' :: ' ' :: '\'' ::
      (directive.value.toList ++ ['\'', ';'])

/-
  If something in the value looks like the end of a key, then
  a directive with a longer key occurs in what is written.
-/
theorem exists_longer_key_of_hasSign
    (directive : Directive)
    (hKey : '\n' ∉ directive.key.toList)
    (hValue : '\n' ∉ directive.value.toList)
    (hSign : HasSign ('\'' :: directive.value.toList)) :
    ∃ occurrence : Occurrence,
      occurrence.IsSpelled ∧
      occurrence.body = writtenBody directive ∧
      directive.key.toList.length <
        occurrence.key.length := by
  rcases hSign with
    ⟨before, left, right, after, hSplit, hLeft, hRight⟩
  have hLine :
      '\n' ∉ before ++
        '\'' :: (left ++ '=' :: (right ++ '\'' :: after)) := by
    rw [← hSplit]
    simp [hValue]
  simp only [List.mem_append, List.mem_cons, not_or]
    at hLine
  rcases hLine with ⟨hBefore, _, _, _, _, _, hAfter⟩
  have hEnd :
      '\'' :: (directive.value.toList ++ ['\'', ';']) =
        before ++
          '\'' :: (left ++
            '=' :: (right ++
              '\'' :: (after ++ ['\'', ';']))) := by
    rw [← List.cons_append, hSplit]
    simp
  refine
    ⟨{ before := []
       key :=
        directive.key.toList ++
          '\'' :: ' ' :: '=' :: ' ' :: before
       left
       right
       value := after
       gap := []
       after := [] }, ?_, ?_, ?_⟩
  · exact
      { key_line := by simp [hKey, hBefore]
        left_blank := hLeft
        right_blank := hRight
        value_line := hAfter
        gap_blank := by simp }
  · rw [writtenBody, hEnd]
    simp [Occurrence.body, Occurrence.behindKey,
      Occurrence.behindSign]
  · simp

/- A directive is read off what follows an opening. -/
theorem parse?_of_assignment?
    {line : String}
    {body key value : List Char}
    (hLine : line.toList = opening ++ body)
    (hRead : assignment? body = some (key, value)) :
    Directive.parse? line =
      some ⟨String.ofList key, String.ofList value⟩ := by
  have hOpens : afterOpening? line.toList = some body :=
    afterOpening?_eq_some_iff.mpr hLine
  have hFound :
      findAssignment? line.toList = some (key, value) := by
    rw [hLine] at hOpens ⊢
    unfold opening at hOpens ⊢
    rw [List.cons_append, findAssignment?,
      ← List.cons_append, hOpens, Option.bind_some, hRead]
  rw [Directive.parse?, hFound]
  rfl

/-
  A directive whose key and value are parts of one line is
  read back as it is written unless something in the value,
  with the quote before it, looks like the end of a key. Then
  it is read with a longer key.
-/
theorem parse?_render_iff
    (key value : String)
    (hKey : '\n' ∉ key.toList)
    (hValue : '\n' ∉ value.toList) :
    let directive : Directive := { key, value }
    let line :=
      "SET '" ++ key ++ "' = '" ++ value ++ "';"
    (Directive.parse? line = some directive ↔
      ¬ HasSign ('\'' :: value.toList)) ∧
    ('\'' ∉ value.toList →
      Directive.parse? line = some directive) ∧
    (HasSign ('\'' :: value.toList) →
      ∃ found,
        Directive.parse? line = some found ∧
        key.length < found.key.length) := by
  intro directive line
  have hBack :
      ¬ HasSign ('\'' :: value.toList) →
        Directive.parse? line = some directive :=
    Directive.parse?_render directive hKey hValue
  have hLonger :
      HasSign ('\'' :: value.toList) →
        ∃ found,
          Directive.parse? line = some found ∧
          key.length < found.key.length := by
    intro hSign
    rcases
      exists_longer_key_of_hasSign directive hKey hValue
        hSign with
      ⟨occurrence, hSpelled, hBody, hLength⟩
    rcases hSpelled.exists_assignment? with
      ⟨found, other, hRead, hFound, _⟩
    rw [hBody] at hRead
    refine ⟨_, parse?_of_assignment? ?_ hRead, ?_⟩
    · exact Directive.toList_render directive
    · rw [String.length_ofList]
      exact Nat.lt_of_lt_of_le hLength hFound
  refine ⟨⟨?_, hBack⟩, ?_, hLonger⟩
  · intro hRead hSign
    rcases hLonger hSign with ⟨found, hFound, hLength⟩
    rw [hRead] at hFound
    cases hFound
    exact Nat.lt_irrefl _ hLength
  · intro hPlain
    apply hBack
    exact fun hSign => hPlain (mem_of_hasSign_quote hSign)

/-
  A value may contain quotes, and a key a whole directive. A
  value that looks like the end of a key gives its first part
  away.
-/
theorem keys_of_written_directives :
    (Directive.parse?
        "SET 'SET 'a' = 'b';' = 'it's';" =
      some ⟨"SET 'a' = 'b';", "it's"⟩) ∧
    ∃ found,
      Directive.parse? "SET 'a' = 'b' = 'c';" =
        some found ∧
      1 < found.key.length := by
  constructor
  · exact
      (parse?_render_iff "SET 'a' = 'b';" "it's" (by decide)
        (by decide)).1.mpr (by decide +kernel)
  · exact
      (parse?_render_iff "a" "b' = 'c" (by decide)
        (by decide)).2.2 (by decide +kernel)

end Script

end KsqlBatch
