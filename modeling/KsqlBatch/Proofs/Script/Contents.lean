import KsqlBatch.Script.Directive
import KsqlBatch.Script.Line
import KsqlBatch.Script.LineCursor
import KsqlBatch.Script.Statement
import KsqlBatch.Script.Termination

/-
  This file says what a list of trimmed lines contains, with
  no parser in between: the statements with their property
  snapshots, why reading stops, and the properties in force
  at that point.

  Key definitions include:
    * `LineCursor.yields`
    * `Script.trimmedLines`
    * `Script.closeStatement?`
    * `Script.Contents`
    * `Script.contents`

  Everything about them follows from
  `Script.contents_induction`, which has one case for each
  thing that a line can do.
-/

------------------------------------------------------------
-- Lines
------------------------------------------------------------

namespace KsqlBatch

namespace LineCursor

/- A call that yields a line leaves fewer lines to come. -/
theorem length_pending_lt_of_nextLine?
    {cursor next : LineCursor}
    {line : String}
    (hNext : cursor.nextLine? = some (line, next)) :
    next.pending.length < cursor.pending.length := by
  rcases cursor with ⟨pending, lineNumber⟩
  cases pending with
  | nil => cases hNext
  | cons first pending =>
      cases hNext
      exact Nat.lt_succ_self _

/- The lines that a cursor yields until it has no more. -/
def yields
    (cursor : LineCursor) : List String :=
  match _hNext : cursor.nextLine? with
  | none => []
  | some (line, next) => line :: next.yields
termination_by cursor.pending.length
decreasing_by
  exact length_pending_lt_of_nextLine? _hNext

/- A cursor yields the lines to come. -/
theorem yields_eq
    (pending : List String)
    (lineNumber : Nat) :
    yields { pending, lineNumber } = pending := by
  induction pending generalizing lineNumber with
  | nil =>
      rw [yields]
      rfl
  | cons line pending ih =>
      rw [yields]
      exact congrArg (line :: ·) (ih (lineNumber + 1))

end LineCursor

namespace Script

/- The lines of a script without the blanks around them. -/
def trimmedLines
    (text : String) : List String :=
  (LineCursor.ofText text).yields.map trimLine

/- A line that means nothing between two statements. -/
def IsInert
    (line : String) : Prop :=
  classify line = .blank ∨ classify line = .comment

/- A directive that cannot be read. -/
def IsMalformed
    (line : String) : Prop :=
  classify line = .directive ∧
    Directive.parse? line = none

/- A line that is read over between two statements. -/
def IsPassedOver
    (line : String) : Prop :=
  IsInert line ∨
    classify line = .directive ∧
      (Directive.parse? line).isSome

theorem IsPassedOver.classify_ne_text
    {line : String}
    (hPassed : IsPassedOver line) :
    classify line ≠ .text := by
  intro hText
  rcases hPassed with (hBlank | hComment) | ⟨hDirective, _⟩
  · simp [hText] at hBlank
  · simp [hText] at hComment
  · simp [hText] at hDirective

theorem IsPassedOver.not_isMalformed
    {line : String}
    (hPassed : IsPassedOver line) :
    ¬ IsMalformed line := by
  rintro ⟨hDirective, hUnread⟩
  rcases hPassed with (hBlank | hComment) | ⟨_, hRead⟩
  · simp [hDirective] at hBlank
  · simp [hDirective] at hComment
  · simp [hUnread] at hRead

end Script

end KsqlBatch

------------------------------------------------------------
-- Ends of Statements
------------------------------------------------------------

namespace KsqlBatch

namespace Script

/- Cut lines behind the first one that ends a statement. -/
def closeStatement? :
    List String → Option (List String × List String)
| [] => none
| line :: rest =>
    if endsStatement line then some ([line], rest)
    else
      match closeStatement? rest with
      | none => none
      | some (block, later) => some (line :: block, later)

theorem closeStatement?_cons_eq_none
    {line : String}
    {rest : List String}
    (hOpen : closeStatement? (line :: rest) = none) :
    ¬ endsStatement line = true ∧
      closeStatement? rest = none := by
  simp only [closeStatement?] at hOpen
  split at hOpen
  · cases hOpen
  · rename_i hContinues
    split at hOpen
    · rename_i hRest
      exact ⟨hContinues, hRest⟩
    · cases hOpen

theorem closeStatement?_cons_eq_some
    {line : String}
    {rest block later : List String}
    (hContinues : ¬ endsStatement line = true)
    (hClosed :
      closeStatement? (line :: rest) =
        some (block, later)) :
    ∃ tail,
      block = line :: tail ∧
      closeStatement? rest = some (tail, later) := by
  simp only [closeStatement?, hContinues,
    Bool.false_eq_true, if_false] at hClosed
  split at hClosed
  · cases hClosed
  · rename_i tail rest' hRest
    cases hClosed
    exact ⟨tail, rfl, hRest⟩

/- Lines that cannot be cut end no statement. -/
theorem endsStatement_eq_false_of_closeStatement?_eq_none
    {lines : List String}
    (hOpen : closeStatement? lines = none) :
    ∀ line ∈ lines, endsStatement line = false := by
  induction lines with
  | nil => simp
  | cons line rest ih =>
      rcases closeStatement?_cons_eq_none hOpen with
        ⟨hContinues, hRest⟩
      intro other hOther
      rcases List.mem_cons.mp hOther with rfl | hOther
      · simpa using hContinues
      · exact ih hRest other hOther

/-
  A block that is cut off ends in the first line that ends a
  statement.
-/
theorem exists_of_closeStatement?_eq_some
    {lines block later : List String}
    (hClosed :
      closeStatement? lines = some (block, later)) :
    ∃ before last,
      block = before ++ [last] ∧
      lines = block ++ later ∧
      (∀ line ∈ before, endsStatement line = false) ∧
      endsStatement last = true := by
  induction lines generalizing block with
  | nil => cases hClosed
  | cons line rest ih =>
      by_cases hEnds : endsStatement line = true
      · simp only [closeStatement?, hEnds, if_true,
          Option.some.injEq, Prod.mk.injEq] at hClosed
        rcases hClosed with ⟨rfl, rfl⟩
        exact ⟨[], line, rfl, rfl, by simp, hEnds⟩
      · rcases closeStatement?_cons_eq_some hEnds hClosed with
          ⟨tail, rfl, hRest⟩
        rcases ih hRest with
          ⟨before, last, rfl, rfl, hBefore, hLast⟩
        refine
          ⟨line :: before, last, rfl, rfl, ?_, hLast⟩
        intro other hOther
        rcases List.mem_cons.mp hOther with rfl | hOther
        · simpa using hEnds
        · exact hBefore other hOther

theorem append_eq_of_closeStatement?_eq_some
    {lines block later : List String}
    (hClosed :
      closeStatement? lines = some (block, later)) :
    block ++ later = lines := by
  rcases exists_of_closeStatement?_eq_some hClosed with
    ⟨_, _, _, hLines, _, _⟩
  exact hLines.symm

theorem length_later_lt_of_closeStatement?_eq_some
    {lines block later : List String}
    (hClosed :
      closeStatement? lines = some (block, later)) :
    later.length < lines.length := by
  rcases exists_of_closeStatement?_eq_some hClosed with
    ⟨before, last, rfl, rfl, _, _⟩
  simp only [List.length_append, List.length_singleton]
  omega

/- Only the last line of a block ends a statement. -/
theorem closeStatement?_append
    {before later : List String}
    {last : String}
    (hBefore :
      ∀ line ∈ before, endsStatement line = false)
    (hLast : endsStatement last = true) :
    closeStatement? (before ++ last :: later) =
      some (before ++ [last], later) := by
  induction before with
  | nil => simp [closeStatement?, hLast]
  | cons line before ih =>
      rw [List.forall_mem_cons] at hBefore
      simp [closeStatement?, hBefore.1, ih hBefore.2]

/- A block is cut off whatever follows. -/
theorem closeStatement?_append_of_eq_some
    {lines block later : List String}
    (hClosed :
      closeStatement? lines = some (block, later))
    (more : List String) :
    closeStatement? (lines ++ more) =
      some (block, later ++ more) := by
  rcases exists_of_closeStatement?_eq_some hClosed with
    ⟨before, last, rfl, rfl, hBefore, hLast⟩
  have hCut :
      closeStatement? (before ++ last :: (later ++ more)) =
        some (before ++ [last], later ++ more) :=
    closeStatement?_append hBefore hLast
  simpa using hCut

/- Lines that cannot be cut belong to a longer block. -/
theorem closeStatement?_append_of_eq_none
    {lines : List String}
    (hOpen : closeStatement? lines = none)
    (more : List String) :
    closeStatement? (lines ++ more) =
      (closeStatement? more).map fun (block, later) =>
        (lines ++ block, later) := by
  induction lines with
  | nil => simp
  | cons line rest ih =>
      rcases closeStatement?_cons_eq_none hOpen with
        ⟨hContinues, hRest⟩
      rw [List.cons_append, closeStatement?,
        if_neg hContinues, ih hRest]
      cases closeStatement? more <;> rfl

end Script

end KsqlBatch

------------------------------------------------------------
-- Contents
------------------------------------------------------------

namespace KsqlBatch

namespace Script

/-
  What lines contain: the statements in order, why reading
  stops, and the properties at the end.
-/
structure Contents where
  statements : List ParsedStatement
  termination : Termination
  properties : PropertyMap
deriving DecidableEq, Inhabited

namespace Contents

/- The contents of lines without a further statement. -/
def stop
    (termination : Termination)
    (properties : PropertyMap) : Contents where
  statements := []
  termination := termination
  properties := properties

/- The contents behind a statement, with the statement. -/
def prepend
    (parsed : ParsedStatement)
    (contents : Contents) : Contents :=
  { contents with
    statements := parsed :: contents.statements }

@[simp] theorem statements_stop
    (termination : Termination)
    (properties : PropertyMap) :
    (stop termination properties).statements = [] := rfl

@[simp] theorem termination_stop
    (termination : Termination)
    (properties : PropertyMap) :
    (stop termination properties).termination =
      termination := rfl

@[simp] theorem properties_stop
    (termination : Termination)
    (properties : PropertyMap) :
    (stop termination properties).properties =
      properties := rfl

@[simp] theorem statements_prepend
    (parsed : ParsedStatement)
    (contents : Contents) :
    (contents.prepend parsed).statements =
      parsed :: contents.statements := rfl

@[simp] theorem termination_prepend
    (parsed : ParsedStatement)
    (contents : Contents) :
    (contents.prepend parsed).termination =
      contents.termination := rfl

@[simp] theorem properties_prepend
    (parsed : ParsedStatement)
    (contents : Contents) :
    (contents.prepend parsed).properties =
      contents.properties := rfl

end Contents

/- The statement of a block whose first line has a number. -/
def statementAt
    (first : Nat)
    (block : List String) : Statement where
  text := "\n".intercalate block
  startLine := first
  endLine := first + block.length - 1

/- The statement that lines with a first number leave open. -/
def incompleteAt
    (first : Nat)
    (block : List String) : IncompleteStatement where
  startLine := first
  fragment := "\n".intercalate block

/-
  What lines contain, given the number of lines before them
  and the properties in force.
-/
def contents
    (number : Nat)
    (properties : PropertyMap)
    (lines : List String) : Contents :=
  match lines with
  | [] => .stop .exhausted properties
  | line :: rest =>
      match classify line with
      | .blank => contents (number + 1) properties rest
      | .comment => contents (number + 1) properties rest
      | .directive =>
          match Directive.parse? line with
          | none =>
              .stop (.malformedDirective (number + 1) line)
                properties
          | some directive =>
              contents (number + 1)
                (properties.insert
                  directive.key directive.value)
                rest
      | .text =>
          match hClosed : closeStatement? (line :: rest) with
          | none =>
              .stop
                (.incompleteStatement
                  (incompleteAt (number + 1)
                    (line :: rest)))
                properties
          | some (block, later) =>
              (contents (number + block.length) properties
                later).prepend
                { statement := statementAt (number + 1) block
                  properties }
termination_by lines.length
decreasing_by
  all_goals
    first
    | exact Nat.lt_succ_self _
    | exact length_later_lt_of_closeStatement?_eq_some hClosed

end Script

end KsqlBatch

------------------------------------------------------------
-- Equations
------------------------------------------------------------

namespace KsqlBatch

namespace Script

variable {number : Nat}
variable {properties : PropertyMap}
variable {line : String}
variable {rest : List String}

@[simp] theorem contents_nil :
    contents number properties [] =
      .stop .exhausted properties := by
  rw [contents]

theorem contents_cons_of_isInert
    (hInert : IsInert line) :
    contents number properties (line :: rest) =
      contents (number + 1) properties rest := by
  rcases hInert with hBlank | hComment
  · rw [contents, hBlank]
  · rw [contents, hComment]

theorem contents_cons_of_directive
    {directive : Directive}
    (hKind : classify line = .directive)
    (hRead : Directive.parse? line = some directive) :
    contents number properties (line :: rest) =
      contents (number + 1)
        (properties.insert directive.key directive.value)
        rest := by
  rw [contents, hKind]
  simp only [hRead]

theorem contents_cons_of_isMalformed
    (hMalformed : IsMalformed line) :
    contents number properties (line :: rest) =
      .stop (.malformedDirective (number + 1) line)
        properties := by
  rw [contents, hMalformed.1]
  simp only [hMalformed.2]

theorem contents_cons_of_closed
    {block later : List String}
    (hKind : classify line = .text)
    (hClosed :
      closeStatement? (line :: rest) =
        some (block, later)) :
    contents number properties (line :: rest) =
      (contents (number + block.length) properties
        later).prepend
        { statement := statementAt (number + 1) block
          properties } := by
  rw [contents, hKind]
  simp only
  split
  · rename_i hOpen
    simp [hClosed] at hOpen
  · rename_i hOther
    rw [hClosed] at hOther
    cases hOther
    rfl

theorem contents_cons_of_open
    (hKind : classify line = .text)
    (hOpen : closeStatement? (line :: rest) = none) :
    contents number properties (line :: rest) =
      .stop
        (.incompleteStatement
          (incompleteAt (number + 1) (line :: rest)))
        properties := by
  rw [contents, hKind]
  simp only
  split
  · rfl
  · rename_i hClosed
    simp [hOpen] at hClosed

/-
  Lines are used up from the front: a line that means
  nothing, a directive, or the whole of a statement, until
  something stops the reading.
-/
@[elab_as_elim]
theorem contents_induction
    {motive : Nat → PropertyMap → List String → Prop}
    (exhausted :
      ∀ number properties, motive number properties [])
    (inert :
      ∀ number properties line rest,
        IsInert line →
        motive (number + 1) properties rest →
        motive number properties (line :: rest))
    (directive :
      ∀ number properties line rest (found : Directive),
        classify line = .directive →
        Directive.parse? line = some found →
        motive (number + 1)
          (properties.insert found.key found.value) rest →
        motive number properties (line :: rest))
    (malformed :
      ∀ number properties line rest,
        IsMalformed line →
        motive number properties (line :: rest))
    (statement :
      ∀ number properties line rest block later,
        classify line = .text →
        closeStatement? (line :: rest) =
          some (block, later) →
        motive (number + block.length) properties later →
        motive number properties (line :: rest))
    (incomplete :
      ∀ number properties line rest,
        classify line = .text →
        closeStatement? (line :: rest) = none →
        motive number properties (line :: rest))
    (number : Nat)
    (properties : PropertyMap)
    (lines : List String) :
    motive number properties lines := by
  fun_induction contents number properties lines with
  | case1 => exact exhausted _ _
  | case2 _ _ line rest hKind ih =>
      exact inert _ _ _ _ (Or.inl hKind) ih
  | case3 _ _ line rest hKind ih =>
      exact inert _ _ _ _ (Or.inr hKind) ih
  | case4 _ _ line rest hKind hRead =>
      exact malformed _ _ _ _ ⟨hKind, hRead⟩
  | case5 _ _ line rest hKind found hRead ih =>
      exact directive _ _ _ _ found hKind hRead ih
  | case6 _ _ line rest hKind hOpen =>
      exact incomplete _ _ _ _ hKind hOpen
  | case7 _ _ line rest hKind block later hClosed ih =>
      exact statement _ _ _ _ block later hKind hClosed ih

end Script

end KsqlBatch
