import KsqlBatch.Proofs.Script.Calls
import Mathlib.Data.List.Basic

/-
  This file says what is logged of a script. Each line that is
  read has its own records: a further line of a statement is
  noted as such, a directive with what it sets, and other
  lines not at all. The records of the end say why reading
  stops, and only they complain.

  Key definitions include:
    * `Script.Contents.Continues`
    * `Script.Contents.recordsAt`
    * `Termination.closing`
    * `Script.records`
    * `Script.recordsOf`

  Key theorems include:
    * `Script.records_cons_of_closed`
    * `Script.records_cons_of_open`
    * `Script.filter_warn_recordsOf`
    * `Script.filter_error_recordsOf`
    * `Script.filter_trace_recordsOf`
-/

------------------------------------------------------------
-- Records
------------------------------------------------------------

namespace KsqlBatch

namespace Parser

/- The record of a directive that was read. -/
def setting
    (directive : Script.Directive) : LogRecord :=
  record .debug
    ("SET '" ++ directive.key ++ "' = '" ++
      directive.value ++ "'")

/- The record of a directive that cannot be read. -/
def unmatched
    (line : String) : LogRecord :=
  record .warn
    ("SET directive did not match '" ++ line ++ "'")

/- The record of a statement that the end cuts off. -/
def cutOff
    (incomplete : IncompleteStatement) : LogRecord :=
  record .error
    ("Incomplete statement '" ++ incomplete.fragment ++ "'")

/- The record that the parser has stopped. -/
def finished
    (termination : Termination) : LogRecord :=
  record .debug
    ("parser finished: " ++ termination.describe)

end Parser

/- A line is a further line of a statement. -/
def Statement.Continues
    (statement : Statement)
    (number : Nat) : Prop :=
  statement.startLine < number ∧ number ≤ statement.endLine

instance Statement.decidableContinues
    (statement : Statement)
    (number : Nat) :
    Decidable (statement.Continues number) :=
  inferInstanceAs (Decidable (_ ∧ _))

namespace Termination

/- A line is a further line of the statement left open. -/
def Continues
    (number : Nat) : Termination → Prop
| .exhausted => False
| .malformedDirective _ _ => False
| .incompleteStatement incomplete =>
    incomplete.startLine < number

instance decidableContinues
    (number : Nat)
    (termination : Termination) :
    Decidable (termination.Continues number) :=
  match termination with
  | .exhausted => inferInstanceAs (Decidable False)
  | .malformedDirective _ _ =>
      inferInstanceAs (Decidable False)
  | .incompleteStatement incomplete =>
      inferInstanceAs
        (Decidable (incomplete.startLine < number))

/- What the parser complains of when it stops. -/
def complaints : Termination → List LogRecord
| .exhausted => []
| .malformedDirective _ line => [Parser.unmatched line]
| .incompleteStatement incomplete =>
    [Parser.cutOff incomplete]

/- A complaint is a warning or an error. -/
theorem of_mem_complaints
    {termination : Termination}
    {record : LogRecord}
    (hRecord : record ∈ termination.complaints) :
    (∃ line, record = Parser.unmatched line) ∨
      ∃ incomplete, record = Parser.cutOff incomplete := by
  cases termination with
  | exhausted => cases hRecord
  | malformedDirective number line =>
      exact Or.inl ⟨line, List.mem_singleton.mp hRecord⟩
  | incompleteStatement incomplete =>
      exact
        Or.inr ⟨incomplete, List.mem_singleton.mp hRecord⟩

/- What is logged when the parser stops. -/
def closing
    (termination : Termination) : List LogRecord :=
  termination.complaints ++ [Parser.finished termination]

end Termination

namespace Script

/-
  What is logged of a line outside of statements, unless it
  stops the parser.
-/
def recordsOutside
    (line : String) : List LogRecord :=
  match classify line with
  | .directive =>
      (Directive.parse? line).toList.map Parser.setting
  | _ => []

namespace Contents

/-
  A line is a further line of a statement, whether this is
  complete or not.
-/
def Continues
    (contents : Contents)
    (number : Nat) : Prop :=
  (∃ parsed ∈ contents.statements,
    parsed.statement.Continues number) ∨
  contents.termination.Continues number

instance decidableContinues
    (contents : Contents)
    (number : Nat) :
    Decidable (contents.Continues number) :=
  inferInstanceAs (Decidable (_ ∨ _))

/-
  What is logged of a line with a number, if a total number
  of lines can be read.
-/
def recordsAt
    (contents : Contents)
    (total number : Nat)
    (line : String) : List LogRecord :=
  if contents.Continues number then
    [Parser.continuation line]
  else if number ≤ contents.termination.lastLine total then
    recordsOutside line
  else []

/- What is logged of lines with numbers from a first one on. -/
def recordsFrom
    (contents : Contents)
    (total first : Nat)
    (lines : List String) : List LogRecord :=
  (lines.zipIdx first).flatMap fun (line, number) =>
    contents.recordsAt total number line

end Contents

/-
  What is logged of lines behind a number of others, and of
  their end.
-/
def records
    (number : Nat)
    (properties : PropertyMap)
    (lines : List String) : List LogRecord :=
  let found := contents number properties lines
  found.recordsFrom (number + lines.length) (number + 1)
      lines ++
    found.termination.closing

/- What is logged of a script. -/
def recordsOf
    (text : String) : List LogRecord :=
  records 0 PropertyMap.empty (trimmedLines text)

end Script

end KsqlBatch

------------------------------------------------------------
-- Lines That Continue Statements
------------------------------------------------------------

namespace KsqlBatch

namespace Script

namespace Contents

variable {contents : Contents}
variable {total number : Nat}
variable {line : String}

theorem recordsAt_of_continues
    (hContinues : contents.Continues number) :
    contents.recordsAt total number line =
      [Parser.continuation line] :=
  if_pos hContinues

theorem recordsAt_of_outside
    (hOutside : ¬ contents.Continues number)
    (hRead : number ≤ contents.termination.lastLine total) :
    contents.recordsAt total number line =
      recordsOutside line := by
  unfold recordsAt
  rw [if_neg hOutside, if_pos hRead]

/- Of lines that are not read nothing is logged. -/
theorem recordsAt_of_unread
    (hOutside : ¬ contents.Continues number)
    (hUnread :
      contents.termination.lastLine total < number) :
    contents.recordsAt total number line = [] := by
  unfold recordsAt
  rw [if_neg hOutside, if_neg (Nat.not_le.mpr hUnread)]

/- Of a first line of a statement nothing is logged. -/
theorem recordsAt_of_text
    (hOutside : ¬ contents.Continues number)
    (hText : classify line = .text) :
    contents.recordsAt total number line = [] := by
  unfold recordsAt recordsOutside
  rw [if_neg hOutside, hText]
  exact ite_self []

/- A statement in front only concerns its own lines. -/
theorem recordsAt_prepend
    {parsed : ParsedStatement}
    (hBehind : parsed.statement.endLine < number) :
    (contents.prepend parsed).recordsAt total number line =
      contents.recordsAt total number line := by
  have hContinues :
      (contents.prepend parsed).Continues number ↔
        contents.Continues number := by
    unfold Continues Statement.Continues
    rw [statements_prepend, List.exists_mem_cons_iff,
      termination_prepend]
    refine or_congr_left (or_iff_right ?_)
    intro hInside
    omega
  unfold recordsAt
  rw [if_congr hContinues rfl rfl, termination_prepend]

theorem recordsFrom_cons
    (contents : Contents)
    (total first : Nat)
    (line : String)
    (rest : List String) :
    contents.recordsFrom total first (line :: rest) =
      contents.recordsAt total first line ++
        contents.recordsFrom total (first + 1) rest := rfl

theorem recordsFrom_append
    (contents : Contents)
    (total first : Nat)
    (block later : List String) :
    contents.recordsFrom total first (block ++ later) =
      contents.recordsFrom total first block ++
        contents.recordsFrom total (first + block.length)
          later := by
  unfold recordsFrom
  rw [List.zipIdx_append, List.flatMap_append]

/- Contents that agree on lines log the same of them. -/
theorem recordsFrom_congr
    {others : Contents}
    {first otherTotal : Nat}
    {lines : List String}
    (hSame :
      ∀ number line,
        first ≤ number →
        contents.recordsAt total number line =
          others.recordsAt otherTotal number line) :
    contents.recordsFrom total first lines =
      others.recordsFrom otherTotal first lines :=
  List.flatMap_congr fun _ hEntry =>
    hSame _ _ (List.le_snd_of_mem_zipIdx hEntry)

/- All lines of a block continue a statement. -/
theorem recordsFrom_of_continues
    {block : List String}
    {first : Nat}
    (hContinues :
      ∀ position,
        first ≤ position →
        position < first + block.length →
        contents.Continues position) :
    contents.recordsFrom total first block =
      block.map Parser.continuation := by
  induction block generalizing first with
  | nil => rfl
  | cons line block ih =>
      rw [List.length_cons] at hContinues
      have hFirst := hContinues first (by omega) (by omega)
      rw [recordsFrom_cons, List.map_cons,
        recordsAt_of_continues hFirst, List.singleton_append,
        ih]
      intro position hAfter hBehind
      exact hContinues position (by omega) (by omega)

end Contents

/- No line up to the first one continues a statement. -/
theorem not_continues_contents
    (number : Nat)
    (properties : PropertyMap)
    (lines : List String)
    {position : Nat}
    (hFront : position ≤ number + 1) :
    ¬ (contents number properties lines).Continues
      position := by
  induction number, properties, lines
    using contents_induction with
  | exhausted number properties =>
      rw [contents_nil]
      simp [Contents.Continues, Termination.Continues]
  | inert number properties line rest hInert ih =>
      rw [contents_cons_of_isInert hInert]
      exact ih (Nat.le_succ_of_le hFront)
  | directive number properties line rest found hKind hRead
      ih =>
      rw [contents_cons_of_directive hKind hRead]
      exact ih (Nat.le_succ_of_le hFront)
  | malformed number properties line rest hMalformed =>
      rw [contents_cons_of_isMalformed hMalformed]
      simp [Contents.Continues, Termination.Continues]
  | statement number properties line rest block later hKind
      hClosed ih =>
      rw [contents_cons_of_closed hKind hClosed]
      rintro (⟨parsed, hParsed, hInside⟩ | hOpen)
      · rcases List.mem_cons.mp hParsed with rfl | hLater
        · exact
            absurd hInside.1
              (Nat.not_lt.mpr hFront)
        · exact
            ih (by omega)
              (Or.inl ⟨parsed, hLater, hInside⟩)
      · exact ih (by omega) (Or.inr hOpen)
  | incomplete number properties line rest hKind hOpen =>
      rw [contents_cons_of_open hKind hOpen]
      rintro (⟨parsed, hParsed, _⟩ | hInside)
      · cases hParsed
      · exact absurd hInside (Nat.not_lt.mpr hFront)

end Script

end KsqlBatch

------------------------------------------------------------
-- Equations
------------------------------------------------------------

namespace KsqlBatch

namespace Script

variable {number : Nat}
variable {properties later : PropertyMap}
variable {line : String}
variable {rest : List String}

/- What is logged follows from the contents. -/
theorem records_of_contents_eq
    {lines : List String}
    {found : Contents}
    (hContents : contents number properties lines = found) :
    records number properties lines =
      found.recordsFrom (number + lines.length) (number + 1)
          lines ++
        found.termination.closing := by
  rw [← hContents]
  rfl

@[simp] theorem records_nil :
    records number properties [] =
      [Parser.finished .exhausted] :=
  records_of_contents_eq contents_nil

/- A line outside of statements comes with its records. -/
theorem records_cons_of_contents_eq
    (hContents :
      contents number properties (line :: rest) =
        contents (number + 1) later rest) :
    records number properties (line :: rest) =
      recordsOutside line ++
        records (number + 1) later rest := by
  have hTotal :
      number + (line :: rest).length =
        number + 1 + rest.length := by
    rw [List.length_cons]
    omega
  have hRead := le_lastLine_contents (number + 1) later rest
  have hOutside :=
    not_continues_contents (number + 1) later rest
      (Nat.le_succ (number + 1))
  rw [records_of_contents_eq hContents, hTotal,
    Contents.recordsFrom_cons, List.append_assoc,
    Contents.recordsAt_of_outside hOutside hRead]
  rfl

theorem records_cons_of_isInert
    (hInert : IsInert line) :
    records number properties (line :: rest) =
      records (number + 1) properties rest := by
  rw [records_cons_of_contents_eq
    (contents_cons_of_isInert hInert)]
  unfold recordsOutside
  rcases hInert with hKind | hKind
  · rw [hKind, List.nil_append]
  · rw [hKind, List.nil_append]

theorem records_cons_of_directive
    {directive : Directive}
    (hKind : classify line = .directive)
    (hRead : Directive.parse? line = some directive) :
    records number properties (line :: rest) =
      Parser.setting directive ::
        records (number + 1)
          (properties.insert directive.key directive.value)
          rest := by
  rw [records_cons_of_contents_eq
    (contents_cons_of_directive hKind hRead)]
  unfold recordsOutside
  rw [hKind, hRead]
  rfl

/- Behind a directive that cannot be read nothing is logged. -/
theorem records_cons_of_isMalformed
    (hMalformed : IsMalformed line) :
    records number properties (line :: rest) =
      Termination.closing
        (.malformedDirective (number + 1) line) := by
  let found : Contents :=
    .stop (.malformedDirective (number + 1) line) properties
  have hOutside :
      ∀ position, ¬ found.Continues position := by
    intro position
    simp [found, Contents.Continues, Termination.Continues]
  have hRest :
      found.recordsFrom (number + (line :: rest).length)
        (number + 1 + 1) rest = [] := by
    unfold Contents.recordsFrom
    rw [List.flatMap_eq_nil_iff]
    intro entry hEntry
    have hBehind := List.le_snd_of_mem_zipIdx hEntry
    exact Contents.recordsAt_of_unread (hOutside _) hBehind
  have hHead :
      found.recordsAt (number + (line :: rest).length)
        (number + 1) line = recordsOutside line :=
    Contents.recordsAt_of_outside (hOutside _)
      (Nat.le_refl (number + 1))
  have hFirst : recordsOutside line = [] := by
    unfold recordsOutside
    rw [hMalformed.1, hMalformed.2]
    rfl
  rw [records_of_contents_eq
      (contents_cons_of_isMalformed hMalformed),
    Contents.recordsFrom_cons, hHead, hFirst, hRest]
  rfl

/- The further lines of a statement are logged. -/
theorem records_cons_of_closed
    {tail after : List String}
    (hKind : classify line = .text)
    (hClosed :
      closeStatement? (line :: rest) =
        some (line :: tail, after)) :
    records number properties (line :: rest) =
      tail.map Parser.continuation ++
        records (number + (line :: tail).length) properties
          after := by
  let parsed : ParsedStatement :=
    { statement := statementAt (number + 1) (line :: tail)
      properties }
  let found :=
    contents (number + (line :: tail).length) properties after
  have hContents :
      contents number properties (line :: rest) =
        found.prepend parsed :=
    contents_cons_of_closed hKind hClosed
  have hLines : line :: tail ++ after = line :: rest :=
    append_eq_of_closeStatement?_eq_some hClosed
  have hTotal :
      number + (line :: rest).length =
        number + (line :: tail).length + after.length := by
    rw [← hLines, List.length_append]
    omega
  have hOutside :
      ¬ (found.prepend parsed).Continues (number + 1) := by
    rw [← hContents]
    exact not_continues_contents _ _ _ (Nat.le_refl _)
  have hLast :
      parsed.statement.endLine =
        number + (line :: tail).length := by
    simp only [parsed, statementAt]
    omega
  have hInside :
      ∀ position,
        number + 2 ≤ position →
        position < number + 2 + tail.length →
        (found.prepend parsed).Continues position := by
    intro position hFirst hBehind
    refine Or.inl ⟨parsed, List.mem_cons_self, ?_, ?_⟩
    · exact hFirst
    · rw [hLast, List.length_cons]
      omega
  have hAfter :
      (found.prepend parsed).recordsFrom
          (number + (line :: rest).length)
          (number + (line :: tail).length + 1) after =
        found.recordsFrom
          (number + (line :: tail).length + after.length)
          (number + (line :: tail).length + 1) after := by
    rw [hTotal]
    apply Contents.recordsFrom_congr
    intro position other hBehind
    apply Contents.recordsAt_prepend
    rw [hLast]
    exact hBehind
  have hStart :
      number + 1 + (line :: tail).length =
        number + (line :: tail).length + 1 := by
    omega
  have hBlock :
      (found.prepend parsed).recordsFrom
          (number + (line :: rest).length) (number + 1)
          (line :: tail) =
        tail.map Parser.continuation := by
    rw [Contents.recordsFrom_cons,
      Contents.recordsAt_of_text hOutside hKind,
      List.nil_append]
    exact Contents.recordsFrom_of_continues hInside
  have hRecords :
      (found.prepend parsed).recordsFrom
          (number + (line :: rest).length) (number + 1)
          (line :: rest) =
        tail.map Parser.continuation ++
          found.recordsFrom
            (number + (line :: tail).length + after.length)
            (number + (line :: tail).length + 1) after := by
    rw [← hBlock, ← hAfter, ← hStart,
      ← Contents.recordsFrom_append, hLines]
  rw [records_of_contents_eq hContents, hRecords,
    List.append_assoc]
  rfl

/- So are the further lines of one that stays open. -/
theorem records_cons_of_open
    (hKind : classify line = .text)
    (hOpen : closeStatement? (line :: rest) = none) :
    records number properties (line :: rest) =
      rest.map Parser.continuation ++
        Termination.closing
          (.incompleteStatement
            (incompleteAt (number + 1) (line :: rest))) := by
  have hContents :
      contents number properties (line :: rest) =
        .stop
          (.incompleteStatement
            (incompleteAt (number + 1) (line :: rest)))
          properties :=
    contents_cons_of_open hKind hOpen
  have hOutside :=
    not_continues_contents number properties (line :: rest)
      (Nat.le_refl _)
  rw [hContents] at hOutside
  rw [records_of_contents_eq hContents,
    Contents.recordsFrom_cons,
    Contents.recordsAt_of_text hOutside hKind,
    List.nil_append, Contents.recordsFrom_of_continues]
  · rfl
  · intro position hFirst _
    exact Or.inr hFirst

end Script

end KsqlBatch

------------------------------------------------------------
-- Open Statements
------------------------------------------------------------

namespace KsqlBatch

namespace Script

/-
  What is logged of lines behind a statement that is open:
  the lines up to its end, and then all that follows. If it
  has no end, it is the end of all lines.
-/
def recordsWithin
    (startLine : Nat)
    (linesRev : List String)
    (number : Nat)
    (properties : PropertyMap)
    (lines : List String) : List LogRecord :=
  match closeStatement? lines with
  | some (block, later) =>
      block.map Parser.continuation ++
        records (number + block.length) properties later
  | none =>
      lines.map Parser.continuation ++
        Termination.closing
          (.incompleteStatement
            { startLine
              fragment :=
                "\n".intercalate
                  (linesRev.reverse ++ lines) })

variable {number startLine : Nat}
variable {properties : PropertyMap}
variable {line : String}
variable {rest linesRev : List String}

/- A line that ends a statement is the last of its lines. -/
theorem recordsWithin_cons_of_ends
    (hEnds : endsStatement line = true) :
    recordsWithin startLine linesRev number properties
        (line :: rest) =
      Parser.continuation line ::
        records (number + 1) properties rest := by
  unfold recordsWithin
  rw [closeStatement?, if_pos hEnds]
  rfl

/- Any other line leaves the statement open. -/
theorem recordsWithin_cons_of_continues
    (hContinues : ¬ endsStatement line = true) :
    recordsWithin startLine linesRev number properties
        (line :: rest) =
      Parser.continuation line ::
        recordsWithin startLine (line :: linesRev)
          (number + 1) properties rest := by
  unfold recordsWithin
  rw [closeStatement?, if_neg hContinues]
  cases hRest : closeStatement? rest with
  | none => simp
  | some cut =>
      have hNumber :
          number + (line :: cut.1).length =
            number + 1 + cut.1.length := by
        rw [List.length_cons]
        omega
      simp only [hNumber, List.map_cons, List.cons_append]

/- A first line opens a statement unless it ends it as well. -/
theorem records_cons_of_ends
    (hKind : classify line = .text)
    (hEnds : endsStatement line = true) :
    records number properties (line :: rest) =
      records (number + 1) properties rest := by
  have hClosed :
      closeStatement? (line :: rest) = some ([line], rest) := by
    rw [closeStatement?, if_pos hEnds]
  exact records_cons_of_closed hKind hClosed

theorem records_cons_of_continues
    (hKind : classify line = .text)
    (hContinues : ¬ endsStatement line = true) :
    records number properties (line :: rest) =
      recordsWithin (number + 1) [line] (number + 1)
        properties rest := by
  unfold recordsWithin
  cases hRest : closeStatement? rest with
  | none =>
      have hOpen : closeStatement? (line :: rest) = none := by
        simp [closeStatement?, hContinues, hRest]
      exact records_cons_of_open hKind hOpen
  | some cut =>
      have hClosed :
          closeStatement? (line :: rest) =
            some (line :: cut.1, cut.2) := by
        simp [closeStatement?, hContinues, hRest]
      have hNumber :
          number + (line :: cut.1).length =
            number + 1 + cut.1.length := by
        rw [List.length_cons]
        omega
      rw [records_cons_of_closed hKind hClosed, hNumber]

end Script

end KsqlBatch

------------------------------------------------------------
-- Warnings and Errors
------------------------------------------------------------

namespace KsqlBatch

namespace Script

/-
  Of a line at most one record is written, which traces or
  sets something.
-/
theorem Contents.of_mem_recordsFrom
    {contents : Contents}
    {total first : Nat}
    {lines : List String}
    {record : LogRecord}
    (hRecord :
      record ∈ contents.recordsFrom total first lines) :
    (∃ line, record = Parser.continuation line) ∨
      ∃ directive, record = Parser.setting directive := by
  rcases List.mem_flatMap.mp hRecord with
    ⟨⟨line, number⟩, _, hLine⟩
  simp only [recordsAt] at hLine
  split at hLine
  · exact Or.inl ⟨line, List.mem_singleton.mp hLine⟩
  · split at hLine
    · unfold recordsOutside at hLine
      split at hLine
      · rcases List.mem_map.mp hLine with
          ⟨directive, _, rfl⟩
        exact Or.inr ⟨directive, rfl⟩
      · cases hLine
    · cases hLine

/- The records of a script are those of its lines and end. -/
theorem recordsOf_eq
    (text : String) :
    recordsOf text =
      (contentsOf text).recordsFrom
          (trimmedLines text).length 1 (trimmedLines text) ++
        (contentsOf text).termination.closing := by
  unfold recordsOf
  rw [records_of_contents_eq rfl, Nat.zero_add]
  rfl

/- Only the end of a script gives reason to complain. -/
theorem filter_recordsOf
    (text : String)
    {complains : LogRecord → Bool}
    (hContinuation :
      ∀ line, complains (Parser.continuation line) = false)
    (hSetting :
      ∀ directive,
        complains (Parser.setting directive) = false) :
    (recordsOf text).filter complains =
      (contentsOf text).termination.closing.filter
        complains := by
  have hLines :
      ((contentsOf text).recordsFrom
          (trimmedLines text).length 1
          (trimmedLines text)).filter complains = [] := by
    rw [List.filter_eq_nil_iff]
    intro record hRecord
    rw [Bool.not_eq_true]
    rcases Contents.of_mem_recordsFrom hRecord with
      ⟨line, rfl⟩ | ⟨directive, rfl⟩
    · exact hContinuation line
    · exact hSetting directive
  rw [recordsOf_eq, List.filter_append, hLines,
    List.nil_append]

/- There is one warning, if a directive cannot be read. -/
theorem filter_warn_recordsOf
    (text : String) :
    (recordsOf text).filter (fun record =>
        record.level = .warn) =
      match (contentsOf text).termination with
      | .malformedDirective _ line => [Parser.unmatched line]
      | _ => [] := by
  rw [filter_recordsOf text (fun _ => rfl) (fun _ => rfl)]
  cases (contentsOf text).termination <;> rfl

/- There is one error, if a statement stays open. -/
theorem filter_error_recordsOf
    (text : String) :
    (recordsOf text).filter (fun record =>
        record.level = .error) =
      match (contentsOf text).termination with
      | .incompleteStatement incomplete =>
          [Parser.cutOff incomplete]
      | _ => [] := by
  rw [filter_recordsOf text (fun _ => rfl) (fun _ => rfl)]
  cases (contentsOf text).termination <;> rfl

/- Of a line outside of statements nothing is traced. -/
theorem filter_trace_recordsOutside
    (line : String) :
    (recordsOutside line).filter (fun record =>
        record.level = .trace) = [] := by
  unfold recordsOutside
  split
  · cases Directive.parse? line <;> rfl
  · rfl

theorem Contents.filter_trace_recordsFrom
    (contents : Contents)
    (total first : Nat)
    (lines : List String) :
    (contents.recordsFrom total first lines).filter
        (fun record => record.level = .trace) =
      ((lines.zipIdx first).filter fun (_, number) =>
        contents.Continues number).map fun (line, _) =>
          Parser.continuation line := by
  induction lines generalizing first with
  | nil => rfl
  | cons line rest ih =>
      rw [recordsFrom_cons, List.filter_append, ih,
        List.zipIdx_cons, List.filter_cons]
      by_cases hContinues : contents.Continues first
      · rw [recordsAt_of_continues hContinues,
          if_pos (decide_eq_true hContinues)]
        rfl
      · rw [if_neg (by simpa using hContinues)]
        unfold recordsAt
        rw [if_neg hContinues]
        split
        · rw [filter_trace_recordsOutside, List.nil_append]
        · rfl

/- Each further line of a statement is traced. -/
theorem filter_trace_recordsOf
    (text : String) :
    (recordsOf text).filter (fun record =>
        record.level = .trace) =
      (((trimmedLines text).zipIdx 1).filter
        fun (_, number) =>
          (contentsOf text).Continues number).map
            fun (line, _) => Parser.continuation line := by
  have hClosing :
      (contentsOf text).termination.closing.filter
        (fun record => record.level = .trace) = [] := by
    cases (contentsOf text).termination <;> rfl
  rw [recordsOf_eq, List.filter_append, hClosing,
    List.append_nil, Contents.filter_trace_recordsFrom]

/- Setting something is not the end. -/
theorem finished_ne_setting
    (termination : Termination)
    (directive : Directive) :
    Parser.finished termination ≠
      Parser.setting directive := by
  intro hSame
  have hMessage := congrArg LogRecord.message hSame
  have hFirst :=
    congrArg (fun text => text.toList.head?) hMessage
  simp [Parser.finished, Parser.setting, Parser.record,
    String.toList_append] at hFirst

/- The last record alone says that the parser has finished. -/
theorem finished_not_mem
    (termination : Termination)
    (text : String) :
    let found := contentsOf text
    let lines := trimmedLines text
    Parser.finished termination ∉
      found.recordsFrom lines.length 1 lines ++
        found.termination.complaints := by
  intro found lines hMember
  rcases List.mem_append.mp hMember with hLine | hComplaint
  · rcases Contents.of_mem_recordsFrom hLine with
      ⟨line, hSame⟩ | ⟨directive, hSame⟩
    · cases congrArg LogRecord.level hSame
    · exact finished_ne_setting _ _ hSame
  · rcases Termination.of_mem_complaints hComplaint with
      ⟨line, hSame⟩ | ⟨incomplete, hSame⟩
    · cases congrArg LogRecord.level hSame
    · cases congrArg LogRecord.level hSame

end Script

end KsqlBatch

------------------------------------------------------------
-- Names on Records
------------------------------------------------------------

namespace KsqlBatch

/- The parser stops in its own name. -/
theorem Termination.source_of_mem_closing
    {termination : Termination}
    {record : LogRecord}
    (hRecord : record ∈ termination.closing) :
    record.source = .parser := by
  rcases List.mem_append.mp hRecord with
    hComplaint | hFinished
  · rcases of_mem_complaints hComplaint with
      ⟨line, rfl⟩ | ⟨incomplete, rfl⟩
    · rfl
    · rfl
  · rw [List.mem_singleton.mp hFinished]
    rfl

namespace Script

variable {number startLine : Nat}
variable {properties : PropertyMap}
variable {lines linesRev : List String}
variable {record : LogRecord}

theorem source_of_mem_records
    (hRecord : record ∈ records number properties lines) :
    record.source = .parser := by
  rcases List.mem_append.mp hRecord with hLine | hClosing
  · rcases Contents.of_mem_recordsFrom hLine with
      ⟨line, rfl⟩ | ⟨directive, rfl⟩
    · rfl
    · rfl
  · exact Termination.source_of_mem_closing hClosing

theorem source_of_mem_recordsWithin
    (hRecord :
      record ∈
        recordsWithin startLine linesRev number properties
          lines) :
    record.source = .parser := by
  have hContinuation :
      ∀ {block : List String},
        record ∈ block.map Parser.continuation →
        record.source = .parser := by
    intro block hLine
    rcases List.mem_map.mp hLine with ⟨line, _, rfl⟩
    rfl
  unfold recordsWithin at hRecord
  split at hRecord
  · rcases List.mem_append.mp hRecord with hLine | hLater
    · exact hContinuation hLine
    · exact source_of_mem_records hLater
  · rcases List.mem_append.mp hRecord with hLine | hClosing
    · exact hContinuation hLine
    · exact Termination.source_of_mem_closing hClosing

end Script

end KsqlBatch
