import KsqlBatch.Proofs.Script.Contents
import KsqlBatch.Proofs.Text.Endings

/-
  This file follows a cursor through any number of calls. The
  calls yield the lines that a text is written from, each of
  them once and with its number, and from then on nothing.

  Key definitions include:
    * `LineCursor.call`
    * `LineCursor.after`

  Key theorems include:
    * `LineCursor.after_eq`
    * `LineCursor.nextLine?_after`
    * `EndedLine.AreWhole.trimmedLines_join`

  The main result is `LineCursor.yields_unique_lines`.
-/

------------------------------------------------------------
-- Calls
------------------------------------------------------------

namespace KsqlBatch

namespace LineCursor

/- The cursor behind a call, which may find nothing to read. -/
def call
    (cursor : LineCursor) : LineCursor :=
  match cursor.nextLine? with
  | none => cursor
  | some (_, next) => next

/- The cursor behind a number of calls. -/
def after
    (cursor : LineCursor) : (calls : Nat) → LineCursor
| 0 => cursor
| calls + 1 => cursor.call.after calls

/- A call takes the next line away and counts it. -/
theorem call_eq
    (cursor : LineCursor) :
    cursor.call =
      { pending := cursor.pending.drop 1
        lineNumber :=
          cursor.lineNumber +
            min 1 cursor.pending.length } := by
  rcases cursor with ⟨pending, lineNumber⟩
  cases pending with
  | nil => rfl
  | cons line pending =>
      simp [call, nextLine?]

/- Calls take lines away and count them while there are any. -/
theorem after_eq
    (cursor : LineCursor)
    (calls : Nat) :
    cursor.after calls =
      { pending := cursor.pending.drop calls
        lineNumber :=
          cursor.lineNumber +
            min calls cursor.pending.length } := by
  induction calls generalizing cursor with
  | zero => simp [after]
  | succ calls ih =>
      rw [after, ih, call_eq]
      simp only [List.drop_drop, List.length_drop,
        mk.injEq]
      constructor
      · rw [Nat.add_comm]
      · omega

/- What a call yields is the next of the lines to come. -/
theorem nextLine?_after
    (cursor : LineCursor)
    (calls : Nat) :
    (cursor.after calls).nextLine? =
      cursor.pending[calls]?.map fun line =>
        (line, cursor.after (calls + 1)) := by
  cases hLine : cursor.pending[calls]? with
  | none =>
      have hEnd : cursor.pending.drop calls = [] :=
        List.drop_eq_nil_of_le
          (List.getElem?_eq_none_iff.mp hLine)
      simp [nextLine?, after_eq, hEnd]
  | some line =>
      rcases List.getElem?_eq_some_iff.mp hLine with
        ⟨hBound, hGet⟩
      have hDrop :
          cursor.pending.drop calls =
            line :: cursor.pending.drop (calls + 1) := by
        rw [List.drop_eq_getElem_cons hBound, hGet]
      simp only [nextLine?, after_eq, hDrop, Option.map_some,
        Option.some.injEq, Prod.mk.injEq, mk.injEq, true_and]
      omega

end LineCursor

end KsqlBatch

------------------------------------------------------------
-- Texts
------------------------------------------------------------

namespace KsqlBatch

namespace LineCursor

/-
  Every text is written in one way from lines and their ends.
  The calls of a cursor in front of the text yield just these
  lines and count them, and when they have been read no call
  yields anything or counts on.
-/
theorem yields_unique_lines
    (text : String) :
    ∃ pieces : List EndedLine,
      EndedLine.AreWhole pieces ∧
      EndedLine.join pieces = text ∧
      (∀ others,
        EndedLine.AreWhole others →
        EndedLine.join others = text →
        others = pieces) ∧
      (∀ calls piece,
        pieces[calls]? = some piece →
        ((ofText text).after calls).nextLine? =
            some
              (piece.line, (ofText text).after (calls + 1)) ∧
          ((ofText text).after (calls + 1)).lineNumber =
            calls + 1) ∧
      (∀ calls,
        pieces.length ≤ calls →
        ((ofText text).after calls).nextLine? = none ∧
          ((ofText text).after calls).lineNumber =
            pieces.length) ∧
      (pieces = [] ↔ text = "") := by
  rcases EndedLine.exists_areWhole text with
    ⟨pieces, hWhole, hJoin⟩
  have hPending :
      (ofText text).pending = pieces.map (·.line) := by
    rw [← hJoin]
    exact hWhole.lines_join
  have hNumber (calls : Nat) :
      ((ofText text).after calls).lineNumber =
        min calls pieces.length := by
    rw [after_eq, hPending, List.length_map]
    exact Nat.zero_add _
  refine ⟨pieces, hWhole, hJoin, ?_, ?_, ?_, ?_⟩
  · intro others hOthers hSame
    exact hOthers.eq_of_join_eq hWhole (hSame.trans hJoin.symm)
  · intro calls piece hPiece
    have hBound := (List.getElem?_eq_some_iff.mp hPiece).1
    rw [nextLine?_after, hPending, List.getElem?_map, hPiece,
      hNumber]
    exact ⟨rfl, Nat.min_eq_left hBound⟩
  · intro calls hEnd
    rw [nextLine?_after, hPending, List.getElem?_map,
      List.getElem?_eq_none hEnd, hNumber]
    exact ⟨rfl, Nat.min_eq_right hEnd⟩
  · constructor
    · intro hNone
      rw [← hJoin, hNone]
      rfl
    · intro hEmpty
      refine hWhole.eq_nil_of_toList_join_eq_nil ?_
      rw [hJoin, hEmpty]
      rfl

end LineCursor

namespace EndedLine

/- The lines of a script are those that it is written from. -/
theorem AreWhole.trimmedLines_join
    {pieces : List EndedLine}
    (hWhole : AreWhole pieces) :
    Script.trimmedLines (join pieces) =
      pieces.map fun piece =>
        Script.trimLine piece.line := by
  rw [Script.trimmedLines, LineCursor.ofText,
    LineCursor.yields_eq, hWhole.lines_join, List.map_map]
  rfl

theorem trimmedLines_unlines
    {lines : List String}
    (hLines : ∀ line ∈ lines, Text.IsLine line.toList) :
    Script.trimmedLines (unlines lines) =
      lines.map Script.trimLine := by
  rw [Script.trimmedLines, LineCursor.ofText,
    LineCursor.yields_eq, lines_unlines hLines]

end EndedLine

end KsqlBatch
