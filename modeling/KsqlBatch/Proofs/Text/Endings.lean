import KsqlBatch.Proofs.Text.Lines
import Mathlib.Data.List.TakeWhile

/-
  This file writes texts as lines with their ends. Cutting a
  text that is written in this way gives back the lines, and
  every text is written in exactly one way, provided that no
  carriage return stands apart from a line feed behind it.

  Key definitions include:
    * `LineEnd`
    * `EndedLine`
    * `EndedLine.join`
    * `EndedLine.unlines`
    * `EndedLine.AreWhole`

  Key theorems include:
    * `EndedLine.AreWhole.lines_join`
    * `EndedLine.AreWhole.eq_of_join_eq`
    * `EndedLine.exists_areWhole`
-/

------------------------------------------------------------
-- Lines with Ends
------------------------------------------------------------

namespace KsqlBatch

/- How a line ends. The end of the text may end the last one. -/
inductive LineEnd where
| lineFeed
| carriageReturn
| both
| absent
deriving DecidableEq, Repr, Inhabited

/- The characters that end a line. -/
def LineEnd.text : LineEnd → String
| .lineFeed => "\n"
| .carriageReturn => "\r"
| .both => "\r\n"
| .absent => ""

/- A line and its end. -/
@[ext]
structure EndedLine where
  line : String
  ending : LineEnd
deriving DecidableEq, Repr, Inhabited

namespace EndedLine

/- A line with a line feed behind it. -/
def fed
    (line : String) : EndedLine where
  line := line
  ending := .lineFeed

/- The text of a line and its end. -/
def text
    (piece : EndedLine) : String :=
  piece.line ++ piece.ending.text

/- The text of lines with their ends. -/
def join
    (pieces : List EndedLine) : String :=
  String.join (pieces.map text)

/- The text of lines with a line feed behind each of them. -/
def unlines
    (lines : List String) : String :=
  join (lines.map fed)

/-
  A line is seen to end where it does, given the lines behind
  it: a carriage return that ends it has no line feed behind
  it, and without any end it is the last line and not empty.
-/
structure IsWhole
    (piece : EndedLine)
    (later : List EndedLine) : Prop where
  isLine : Text.IsLine piece.line.toList
  no_feed_behind :
    piece.ending = .carriageReturn →
    (join later).toList.head? ≠ some '\n'
  last_of_absent :
    piece.ending = .absent →
    later = [] ∧ piece.line ≠ ""

instance
    (piece : EndedLine)
    (later : List EndedLine) :
    Decidable (piece.IsWhole later) :=
  decidable_of_iff
    (Text.IsLine piece.line.toList ∧
      (piece.ending = .carriageReturn →
        (join later).toList.head? ≠ some '\n') ∧
      (piece.ending = .absent →
        later = [] ∧ piece.line ≠ ""))
    ⟨fun ⟨hLine, hFeed, hLast⟩ =>
        ⟨hLine, hFeed, hLast⟩,
      fun ⟨hLine, hFeed, hLast⟩ =>
        ⟨hLine, hFeed, hLast⟩⟩

/- All lines are seen to end where they do. -/
def AreWhole : List EndedLine → Prop
| [] => True
| piece :: later => piece.IsWhole later ∧ AreWhole later

instance instDecidableAreWhole :
    (pieces : List EndedLine) →
    Decidable (AreWhole pieces)
| [] => inferInstanceAs (Decidable True)
| piece :: later =>
    have := instDecidableAreWhole later
    inferInstanceAs
      (Decidable (piece.IsWhole later ∧ AreWhole later))

@[simp] theorem join_nil :
    join [] = "" := rfl

@[simp] theorem toList_join_cons
    (piece : EndedLine)
    (later : List EndedLine) :
    (join (piece :: later)).toList =
      piece.line.toList ++
        (piece.ending.text.toList ++
          (join later).toList) := by
  simp [join, text]

end EndedLine

end KsqlBatch

------------------------------------------------------------
-- Cutting
------------------------------------------------------------

namespace KsqlBatch

namespace Text

/- A line is put in front of what is cut at its beginning. -/
theorem splitLines_isLine_append
    {line rest : List Char}
    {later : List (List Char)}
    (hLine : IsLine line)
    (hRest : splitLines rest = [] :: later) :
    splitLines (line ++ rest) = line :: later := by
  induction line with
  | nil => exact hRest
  | cons c line ih =>
      simp only [IsLine, List.mem_cons, not_or] at hLine
      rw [List.cons_append, splitLines_cons,
        ih ⟨hLine.1.2, hLine.2.2⟩]
      simp [addToLines, Ne.symm hLine.1.1,
        Ne.symm hLine.2.1]

/- A carriage return alone ends a line like a line feed. -/
theorem splitLines_carriageReturn
    {rest : List Char}
    (hRest : rest.head? ≠ some '\n') :
    splitLines ('\r' :: rest) = [] :: splitLines rest := by
  simp [splitLines_cons, addToLines, hRest]

/- A text within one line is the only line. -/
theorem splitLines_of_isLine
    {line : List Char}
    (hLine : IsLine line)
    (hNotEmpty : line ≠ []) :
    splitLines line = [line] := by
  have hOpen : ¬ EndsLine line := by
    rintro (hEmpty | hFeed | hReturn)
    · exact hNotEmpty hEmpty
    · exact hLine.1 (List.mem_of_getLast? hFeed)
    · exact hLine.2 (List.mem_of_getLast? hReturn)
  rw [← splitLines_append_last_lineFeed hOpen]
  exact splitLines_isLine_append hLine rfl

end Text

namespace EndedLine

variable {piece : EndedLine}
variable {pieces later others : List EndedLine}

/- A line that is seen to end is cut off from what follows. -/
theorem IsWhole.splitLines_join_cons
    (hWhole : piece.IsWhole later) :
    Text.splitLines (join (piece :: later)).toList =
      piece.line.toList ::
        Text.splitLines (join later).toList := by
  rw [toList_join_cons]
  cases hEnding : piece.ending with
  | lineFeed =>
      exact
        Text.splitLines_isLine_append hWhole.isLine
          (Text.splitLines_lineFeed _)
  | carriageReturn =>
      exact
        Text.splitLines_isLine_append hWhole.isLine
          (Text.splitLines_carriageReturn
            (hWhole.no_feed_behind hEnding))
  | both =>
      exact
        Text.splitLines_isLine_append hWhole.isLine
          (Text.splitLines_carriageReturn_lineFeed _)
  | absent =>
      rcases hWhole.last_of_absent hEnding with
        ⟨rfl, hNotEmpty⟩
      have hChars : piece.line.toList ≠ [] := by
        simpa using hNotEmpty
      simpa [LineEnd.text] using
        Text.splitLines_of_isLine hWhole.isLine hChars

/- Cutting gives back the lines that a text is written from. -/
theorem AreWhole.lines_join
    (hWhole : AreWhole pieces) :
    Text.lines (join pieces) = pieces.map (·.line) := by
  induction pieces with
  | nil => rfl
  | cons piece later ih =>
      have hLater := ih hWhole.2
      rw [Text.lines] at hLater ⊢
      rw [hWhole.1.splitLines_join_cons, List.map_cons,
        hLater, String.ofList_toList, List.map_cons]

/- Lines with line feeds are seen to end where they do. -/
theorem areWhole_map_fed
    {lines : List String}
    (hLines : ∀ line ∈ lines, Text.IsLine line.toList) :
    AreWhole (lines.map fed) := by
  induction lines with
  | nil => trivial
  | cons line lines ih =>
      rw [List.forall_mem_cons] at hLines
      exact ⟨⟨hLines.1, nofun, nofun⟩, ih hLines.2⟩

theorem lines_unlines
    {lines : List String}
    (hLines : ∀ line ∈ lines, Text.IsLine line.toList) :
    Text.lines (unlines lines) = lines := by
  rw [unlines, (areWhole_map_fed hLines).lines_join,
    List.map_map]
  exact List.map_id lines

/- Only a text without lines is empty. -/
theorem AreWhole.eq_nil_of_toList_join_eq_nil
    (hWhole : AreWhole pieces)
    (hEmpty : (join pieces).toList = []) :
    pieces = [] := by
  have hLines := hWhole.lines_join
  rw [Text.lines, hEmpty] at hLines
  exact List.map_eq_nil_iff.mp hLines.symm

end EndedLine

end KsqlBatch

------------------------------------------------------------
-- Uniqueness
------------------------------------------------------------

namespace KsqlBatch

/- The end of a line, by the text that begins with it. -/
def LineEnd.atFrontOf : List Char → LineEnd
| '\n' :: _ => .lineFeed
| '\r' :: '\n' :: _ => .both
| '\r' :: _ => .carriageReturn
| _ => .absent

namespace EndedLine

variable {piece other : EndedLine}
variable {pieces later others : List EndedLine}

/- The end of a line can be told from the text behind it. -/
theorem IsWhole.atFrontOf_eq
    (hWhole : piece.IsWhole later) :
    LineEnd.atFrontOf
        (piece.ending.text.toList ++ (join later).toList) =
      piece.ending := by
  cases hEnding : piece.ending with
  | lineFeed => rfl
  | both => rfl
  | carriageReturn =>
      have hRest := hWhole.no_feed_behind hEnding
      generalize (join later).toList = rest at hRest
      cases rest with
      | nil => rfl
      | cons c rest =>
          have hFeed : c ≠ '\n' := by simpa using hRest
          simp [LineEnd.text, LineEnd.atFrontOf, hFeed]
  | absent =>
      rw [(hWhole.last_of_absent hEnding).1]
      rfl

/- A text is written from lines with their ends in one way. -/
theorem AreWhole.eq_of_join_eq
    (hPieces : AreWhole pieces)
    (hOthers : AreWhole others)
    (hSame : join pieces = join others) :
    pieces = others := by
  have hLines : pieces.map (·.line) = others.map (·.line) := by
    rw [← hPieces.lines_join, ← hOthers.lines_join, hSame]
  induction pieces generalizing others with
  | nil =>
      have hNone : others = [] := by simpa using hLines
      rw [hNone]
  | cons piece pieces ih =>
      cases others with
      | nil => simp at hLines
      | cons other others =>
          rw [List.map_cons, List.map_cons,
            List.cons.injEq] at hLines
          have hText := congrArg String.toList hSame
          rw [toList_join_cons, toList_join_cons, hLines.1,
            List.append_cancel_left_eq] at hText
          have hEnding : piece.ending = other.ending := by
            rw [← hPieces.1.atFrontOf_eq, hText,
              hOthers.1.atFrontOf_eq]
          rw [hEnding, List.append_cancel_left_eq,
            String.toList_inj] at hText
          rw [EndedLine.ext hLines.1 hEnding,
            ih hPieces.2 hOthers.2 hText hLines.2]

end EndedLine

end KsqlBatch

------------------------------------------------------------
-- Existence
------------------------------------------------------------

namespace KsqlBatch

namespace Text

/- A text begins with a line, behind which its end begins. -/
theorem exists_line_append
    (cs : List Char) :
    ∃ line rest,
      cs = line ++ rest ∧
      IsLine line ∧
      ∀ c ∈ rest.head?, c = '\n' ∨ c = '\r' := by
  let inLine : Char → Bool := fun c => c ≠ '\n' ∧ c ≠ '\r'
  refine
    ⟨cs.takeWhile inLine, cs.dropWhile inLine,
      (List.takeWhile_append_dropWhile).symm, ⟨?_, ?_⟩, ?_⟩
  · intro hFeed
    simpa [inLine] using List.mem_takeWhile_imp hFeed
  · intro hReturn
    simpa [inLine] using List.mem_takeWhile_imp hReturn
  · intro c hHead
    have hStops := List.head?_dropWhile_not inLine cs
    rw [Option.mem_def.mp hHead] at hStops
    by_cases hFeed : c = '\n'
    · exact Or.inl hFeed
    · exact Or.inr (by simpa [inLine, hFeed] using hStops)

end Text

namespace EndedLine

/- A text that is not empty begins with a line and its end. -/
theorem exists_first
    {cs : List Char}
    (hText : cs ≠ []) :
    ∃ (piece : EndedLine) (rest : List Char),
      cs = piece.text.toList ++ rest ∧
      rest.length < cs.length ∧
      Text.IsLine piece.line.toList ∧
      (piece.ending = .carriageReturn →
        rest.head? ≠ some '\n') ∧
      (piece.ending = .absent →
        rest = [] ∧ piece.line ≠ "") := by
  rcases Text.exists_line_append cs with
    ⟨line, rest, rfl, hLine, hRest⟩
  have hIsLine : Text.IsLine (String.ofList line).toList := by
    simpa using hLine
  cases rest with
  | nil =>
      rw [List.append_nil] at hText ⊢
      refine
        ⟨{ line := String.ofList line, ending := .absent },
          [], ?_, ?_, hIsLine, nofun, ?_⟩
      · simp [text, LineEnd.text]
      · exact List.length_pos_iff.mpr hText
      · intro _
        exact ⟨rfl, by simpa using hText⟩
  | cons c rest =>
      rcases hRest c rfl with rfl | rfl
      · refine
          ⟨{ line := String.ofList line
             ending := .lineFeed },
            rest, ?_, ?_, hIsLine, nofun, nofun⟩
        · simp [text, LineEnd.text]
        · simp only [List.length_append, List.length_cons]
          omega
      by_cases hFeed : rest.head? = some '\n'
      · rcases List.head?_eq_some_iff.mp hFeed with
          ⟨rest, rfl⟩
        refine
          ⟨{ line := String.ofList line, ending := .both },
            rest, ?_, ?_, hIsLine, nofun, nofun⟩
        · simp [text, LineEnd.text]
        · simp only [List.length_append, List.length_cons]
          omega
      · refine
          ⟨{ line := String.ofList line
             ending := .carriageReturn },
            rest, ?_, ?_, hIsLine, fun _ => hFeed, nofun⟩
        · simp [text, LineEnd.text]
        · simp only [List.length_append, List.length_cons]
          omega

/-
  Every text is written from lines with their ends. The
  induction is on the length of the text: behind the end of
  its first line a shorter text is left.
-/
theorem exists_areWhole_of_length
    (length : Nat)
    (cs : List Char)
    (hLength : cs.length = length) :
    ∃ pieces,
      AreWhole pieces ∧ (join pieces).toList = cs := by
  induction length using Nat.strongRecOn generalizing cs with
  | _ length ih =>
      by_cases hEmpty : cs = []
      · exact ⟨[], trivial, hEmpty.symm⟩
      rcases exists_first hEmpty with
        ⟨piece, rest, rfl, hShorter, hLine, hFeed, hLast⟩
      rcases ih rest.length (hLength ▸ hShorter) rest rfl with
        ⟨later, hLater, rfl⟩
      have hPiece : piece.IsWhole later := by
        refine ⟨hLine, hFeed, ?_⟩
        intro hAbsent
        rcases hLast hAbsent with ⟨hEnd, hNotEmpty⟩
        exact
          ⟨hLater.eq_nil_of_toList_join_eq_nil hEnd,
            hNotEmpty⟩
      exact
        ⟨piece :: later, ⟨hPiece, hLater⟩, by simp [text]⟩

/- Every text is written from lines with their ends. -/
theorem exists_areWhole
    (text : String) :
    ∃ pieces, AreWhole pieces ∧ join pieces = text := by
  rcases exists_areWhole_of_length _ text.toList rfl with
    ⟨pieces, hWhole, hJoin⟩
  exact ⟨pieces, hWhole, String.toList_inj.mp hJoin⟩

end EndedLine

end KsqlBatch
