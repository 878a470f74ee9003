import KsqlBatch.Proofs.Script.Calls
import KsqlBatch.Proofs.Script.Canonical
import KsqlBatch.Proofs.Script.Directives
import KsqlBatch.Proofs.Script.Properties

/-
  This file writes scripts from directives and statements and
  shows that reading them gives back the statements, each at
  its place and with the properties that are set before it.

  Key definitions include:
    * `ScriptItem`
    * `ScriptItem.IsReadable`
    * `ScriptItem.renderAll`
    * `ScriptItem.parsedBehind`
    * `ScriptItem.readings`

  The main result is `parseStatements_renderAll`.
-/

------------------------------------------------------------
-- Items
------------------------------------------------------------

namespace KsqlBatch

/- A part of a script: a directive, or a statement. -/
inductive ScriptItem where
| directive (pair : Script.Directive)
| statement (text : String)
deriving DecidableEq, Repr, Inhabited

namespace ScriptItem

/- The text of an item. -/
def render : ScriptItem → String
| .directive pair => pair.render
| .statement text => text

/- The item is written in a form that is read back. -/
def IsReadable : ScriptItem → Prop
| .directive pair => pair.IsSafe
| .statement text => Script.IsCanonical text

instance
    (item : ScriptItem) :
    Decidable item.IsReadable := by
  cases item <;>
    (unfold IsReadable
     infer_instance)

/- The directive that an item is. -/
def directive? : ScriptItem → Option Script.Directive
| .directive pair => some pair
| .statement _ => none

/- The text of the statement that an item is. -/
def statement? : ScriptItem → Option String
| .directive _ => none
| .statement text => some text

/- A script: items, each of them with a line feed behind it. -/
def renderAll
    (items : List ScriptItem) : String :=
  String.join (items.map fun item => item.render ++ "\n")

/- How many lines some items are written on. -/
def lineCount
    (items : List ScriptItem) : Nat :=
  (renderAll items).toList.count '\n'

/-
  What a statement behind some items is read as. Its lines
  count on from theirs, and their directives have set its
  properties.
-/
def parsedBehind
    (before : List ScriptItem)
    (text : String) : ParsedStatement :=
  let startLine := 1 + lineCount before
  { statement :=
      { text
        startLine
        endLine := startLine + text.toList.count '\n' }
    properties :=
      PropertyMap.empty.applyAll
        (before.filterMap directive?) }

/- What the statements behind some items are read as. -/
def readings
    (before : List ScriptItem) :
    List ScriptItem → List ParsedStatement
| [] => []
| .directive pair :: later =>
    readings (before ++ [.directive pair]) later
| .statement text :: later =>
    parsedBehind before text ::
      readings (before ++ [.statement text]) later

/- The statements are read in order, and no others. -/
theorem map_text_readings
    (before items : List ScriptItem) :
    (readings before items).map (·.statement.text) =
      items.filterMap statement? := by
  induction items generalizing before with
  | nil => rfl
  | cons item later ih =>
      cases item with
      | directive pair => exact ih _
      | statement text => exact congrArg (text :: ·) (ih _)

end ScriptItem

end KsqlBatch

------------------------------------------------------------
-- Lines of Items
------------------------------------------------------------

namespace KsqlBatch

namespace ScriptItem

variable {item : ScriptItem}
variable {items : List ScriptItem}

/- The lines that an item takes up. -/
def lines : ScriptItem → List String
| .directive pair => [pair.render]
| .statement text => Script.rows text

/- A safe directive is one line. -/
theorem isLine_render_of_isSafe
    {pair : Script.Directive}
    (hSafe : pair.IsSafe) :
    Text.IsLine pair.render.toList := by
  have hKey := hSafe.key_line
  have hValue := hSafe.value_line
  simp only [Text.IsLine, Script.Directive.toList_render,
    List.mem_cons, List.mem_append] at hKey hValue ⊢
  simp [hKey, hValue]

theorem isTrimmed_render
    (pair : Script.Directive) :
    Script.IsTrimmed pair.render := by
  unfold Script.IsTrimmed
  rw [Script.Directive.toList_render]
  constructor
  · intro c hFirst
    cases hFirst
    rfl
  · intro c hLast
    have hEnd : c = ';' := by
      simpa [List.getLast?_cons, List.getLast?_append]
        using hLast.symm
    rw [hEnd]
    rfl

theorem IsReadable.no_return
    (hReadable : item.IsReadable) :
    '\r' ∉ item.render.toList := by
  cases item with
  | directive pair =>
      exact (isLine_render_of_isSafe hReadable).2
  | statement text =>
      exact Script.IsCanonical.no_return hReadable

theorem IsReadable.rows_render
    (hReadable : item.IsReadable) :
    Script.rows item.render = item.lines := by
  cases item with
  | directive pair =>
      exact
        Script.rows_of_isLine
          (isLine_render_of_isSafe hReadable)
  | statement text => rfl

/- The lines of an item need no trimming. -/
theorem IsReadable.map_trimLine_lines
    (hReadable : item.IsReadable) :
    item.lines.map Script.trimLine = item.lines := by
  cases item with
  | directive pair =>
      simp only [lines, List.map_singleton,
        Script.trimLine_of_isTrimmed
          (isTrimmed_render pair)]
  | statement text =>
      exact Script.IsCanonical.map_trimLine hReadable

/- A script has the lines of its items, one after another. -/
theorem lines_renderAll
    (hReadable : ∀ item ∈ items, item.IsReadable) :
    Text.lines (renderAll items) = items.flatMap lines := by
  induction items with
  | nil => rfl
  | cons item items ih =>
      rw [List.forall_mem_cons] at hReadable
      have hSplit :
          renderAll (item :: items) =
            item.render ++ "\n" ++ renderAll items := by
        apply String.toList_inj.mp
        simp [renderAll]
      rw [hSplit,
        Script.lines_append_lineFeed hReadable.1.no_return,
        hReadable.1.rows_render, ih hReadable.2,
        List.flatMap_cons]

theorem trimmedLines_renderAll
    (hReadable : ∀ item ∈ items, item.IsReadable) :
    Script.trimmedLines (renderAll items) =
      items.flatMap lines := by
  rw [Script.trimmedLines, LineCursor.ofText,
    LineCursor.yields_eq, lines_renderAll hReadable,
    List.map_flatMap, List.flatMap_def, List.flatMap_def]
  refine congrArg List.flatten (List.map_congr_left ?_)
  intro item hItem
  exact (hReadable item hItem).map_trimLine_lines

/- A further item adds its own lines. -/
theorem lineCount_append
    (before : List ScriptItem)
    (hReadable : item.IsReadable) :
    lineCount (before ++ [item]) =
      lineCount before + item.lines.length := by
  rw [← hReadable.rows_render, Script.length_rows]
  simp [lineCount, renderAll]

end ScriptItem

end KsqlBatch

------------------------------------------------------------
-- Reading Items
------------------------------------------------------------

namespace KsqlBatch

namespace ScriptItem

variable {items : List ScriptItem}

/- The contents of a script behind some items. -/
def contentsBehind
    (before items : List ScriptItem) : Script.Contents where
  statements := readings before items
  termination := .exhausted
  properties :=
    PropertyMap.empty.applyAll
      ((before ++ items).filterMap directive?)

theorem contentsBehind_directive
    (before later : List ScriptItem)
    (pair : Script.Directive) :
    contentsBehind before (.directive pair :: later) =
      contentsBehind (before ++ [.directive pair]) later := by
  simp [contentsBehind, readings]

theorem contentsBehind_statement
    (before later : List ScriptItem)
    (text : String) :
    contentsBehind before (.statement text :: later) =
      (contentsBehind (before ++ [.statement text])
        later).prepend (parsedBehind before text) := by
  simp [contentsBehind, readings, Script.Contents.prepend]

/- The lines of items contain the statements among them. -/
theorem contents_lines
    (before : List ScriptItem)
    (hItems : ∀ item ∈ items, item.IsReadable) :
    Script.contents (lineCount before)
        (PropertyMap.empty.applyAll
          (before.filterMap directive?))
        (items.flatMap lines) =
      contentsBehind before items := by
  induction items generalizing before with
  | nil => simp [contentsBehind, readings, Script.Contents.stop]
  | cons item later ih =>
      rw [List.forall_mem_cons] at hItems
      have hRest := ih (before ++ [item]) hItems.2
      rw [lineCount_append before hItems.1,
        List.filterMap_append, PropertyMap.applyAll_append]
        at hRest
      rw [List.flatMap_cons]
      cases item with
      | directive pair =>
          have hKind :
              Script.classify pair.render =
                .directive := by
            refine Script.classify_eq_directive ?_
            rw [Script.Directive.toList_render]
            exact ⟨_, rfl⟩
          have hRead :
              Script.Directive.parse? pair.render =
                some pair :=
            Script.Directive.IsSafe.parse?_render hItems.1
          rw [contentsBehind_directive, ← hRest]
          exact Script.contents_cons_of_directive hKind hRead
      | statement text =>
          have hCanonical : Script.IsCanonical text :=
            hItems.1
          rcases hCanonical.exists_first with
            ⟨line, others, hRows, hKind⟩
          have hClosed :=
            hCanonical.closeStatement?_rows
              (later.flatMap lines)
          simp only [lines] at hRest ⊢
          rw [hRows, List.cons_append] at hClosed
          rw [hRows, List.cons_append,
            Script.contents_cons_of_closed hKind hClosed,
            ← hRows]
          simp only [List.filterMap_cons, directive?,
            List.filterMap_nil, PropertyMap.applyAll_nil]
            at hRest
          rw [hRest, contentsBehind_statement, parsedBehind,
            Script.statementAt_rows, Nat.add_comm]

end ScriptItem

/-
  A script that is written from readable items is read to its
  end. Its statements are the ones among the items, with the
  lines they take up and with the properties that the
  directives before them set.
-/
theorem parseStatements_renderAll
    (items : List ScriptItem)
    (hReadable : ∀ item ∈ items, item.IsReadable) :
    (parseStatements
        (ScriptItem.renderAll items)).termination =
        some .exhausted ∧
      (parseStatements
        (ScriptItem.renderAll items)).statements =
        ScriptItem.readings [] items ∧
      (parseStatements
        (ScriptItem.renderAll items)).statements.map
          (·.statement.text) =
        items.filterMap ScriptItem.statement? := by
  have hContents :
      Script.contentsOf (ScriptItem.renderAll items) =
        ScriptItem.contentsBehind [] items := by
    rw [Script.contentsOf,
      ScriptItem.trimmedLines_renderAll hReadable]
    exact ScriptItem.contents_lines [] hReadable
  rw [termination_parseStatements,
    statements_parseStatements, hContents]
  exact
    ⟨rfl, rfl, ScriptItem.map_text_readings [] items⟩

/-
  Keys may hold quotes and signs, values quotes, and the rows
  of a statement directives and comments.
-/
theorem parseStatements_of_awkward_items :
    (parseStatements
        (ScriptItem.renderAll
          [.directive ⟨"k' = 'x", "a"⟩,
            .statement "SELECT 1\nSET 'a' = 'b'\n\n-- no\nx;",
            .directive ⟨"k' = 'x", "it's = 'b"⟩,
            .directive ⟨"", "';"⟩,
            .statement "y;"])).statements =
      [{ statement :=
          { text := "SELECT 1\nSET 'a' = 'b'\n\n-- no\nx;"
            startLine := 2
            endLine := 6 }
         properties :=
          PropertyMap.empty.insert "k' = 'x" "a" },
        { statement :=
          { text := "y;"
            startLine := 9
            endLine := 9 }
          properties :=
            (PropertyMap.empty.insert "" "';").insert
              "k' = 'x" "it's = 'b" }] := by
  rw [(parseStatements_renderAll _ (by decide +kernel)).2.1]
  decide +kernel

end KsqlBatch
