import KsqlBatch.Proofs.Settings.Precedence
import KsqlBatch.Proofs.Text.Blank

/-
  This file says how a properties text is written line by
  line: blank lines, comments, and pairs of a name and a
  value with neither blanks nor backslashes in them. A line
  feed ends a line, a carriage return may stand in front of
  it, and the last line may do without. Every pair is read as
  it is written.

  Key definitions include:
    * `Ini.Line`
    * `Ini.Line.IsPlain`
    * `Ini.textOf`
    * `Ini.pairsOf`
    * `Ini.Layout`
    * `Loader.AssignsOnLines`

  Key theorems include:
    * `Ini.readUntil_append`
    * `Ini.readValue_append`
    * `Ini.readItems_ended`
    * `Ini.read_text`
    * `Loader.ofText_textOf`

  The main result is `Loader.give_textOf`.
-/

------------------------------------------------------------
-- Lines
------------------------------------------------------------

namespace KsqlBatch

namespace Ini

/- A line of a properties text, without its end. -/
inductive Line where
| blank (spaces : List Char)
| comment (text : List Char)
| pair (name value : List Char)
deriving DecidableEq, Repr, Inhabited

/- A character of a name or a value that is read as it is. -/
def IsPlainChar
    (c : Char) : Prop :=
  Text.isWhiteSpace c = false ∧ c ≠ '\\'

instance
    (c : Char) :
    Decidable (IsPlainChar c) := by
  unfold IsPlainChar
  infer_instance

/- A name that cannot be taken for anything else. -/
structure IsPlainName
    (name : List Char) : Prop where
  some_char : name ≠ []
  plain : ∀ c ∈ name, IsPlainChar c
  no_sign : ∀ c ∈ name, c ≠ '=' ∧ c ≠ ':'
  first :
    ∀ c ∈ name.head?, c ≠ ';' ∧ c ≠ '#' ∧ c ≠ '['

/- A value that does not begin like one in quotes. -/
structure IsPlainValue
    (value : List Char) : Prop where
  plain : ∀ c ∈ value, IsPlainChar c
  first : ∀ c ∈ value.head?, c ≠ '"' ∧ c ≠ '\''

theorem isPlainName_iff
    (name : List Char) :
    IsPlainName name ↔
      name ≠ [] ∧
        name.all (fun c => IsPlainChar c) = true ∧
        name.all (fun c => c ≠ '=' ∧ c ≠ ':') = true ∧
        name.head?.all
          (fun c => c ≠ ';' ∧ c ≠ '#' ∧ c ≠ '[') = true := by
  simp only [List.all_eq_true, Option.all_eq_true,
    decide_eq_true_eq]
  constructor
  · rintro ⟨hSome, hPlain, hSign, hFirst⟩
    exact ⟨hSome, hPlain, hSign, hFirst⟩
  · rintro ⟨hSome, hPlain, hSign, hFirst⟩
    exact ⟨hSome, hPlain, hSign, hFirst⟩

instance
    (name : List Char) :
    Decidable (IsPlainName name) :=
  decidable_of_iff _ (isPlainName_iff name).symm

theorem isPlainValue_iff
    (value : List Char) :
    IsPlainValue value ↔
      value.all (fun c => IsPlainChar c) = true ∧
        value.head?.all (fun c => c ≠ '"' ∧ c ≠ '\'') =
          true := by
  simp only [List.all_eq_true, Option.all_eq_true,
    decide_eq_true_eq]
  constructor
  · rintro ⟨hPlain, hFirst⟩
    exact ⟨hPlain, hFirst⟩
  · rintro ⟨hPlain, hFirst⟩
    exact ⟨hPlain, hFirst⟩

instance
    (value : List Char) :
    Decidable (IsPlainValue value) :=
  decidable_of_iff _ (isPlainValue_iff value).symm

namespace Line

/- What a line looks like, its end included. -/
def chars : Line → List Char
| .blank spaces => spaces ++ ['\n']
| .comment text => '#' :: (text ++ ['\n'])
| .pair name value => name ++ '=' :: (value ++ ['\n'])

/- A line means what it looks like. -/
def IsPlain : Line → Prop
| .blank spaces => ∀ c ∈ spaces, Text.isWhiteSpace c = true
| .comment text => '\n' ∉ text
| .pair name value => IsPlainName name ∧ IsPlainValue value

instance instDecidableIsPlain :
    (line : Line) →
    Decidable line.IsPlain
| .blank spaces =>
    decidable_of_iff (spaces.all Text.isWhiteSpace = true)
      List.all_eq_true
| .comment text => inferInstanceAs (Decidable ('\n' ∉ text))
| .pair name value =>
    inferInstanceAs
      (Decidable (IsPlainName name ∧ IsPlainValue value))

/- The pair on a line, if there is one. -/
def pair? : Line → Option (String × String)
| .pair name value =>
    some (String.ofList name, String.ofList value)
| _ => none

end Line

/- The text of lines. -/
def textOf
    (lines : List Line) : String :=
  String.ofList (lines.flatMap Line.chars)

/- The pairs on lines, in order. -/
def pairsOf
    (lines : List Line) : List (String × String) :=
  lines.filterMap Line.pair?

end Ini

end KsqlBatch

------------------------------------------------------------
-- Layouts
------------------------------------------------------------

namespace KsqlBatch

namespace Ini

/- What stands on a line, without its end. -/
def Line.content : Line → List Char
| .blank spaces => spaces
| .comment text => '#' :: text
| .pair name value => name ++ '=' :: value

/-
  What ends a line. A carriage return alone does not: a
  comment would go on behind it.
-/
inductive Break where
| lineFeed
| both
deriving DecidableEq, Repr, Inhabited

/- The characters that end a line. -/
def Break.chars : Break → List Char
| .lineFeed => ['\n']
| .both => ['\r', '\n']

/- A line with its end, in characters. -/
def endedChars
    (ended : Line × Break) : List Char :=
  ended.1.content ++ ended.2.chars

/-
  The lines of a text: those that are ended, and what stands
  behind them, which is blank if all lines are ended.
-/
structure Layout where
  ended : List (Line × Break)
  last : Line
deriving DecidableEq, Repr, Inhabited

namespace Layout

/- All lines, in order. -/
def lines
    (layout : Layout) : List Line :=
  layout.ended.map Prod.fst ++ [layout.last]

/- The text that is laid out. -/
def text
    (layout : Layout) : String :=
  String.ofList
    (layout.ended.flatMap endedChars ++ layout.last.content)

/- The layout in which a line feed ends every line. -/
def ofLines
    (lines : List Line) : Layout where
  ended := lines.map fun line => (line, .lineFeed)
  last := .blank []

theorem text_ofLines
    (lines : List Line) :
    (ofLines lines).text = textOf lines := by
  have hChars (line : Line) :
      endedChars (line, .lineFeed) = line.chars := by
    cases line <;>
      simp [endedChars, Line.content, Line.chars, Break.chars]
  unfold text textOf ofLines
  rw [List.flatMap_map, Line.content, List.append_nil]
  simp only [hChars]

theorem lines_ofLines
    (lines : List Line) :
    (ofLines lines).lines = lines ++ [.blank []] := by
  unfold Layout.lines ofLines
  rw [List.map_map]
  congr 1
  exact List.map_id lines

end Layout

end Ini

end KsqlBatch

------------------------------------------------------------
-- Parts of Lines
------------------------------------------------------------

namespace KsqlBatch

namespace Ini

variable {region : Region}
variable {before cs rest : List Char}
variable {c : Char}

/- Characters that do not end a part belong to it. -/
theorem readUntil_append
    (hPart : ∀ c ∈ cs, c ≠ '\\' ∧ c ∉ region.ends)
    (before rest : List Char) :
    readUntil region before (cs ++ rest) =
      readUntil region (cs.reverse ++ before) rest := by
  induction cs generalizing before with
  | nil => rfl
  | cons c cs ih =>
      rw [List.forall_mem_cons] at hPart
      rcases hPart with ⟨⟨hBackslash, hEnd⟩, hPart⟩
      rw [List.cons_append, readUntil, if_neg, ih hPart,
        List.reverse_cons, List.append_assoc]
      · rfl
      · rw [List.contains_iff_mem]
        exact hEnd
      all_goals
        intros
        exact absurd ‹c = '\\'› hBackslash

/- A part reaches up to the character that ends it. -/
theorem readUntil_part
    (hPart : ∀ c ∈ cs, c ≠ '\\' ∧ c ∉ region.ends)
    (hBackslash : c ≠ '\\')
    (hEnd : c ∈ region.ends)
    (rest : List Char) :
    readUntil region [] (cs ++ c :: rest) =
      .ok (cs, c :: rest) := by
  rw [readUntil_append hPart, List.append_nil, readUntil,
    if_pos, List.reverse_reverse]
  · rw [List.contains_iff_mem]
    exact hEnd
  all_goals
    intros
    exact absurd ‹c = '\\'› hBackslash

/- Nothing is removed around plain characters. -/
theorem strip_of_plain
    (hPlain : ∀ c ∈ cs, IsPlainChar c) :
    Text.strip Text.isWhiteSpace cs = cs := by
  refine Text.strip_eq_self ?_ ?_
  · intro c hChar
    exact (hPlain c (List.mem_of_head? hChar)).1
  · intro c hChar
    exact (hPlain c (List.mem_of_getLast? hChar)).1

/- A plain character does not end a line. -/
theorem IsPlainChar.not_mem_ends
    (hPlain : IsPlainChar c) :
    c ∉ Region.lineTail.ends := by
  intro hEnd
  simp only [Region.ends, List.mem_cons, List.not_mem_nil,
    or_false] at hEnd
  rcases hEnd with rfl | rfl
  · exact absurd hPlain.1 (by decide)
  · exact absurd hPlain.1 (by decide)

/- Nothing else stands on the line. -/
def AtLineEnd
    (rest : List Char) : Prop :=
  ∀ c ∈ rest.head?, c = '\n' ∨ c = '\r'

theorem atLineEnd_break
    (ending : Break)
    (rest : List Char) :
    AtLineEnd (ending.chars ++ rest) := by
  cases ending with
  | lineFeed =>
      rintro _ ⟨⟩
      exact Or.inl rfl
  | both =>
      rintro _ ⟨⟩
      exact Or.inr rfl

/- Plain characters are read up to the end of their line. -/
theorem readUntil_lineTail
    (hPlain : ∀ c ∈ cs, IsPlainChar c)
    (hRest : AtLineEnd rest) :
    readUntil .lineTail [] (cs ++ rest) = .ok (cs, rest) := by
  have hPart :
      ∀ c ∈ cs, c ≠ '\\' ∧ c ∉ Region.lineTail.ends := by
    intro c hChar
    have hPlainChar := hPlain c hChar
    exact ⟨hPlainChar.2, hPlainChar.not_mem_ends⟩
  cases rest with
  | nil =>
      rw [readUntil_append hPart, List.append_nil, readUntil,
        List.reverse_reverse]
      rfl
  | cons c rest =>
      rcases hRest c rfl with rfl | rfl
      · exact readUntil_part hPart (by decide) (by decide) rest
      · exact readUntil_part hPart (by decide) (by decide) rest

/- A plain value is read up to the end of its line. -/
theorem readValue_append
    (hPlain : IsPlainValue cs)
    (hRest : AtLineEnd rest) :
    readValue (cs ++ rest) = .ok (cs, rest) := by
  have hTail := readUntil_lineTail hPlain.plain hRest
  have hHead :
      ∀ c ∈ (cs ++ rest).head?,
        isBlankInLine c = false ∧ ¬ (c = '"' ∨ c = '\'') := by
    intro c hHead
    cases cs with
    | nil => rcases hRest c hHead with rfl | rfl <;> decide
    | cons first cs =>
        cases hHead
        have hFirst := hPlain.plain c List.mem_cons_self
        refine ⟨?_, not_or.mpr (hPlain.first c rfl)⟩
        unfold isBlankInLine
        rw [hFirst.1]
        rfl
  unfold readValue
  rw [Text.dropWhile_of_head? fun c hChar => (hHead c hChar).1]
  cases hText : cs ++ rest with
  | nil =>
      rw [List.append_eq_nil_iff] at hText
      rw [hText.1, hText.2]
  | cons c tail =>
      rw [hText] at hHead hTail
      dsimp only
      rw [if_neg (hHead c rfl).2, hTail]
      exact
        congrArg (fun value => Except.ok (value, rest))
          (strip_of_plain hPlain.plain)

/- A pair is read up to the end of its line. -/
theorem readPair_append
    {name value : List Char}
    (hName : IsPlainName name)
    (hValue : IsPlainValue value)
    (hRest : AtLineEnd rest) :
    readPair (name ++ '=' :: (value ++ rest)) =
      .ok
        (.pair (String.ofList name) (String.ofList value),
          rest) := by
  have hKey :
      readUntil .key [] (name ++ '=' :: (value ++ rest)) =
        .ok (name, '=' :: (value ++ rest)) := by
    refine readUntil_part ?_ (by decide) (by decide) _
    intro c hChar
    refine ⟨(hName.plain c hChar).2, ?_⟩
    intro hEnd
    simp only [Region.ends, List.mem_cons, List.not_mem_nil,
      or_false] at hEnd
    rcases hName.no_sign c hChar with ⟨hEquals, hColon⟩
    exact hEnd.elim hEquals hColon
  unfold readPair
  simp only [hKey, bind, Except.bind,
    strip_of_plain hName.plain, if_neg hName.some_char,
    List.drop_one, List.tail_cons,
    readValue_append hValue hRest]
  rfl

end Ini

end KsqlBatch

------------------------------------------------------------
-- Texts of Lines
------------------------------------------------------------

namespace KsqlBatch

namespace Ini

/- White space is skipped up to the line that follows it. -/
theorem skipBlanks_append
    {spaces : List Char}
    (hSpaces : ∀ c ∈ spaces, Text.isWhiteSpace c = true)
    (lineBegins : Bool)
    (rest : List Char) :
    skipBlanks lineBegins (spaces ++ '\n' :: rest) =
      skipBlanks true rest := by
  induction spaces generalizing lineBegins with
  | nil => rfl
  | cons c spaces ih =>
      rw [List.forall_mem_cons] at hSpaces
      rw [List.cons_append, skipBlanks, if_pos hSpaces.1]
      exact ih hSpaces.2 _

/- A comment is skipped with its line. -/
theorem afterLine_append
    {text : List Char}
    (hText : '\n' ∉ text)
    (rest : List Char) :
    afterLine (text ++ '\n' :: rest) = rest := by
  induction text with
  | nil => rfl
  | cons c text ih =>
      rw [List.mem_cons, not_or] at hText
      rw [List.cons_append, afterLine,
        if_neg (Ne.symm hText.1)]
      exact ih hText.2

/- Nothing but white space is left out altogether. -/
theorem skipBlanks_of_blank
    {spaces : List Char}
    (hSpaces : ∀ c ∈ spaces, Text.isWhiteSpace c = true)
    (lineBegins : Bool) :
    ∃ begins,
      skipBlanks lineBegins spaces = skipBlanks begins [] := by
  induction spaces generalizing lineBegins with
  | nil => exact ⟨lineBegins, rfl⟩
  | cons c spaces ih =>
      rw [List.forall_mem_cons] at hSpaces
      rw [skipBlanks, if_pos hSpaces.1]
      exact ih hSpaces.2 _

/- A comment may reach up to the end of the text. -/
theorem afterLine_of_not_mem
    {text : List Char}
    (hText : '\n' ∉ text) :
    afterLine text = [] := by
  induction text with
  | nil => rfl
  | cons c text ih =>
      rw [List.mem_cons, not_or] at hText
      rw [afterLine, if_neg (Ne.symm hText.1)]
      exact ih hText.2

/- In front of its line feed a line may end in white space. -/
theorem Break.exists_blanks
    (ending : Break) :
    ∃ blanks,
      ending.chars = blanks ++ ['\n'] ∧
        (∀ c ∈ blanks, Text.isWhiteSpace c = true) ∧
        '\n' ∉ blanks := by
  cases ending with
  | lineFeed => exact ⟨[], rfl, nofun, nofun⟩
  | both =>
      exact
        ⟨['\r'], rfl, List.forall_mem_singleton.mpr rfl,
          by decide⟩

/- The end of a line is skipped. -/
theorem skipBlanks_break
    (ending : Break)
    (lineBegins : Bool)
    (rest : List Char) :
    skipBlanks lineBegins (ending.chars ++ rest) =
      skipBlanks true rest := by
  cases ending <;> rfl

/-
  White space in front of the items is skipped, and then
  lines begin where one of its lines ends.
-/
theorem readItems_skip
    {lineBegins begins : Bool}
    {cs rest : List Char}
    (hSkip :
      skipBlanks lineBegins cs = skipBlanks begins rest)
    (itemsRev : List Item)
    (fuel : Nat) :
    readItems lineBegins itemsRev cs fuel =
      readItems begins itemsRev rest fuel := by
  cases fuel with
  | zero => rfl
  | succ fuel => rw [readItems, readItems, hSkip]

/- Reading a text stops at a character that is not blank. -/
theorem skipBlanks_cons
    {c : Char}
    (hChar : Text.isWhiteSpace c = false)
    (lineBegins : Bool)
    (cs : List Char) :
    skipBlanks lineBegins (c :: cs) = (lineBegins, c :: cs) := by
  rw [skipBlanks, hChar]
  rfl

/- A comment is no item. -/
theorem readItems_comment
    (itemsRev : List Item)
    (cs : List Char)
    (fuel : Nat) :
    readItems true itemsRev ('#' :: cs) (fuel + 1) =
      readItems true itemsRev (afterLine cs) fuel := by
  rw [readItems, skipBlanks_cons (by decide)]
  dsimp only
  rw [if_pos (Or.inr rfl), if_pos rfl]

/- A pair is an item. -/
theorem readItems_pair
    {name value rest : List Char}
    (hName : IsPlainName name)
    (hValue : IsPlainValue value)
    (hRest : AtLineEnd rest)
    (itemsRev : List Item)
    (fuel : Nat) :
    readItems true itemsRev (name ++ '=' :: (value ++ rest))
        (fuel + 1) =
      readItems false
        (.pair (String.ofList name) (String.ofList value) ::
          itemsRev)
        rest fuel := by
  have hRead := readPair_append hName hValue hRest
  cases name with
  | nil => exact absurd rfl hName.some_char
  | cons c name =>
      have hChar := hName.plain c List.mem_cons_self
      have hSign := hName.no_sign c List.mem_cons_self
      rcases hName.first c rfl with
        ⟨hSemicolon, hHash, hBracket⟩
      rw [List.cons_append] at hRead ⊢
      rw [readItems, skipBlanks_cons hChar.1]
      dsimp only
      rw [if_neg (not_or.mpr ⟨hSemicolon, hHash⟩),
        if_neg (not_or.mpr hSign), if_neg hBracket, hRead]

/- Reading ends with the text. -/
theorem readItems_nil
    (lineBegins : Bool)
    (itemsRev : List Item)
    (fuel : Nat) :
    readItems lineBegins itemsRev [] fuel =
      .ok itemsRev.reverse := by
  cases fuel <;> rfl

/- The item of a pair. -/
def pairItem
    (pair : String × String) : Item :=
  .pair pair.1 pair.2

/- What stands behind all line ends is read like a line. -/
theorem readItems_last
    {line : Line}
    (hPlain : line.IsPlain)
    (itemsRev : List Item)
    (fuel : Nat) :
    readItems true itemsRev line.content (fuel + 1) =
      .ok
        (itemsRev.reverse ++
          (pairsOf [line]).map pairItem) := by
  cases line with
  | blank spaces =>
      rcases skipBlanks_of_blank hPlain true with
        ⟨begins, hSkip⟩
      rw [Line.content, readItems_skip hSkip, readItems_nil]
      exact congrArg Except.ok (List.append_nil _).symm
  | comment text =>
      rw [Line.content, readItems_comment,
        afterLine_of_not_mem hPlain, readItems_nil]
      exact congrArg Except.ok (List.append_nil _).symm
  | pair name value =>
      have hEnd : AtLineEnd [] := nofun
      have hRead :=
        readItems_pair hPlain.1 hPlain.2 hEnd itemsRev fuel
      rw [List.append_nil] at hRead
      rw [Line.content, hRead, readItems_nil,
        List.reverse_cons]
      rfl

/- The lines of a text are read one after the other. -/
theorem readItems_ended
    {ended : List (Line × Break)}
    {last : Line}
    (hPlain : ∀ piece ∈ ended, piece.1.IsPlain)
    (hLast : last.IsPlain)
    (itemsRev : List Item)
    (fuel : Nat)
    (hFuel : ended.length < fuel) :
    readItems true itemsRev
        (ended.flatMap endedChars ++ last.content) fuel =
      .ok
        (itemsRev.reverse ++
          (pairsOf (ended.map Prod.fst ++ [last])).map
            pairItem) := by
  induction ended generalizing itemsRev fuel with
  | nil =>
      cases fuel with
      | zero => cases hFuel
      | succ fuel => exact readItems_last hLast itemsRev fuel
  | cons piece ended ih =>
      rw [List.forall_mem_cons] at hPlain
      rcases hPlain with ⟨hLine, hPlain⟩
      rcases piece with ⟨line, ending⟩
      cases fuel with
      | zero => cases hFuel
      | succ fuel =>
      rw [List.length_cons, Nat.add_lt_add_iff_right] at hFuel
      rw [List.flatMap_cons, endedChars, List.append_assoc,
        List.append_assoc]
      rcases ending.exists_blanks with
        ⟨blanks, hChars, hBlanks, hFeed⟩
      cases line with
      | blank spaces =>
          have hSpaces :
              ∀ c ∈ spaces ++ blanks,
                Text.isWhiteSpace c = true :=
            List.forall_mem_append.mpr ⟨hLine, hBlanks⟩
          rw [Line.content, hChars, List.append_assoc,
            ← List.append_assoc spaces,
            List.singleton_append,
            readItems_skip (skipBlanks_append hSpaces _ _)]
          exact ih hPlain _ _ (Nat.lt_succ_of_lt hFuel)
      | comment text =>
          have hText : '\n' ∉ text ++ blanks := by
            rw [List.mem_append]
            exact not_or.mpr ⟨hLine, hFeed⟩
          rw [Line.content, List.cons_append,
            readItems_comment, hChars, List.append_assoc,
            ← List.append_assoc text,
            List.singleton_append, afterLine_append hText]
          exact ih hPlain _ _ hFuel
      | pair name value =>
          rw [Line.content, List.append_assoc,
            List.cons_append,
            readItems_pair hLine.1 hLine.2
              (atLineEnd_break ending _),
            readItems_skip (skipBlanks_break ending _ _),
            ih hPlain _ _ hFuel, List.reverse_cons,
            List.append_assoc]
          rfl

/- Every line that is ended has an end. -/
theorem length_le_length_flatMap
    (ended : List (Line × Break)) :
    ended.length ≤ (ended.flatMap endedChars).length := by
  induction ended with
  | nil => exact Nat.le_refl 0
  | cons piece ended ih =>
      have hEnd : 0 < piece.2.chars.length := by
        cases piece.2 <;> decide
      rw [List.flatMap_cons, List.length_append, endedChars,
        List.length_append, List.length_cons]
      omega

theorem ofItems_pairs
    (pairs : List (String × String)) :
    Document.ofItems (pairs.map pairItem) =
      { general := pairs, sections := [] } := by
  induction pairs with
  | nil => rfl
  | cons pair pairs ih =>
      rw [List.map_cons, pairItem, Document.ofItems, ih]

/- A text of plain lines says what its pairs say. -/
theorem read_text
    {layout : Layout}
    (hPlain : ∀ line ∈ layout.lines, line.IsPlain) :
    read layout.text =
      .ok
        { general := pairsOf layout.lines
          sections := [] } := by
  unfold Layout.lines at hPlain
  rw [List.forall_mem_append, List.forall_mem_map,
    List.forall_mem_singleton] at hPlain
  have hFuel :
      layout.ended.length <
        (layout.ended.flatMap endedChars ++
          layout.last.content).length + 1 := by
    have hLength := length_le_length_flatMap layout.ended
    rw [List.length_append]
    omega
  unfold read parse Layout.text
  rw [String.toList_ofList,
    readItems_ended hPlain.1 hPlain.2 _ _ hFuel]
  dsimp only
  rw [List.reverse_nil, List.nil_append, ofItems_pairs]
  rfl

end Ini

end KsqlBatch

------------------------------------------------------------
-- Given Settings
------------------------------------------------------------

namespace KsqlBatch

namespace Loader

variable {lines : List Ini.Line}

/- The pairs on plain lines are the settings of their text. -/
theorem ofText_text
    {layout : Ini.Layout}
    (hPlain : ∀ line ∈ layout.lines, line.IsPlain)
    (origin : Option String) :
    ofText origin layout.text =
      .ok (ofPairs origin (Ini.pairsOf layout.lines)) := by
  rw [ofText, Ini.read_text hPlain]
  rfl

/- So they are if a line feed ends each of them. -/
theorem ofText_textOf
    (hPlain : ∀ line ∈ lines, line.IsPlain)
    (origin : Option String) :
    ofText origin (Ini.textOf lines) =
      .ok (ofPairs origin (Ini.pairsOf lines)) := by
  have hLines :
      ∀ line ∈ (Ini.Layout.ofLines lines).lines,
        line.IsPlain := by
    rw [Ini.Layout.lines_ofLines, List.forall_mem_append,
      List.forall_mem_singleton]
    exact ⟨hPlain, nofun⟩
  have hPairs :
      Ini.pairsOf (Ini.Layout.ofLines lines).lines =
        Ini.pairsOf lines := by
    rw [Ini.Layout.lines_ofLines]
    exact List.filterMap_append.trans (List.append_nil _)
  rw [← Ini.Layout.text_ofLines, ← hPairs]
  exact ofText_text hLines origin

/-
  Plain lines on which all pairs are for settings of a
  connection, and no two of them for the same one.
-/
structure AssignsOnLines
    (lines : List Ini.Line) : Prop where
  plain : ∀ line ∈ lines, line.IsPlain
  known :
    ∀ pair ∈ Ini.pairsOf lines,
      ∃ key : Key, key.IsNamedBy pair.1
  once :
    (Ini.pairsOf lines).Pairwise fun pair other =>
      ∀ key : Key,
        key.IsNamedBy pair.1 → ¬ key.IsNamedBy other.1

/- A setting has the value on the line that names it. -/
theorem AssignsOnLines.inPairs?_eq_some
    (hAssigns : AssignsOnLines lines)
    {key : Key}
    {pair : String × String}
    (hPair : pair ∈ Ini.pairsOf lines)
    (hNamed : key.IsNamedBy pair.1)
    (origin : Option String) :
    key.inPairs? origin (Ini.pairsOf lines) =
      some (.scalar origin (.text pair.2)) := by
  have hFound :
      (Ini.pairsOf lines).find?
          (fun pair => key.IsNamedBy pair.1) =
        some pair := by
    refine
      find?_of_mem hPair (decide_eq_true hNamed)
        (hAssigns.once.imp ?_)
    intro first second hOnce hFirst hSecond
    exact
      hOnce key (of_decide_eq_true hFirst)
        (of_decide_eq_true hSecond)
  rw [Key.inPairs?, hFound]
  rfl

/- A source of pairs gives the settings what they say. -/
theorem exists_give_source
    {disk : FileSystem Id}
    {environment : List (String × String)}
    {layer : Layer}
    {origin : Option String}
    {pairs : List (String × String)}
    (hLayer : layer.isOverride = false)
    (hRead :
      Id.run (source disk environment layer) =
        .ok (ofPairs origin pairs))
    (hNamed :
      ∀ pair ∈ pairs, ∃ key : Key, key.IsNamedBy pair.1)
    (hOnce :
      pairs.Pairwise fun pair other =>
        ∀ key : Key,
          key.IsNamedBy pair.1 → ¬ key.IsNamedBy other.1) :
    ∃ given,
      Layer.Give disk environment [layer] given [] ∧
        ∀ key : Key,
          key.lastIn? given = key.inPairs? origin pairs := by
  rcases exists_given_ofPairs hNamed hOnce origin with
    ⟨parts, hGiven, hLast⟩
  exact
    ⟨parts.flatten, Layer.give_source hLayer hRead hGiven,
      hLast⟩

/- A properties text gives the settings what its lines say. -/
theorem give_textOf
    (hAssigns : AssignsOnLines lines)
    (disk : FileSystem Id)
    (environment : List (String × String)) :
    ∃ given,
      Layer.Give disk environment
          [.properties (Ini.textOf lines)] given [] ∧
        ∀ key : Key,
          key.lastIn? given =
            key.inPairs? none (Ini.pairsOf lines) :=
  exists_give_source rfl (ofText_textOf hAssigns.plain none)
    hAssigns.known hAssigns.once

end Loader

end KsqlBatch
