import KsqlBatch.Json.Reader
import KsqlBatch.Json.Writer
import KsqlBatch.Proofs.Keyed

/-
  This file shows that strings, and objects with members in
  ascending order, are read back from the JSON text that is
  written for them, whatever follows the text.

  Key definitions include:
    * `Json.text`
    * `Json.ReadsBack`

  Key theorems include:
    * `Json.readString_escapeAll`
    * `Json.readsBack_string`
    * `Json.readsBack_object`
    * `Json.ReadsBack.read?_render`
-/

------------------------------------------------------------
-- Strings
------------------------------------------------------------

namespace KsqlBatch

namespace Json

/- Four digits stand for a control character. -/
theorem hexCode?_of_lt
    {code : Nat}
    (hControl : code < 0x20) :
    hexCode? '0' '0' (Text.hexDigit (code / 16))
      (Text.hexDigit (code % 16)) = some code := by
  revert code
  decide +kernel

/- A short escape is read as the character it stands for. -/
theorem readString_of_shortEscape?
    {letter c : Char}
    (hEscape : shortEscape? letter = some c)
    (hLetter : letter ≠ 'u')
    (before rest : List Char) :
    readString before ('\\' :: letter :: rest) =
      readString (c :: before) rest := by
  rw [readString]
  · simp only [hEscape]
  · intro _ _ _ _ _ hSame _
    exact absurd hSame hLetter
  · exact hLetter

/- An escape with four digits is read as a character. -/
theorem readString_of_control
    {c : Char}
    (hControl : c.toNat < 0x20)
    (before rest : List Char) :
    readString before
        ('\\' :: 'u' :: '0' :: '0' ::
          Text.hexDigit (c.toNat / 16) ::
          Text.hexDigit (c.toNat % 16) :: rest) =
      readString (c :: before) rest := by
  have hTrailing : isTrailingSurrogate c.toNat = false := by
    unfold isTrailingSurrogate
    simp only [Bool.and_eq_false_iff, decide_eq_false_iff_not]
    omega
  have hLeading : isLeadingSurrogate c.toNat = false := by
    unfold isLeadingSurrogate
    simp only [Bool.and_eq_false_iff, decide_eq_false_iff_not]
    omega
  rw [readString, hexCode?_of_lt hControl]
  simp only [hTrailing, hLeading, Bool.false_eq_true,
    if_false, Char.ofNat_toNat]

/- Any other character is read as itself. -/
theorem readString_of_plain
    {c : Char}
    (hQuote : c ≠ '"')
    (hBackslash : c ≠ '\\')
    (hPrintable : ¬ c.toNat < 0x20)
    (before rest : List Char) :
    readString before (c :: rest) =
      readString (c :: before) rest := by
  rw [readString]
  · rw [if_neg hPrintable]
  all_goals
    intros
    simp_all

theorem eq_ofNat_of_toNat_eq
    {c : Char}
    {code : Nat}
    (hCode : c.toNat = code) :
    Char.ofNat code = c := by
  rw [← hCode, Char.ofNat_toNat]

/- A character is read back from its escape. -/
theorem readString_escape
    (c : Char)
    (before rest : List Char) :
    readString before (escape c ++ rest) =
      readString (c :: before) rest := by
  unfold escape
  split
  · rename_i hChar
    rw [hChar]
    exact readString_of_shortEscape? rfl (by decide) _ _
  split
  · rename_i hChar
    rw [hChar]
    exact readString_of_shortEscape? rfl (by decide) _ _
  split
  · rename_i hChar
    rw [hChar]
    exact readString_of_shortEscape? rfl (by decide) _ _
  split
  · rename_i hChar
    rw [hChar]
    exact readString_of_shortEscape? rfl (by decide) _ _
  split
  · rename_i hChar
    rw [hChar]
    exact readString_of_shortEscape? rfl (by decide) _ _
  split
  · rename_i hCode
    rw [← eq_ofNat_of_toNat_eq hCode]
    exact readString_of_shortEscape? rfl (by decide) _ _
  split
  · rename_i hCode
    rw [← eq_ofNat_of_toNat_eq hCode]
    exact readString_of_shortEscape? rfl (by decide) _ _
  split
  · rename_i hControl
    exact readString_of_control hControl _ _
  · rename_i hQuote hBackslash _ _ _ _ _ hPrintable
    exact
      readString_of_plain hQuote hBackslash hPrintable _ _

/- A string is read back up to the quote that ends it. -/
theorem readString_escapeAll
    (before cs rest : List Char) :
    readString before (escapeAll cs ++ '"' :: rest) =
      .ok (String.ofList (before.reverse ++ cs), rest) := by
  induction cs generalizing before with
  | nil =>
      rw [List.append_nil]
      rfl
  | cons c cs ih =>
      have hSplit :
          escapeAll (c :: cs) = escape c ++ escapeAll cs :=
        List.flatMap_cons
      rw [hSplit, List.append_assoc, readString_escape, ih,
        List.reverse_cons, List.append_assoc,
        List.singleton_append]

end Json

end KsqlBatch

------------------------------------------------------------
-- Texts of Values
------------------------------------------------------------

namespace KsqlBatch

namespace Json

/- The characters of the JSON text of a value. -/
def text
    (value : Json) : List Char :=
  value.render.toList

/- The characters of the rest of an object. -/
def membersText
    (members : List (String × Json)) : List Char :=
  (String.join (memberPieces members)).toList

/- The characters of an object after one of its members. -/
def laterText
    (members : List (String × Json)) : List Char :=
  (String.join (laterMembers members)).toList

/- The characters of a member, behind its first quote. -/
def memberText
    (name : String)
    (value : Json) : List Char :=
  escapeAll name.toList ++ '"' :: ':' :: value.text

theorem text_string
    (s : String) :
    text (.string s) =
      '"' :: (escapeAll s.toList ++ ['"']) := by
  simp [text, render, pieces, quote]

theorem text_object
    (members : List (String × Json)) :
    text (.object members) = '\x7b' :: membersText members := by
  simp [text, render, pieces, membersText]

theorem membersText_nil :
    membersText [] = ['\x7d'] := by
  simp [membersText, memberPieces]

theorem membersText_cons
    (name : String)
    (value : Json)
    (members : List (String × Json)) :
    membersText ((name, value) :: members) =
      '"' :: (memberText name value ++ laterText members) := by
  simp [membersText, memberPieces, memberText, laterText,
    text, render, quote]

theorem laterText_nil :
    laterText [] = ['\x7d'] := by
  simp [laterText, laterMembers]

theorem laterText_cons
    (name : String)
    (value : Json)
    (members : List (String × Json)) :
    laterText ((name, value) :: members) =
      ',' :: '"' ::
        (memberText name value ++ laterText members) := by
  simp [laterText, laterMembers, memberText, text, render,
    quote]

/- Each member takes up part of the text of an object. -/
theorem length_le_length_laterText
    (members : List (String × Json)) :
    members.length ≤ (laterText members).length := by
  induction members with
  | nil => exact Nat.zero_le _
  | cons member members ih =>
      rw [laterText_cons]
      simp only [List.length_cons, List.length_append]
      omega

theorem length_le_length_text
    (members : List (String × Json)) :
    members.length ≤ (text (.object members)).length := by
  rw [text_object]
  cases members with
  | nil => exact Nat.zero_le _
  | cons member members =>
      have hLater := length_le_length_laterText members
      rw [membersText_cons]
      simp only [List.length_cons, List.length_append]
      omega

end Json

end KsqlBatch

------------------------------------------------------------
-- Reading Values Back
------------------------------------------------------------

namespace KsqlBatch

namespace Json

/-
  A value is read back from its text, whatever follows, if
  there is enough fuel and enough levels may be opened.
-/
def ReadsBack
    (fuel levels : Nat)
    (value : Json) : Prop :=
  ∀ given room rest,
    fuel ≤ given →
    levels ≤ room →
    readValue given room (value.text ++ rest) =
      .ok (value, rest)

variable {fuel levels given room : Nat}
variable {value : Json}
variable {members : List (String × Json)}

/- More fuel and more levels do no harm. -/
theorem ReadsBack.mono
    {more deeper : Nat}
    (hReads : ReadsBack fuel levels value)
    (hFuel : fuel ≤ more)
    (hLevels : levels ≤ deeper) :
    ReadsBack more deeper value := by
  intro given room rest hGiven hRoom
  apply hReads
  · exact Nat.le_trans hFuel hGiven
  · exact Nat.le_trans hLevels hRoom

/- A string is read back in one call. -/
theorem readsBack_string
    (s : String) :
    ReadsBack 1 0 (.string s) := by
  intro given room rest hGiven _
  cases given with
  | zero => omega
  | succ given =>
      have hRead :
          readString []
              (escapeAll s.toList ++ '"' :: rest) =
            .ok (s, rest) := by
        rw [readString_escapeAll]
        simp
      rw [text_string, List.cons_append, List.append_assoc,
        List.singleton_append]
      simp [readValue, skipBlanks, isBlank, hRead, Except.map]

/- A member is read back, and then the remaining ones. -/
theorem ReadsBack.readMember_memberText
    (hReads : ReadsBack fuel levels value)
    (hFuel : fuel ≤ given)
    (hLevels : levels ≤ room)
    (name : String)
    (before : List (String × Json))
    (rest : List Char) :
    readMember (given + 1) room before
        (memberText name value ++ rest) =
      readMembers given room false
        (Keyed.insert name value before) rest := by
  have hName :
      readString []
          (memberText name value ++ rest) =
        .ok (name, ':' :: (value.text ++ rest)) := by
    rw [memberText, List.append_assoc, List.cons_append,
      List.cons_append, readString_escapeAll]
    simp
  have hValue :
      readValue given room (value.text ++ rest) =
        .ok (value, rest) :=
    hReads given room rest hFuel hLevels
  simp [readMember, hName, skipBlanks, isBlank, hValue]

/- The members behind the first one are read back. -/
theorem readMembers_laterText
    (hMembers :
      ∀ member ∈ members, ReadsBack fuel levels member.2)
    (hFuel : 2 * members.length + fuel + 1 ≤ given)
    (hLevels : levels ≤ room)
    (before : List (String × Json))
    (rest : List Char) :
    readMembers given room false before
        (laterText members ++ rest) =
      .ok
        (.object
          (members.foldl
            (fun found member =>
              Keyed.insert member.1 member.2 found)
            before), rest) := by
  induction members generalizing given before with
  | nil =>
      cases given with
      | zero => omega
      | succ given =>
          rw [laterText_nil]
          simp [readMembers, skipBlanks, isBlank]
  | cons member members ih =>
      rcases member with ⟨name, value⟩
      rw [List.forall_mem_cons] at hMembers
      rw [List.length_cons] at hFuel
      rcases Nat.exists_eq_add_of_le'
          (show 2 ≤ given by omega) with ⟨left, rfl⟩
      have hComma :
          readMembers (left + 2) room false before
              (laterText ((name, value) :: members) ++
                rest) =
            readMember (left + 1) room before
              (memberText name value ++
                (laterText members ++ rest)) := by
        rw [laterText_cons]
        simp [readMembers, skipBlanks, isBlank]
      rw [hComma,
        hMembers.1.readMember_memberText (by omega) hLevels,
        ih hMembers.2 (by omega)]
      rfl

/- An object with members in order is read back. -/
theorem readsBack_object
    (hMembers :
      ∀ member ∈ members, ReadsBack fuel levels member.2)
    (hSorted : Keyed.Sorted members) :
    ReadsBack (2 * members.length + fuel + 2) (levels + 1)
      (.object members) := by
  intro given room rest hGiven hRoom
  rcases Nat.exists_eq_add_of_le'
      (show 2 ≤ given by omega) with ⟨left, rfl⟩
  rcases Nat.exists_eq_add_of_le'
      (show 1 ≤ room by omega) with ⟨deeper, rfl⟩
  have hBrace :
      readValue (left + 2) (deeper + 1)
          (text (.object members) ++ rest) =
        readMembers (left + 1) deeper true []
          (membersText members ++ rest) := by
    rw [text_object]
    simp [readValue, skipBlanks, isBlank]
  rw [hBrace]
  cases members with
  | nil =>
      rw [membersText_nil]
      simp [readMembers, skipBlanks, isBlank]
  | cons member members =>
      rcases member with ⟨name, value⟩
      rw [List.forall_mem_cons] at hMembers
      rw [List.length_cons] at hGiven
      rcases Nat.exists_eq_add_of_le'
          (show 1 ≤ left by omega) with ⟨last, rfl⟩
      have hQuote :
          readMembers (last + 2) deeper true []
              (membersText ((name, value) :: members) ++
                rest) =
            readMember (last + 1) deeper []
              (memberText name value ++
                (laterText members ++ rest)) := by
        rw [membersText_cons]
        simp [readMembers, skipBlanks, isBlank]
      have hAll :
          ((name, value) :: members).foldl
              (fun found member =>
                Keyed.insert member.1 member.2 found) [] =
            (name, value) :: members :=
        Keyed.foldl_insert_of_sorted hSorted
      rw [hQuote,
        hMembers.1.readMember_memberText (by omega)
          (by omega),
        readMembers_laterText hMembers.2 (by omega)
          (by omega)]
      rw [List.foldl_cons] at hAll
      rw [hAll]

/- A value that is read back is what its text stands for. -/
theorem ReadsBack.read?_render
    (hReads : ReadsBack fuel levels value)
    (hFuel : fuel ≤ 3 * value.text.length + 3)
    (hLevels : levels ≤ 127) :
    read? value.render = some value := by
  have hValue :
      readValue (readingFuel value.text) 127 value.text =
        .ok (value, []) := by
    have hRead :=
      hReads (readingFuel value.text) 127 [] hFuel hLevels
    rw [List.append_nil] at hRead
    exact hRead
  have hParse : parse value.render.toList = .ok value := by
    unfold text at hValue
    simp [parse, hValue, skipBlanks]
  rw [read?, hParse]
  rfl

end Json

end KsqlBatch
