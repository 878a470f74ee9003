import KsqlBatch.Json.Reader
import KsqlBatch.Proofs.Keyed

/-
  This file says which members the objects have that are read
  from JSON text. Names do not repeat, so that looking a name
  up and having it as a member is the same.

  Key definitions include:
    * `Json.IsOrdered`
    * `Json.HasMember`
    * `Json.ReadsOrdered`

  Key theorems include:
    * `Json.IsOrdered.get?_eq_some_iff`
    * `Json.readsOrdered`
    * `Json.isOrdered_of_read?`
-/

------------------------------------------------------------
-- Ordered Values
------------------------------------------------------------

namespace KsqlBatch

namespace Json

/- In every object of a value the names ascend strictly. -/
inductive IsOrdered : Json → Prop
| null : IsOrdered .null
| bool (b : Bool) : IsOrdered (.bool b)
| number (n : Number) : IsOrdered (.number n)
| string (s : String) : IsOrdered (.string s)
| array
    (elements : List Json)
    (hElements : ∀ element ∈ elements, IsOrdered element) :
    IsOrdered (.array elements)
| object
    (members : List (String × Json))
    (hSorted : Keyed.Sorted members)
    (hMembers : ∀ member ∈ members, IsOrdered member.2) :
    IsOrdered (.object members)

/- A value is an object with a member. -/
def HasMember
    (value : Json)
    (name : String)
    (member : Json) : Prop :=
  ∃ members,
    value = .object members ∧ (name, member) ∈ members

variable {value member : Json}
variable {name : String}

/- The members of an ordered value are ordered. -/
theorem IsOrdered.of_hasMember
    (hOrdered : value.IsOrdered)
    (hMember : value.HasMember name member) :
    member.IsOrdered := by
  rcases hMember with ⟨members, rfl, hMember⟩
  cases hOrdered with
  | object _ _ hMembers => exact hMembers _ hMember

/- Looking a name up finds the member with this name. -/
theorem IsOrdered.get?_eq_some_iff
    (hOrdered : value.IsOrdered) :
    value.get? name = some member ↔
      value.HasMember name member := by
  constructor
  · intro hFound
    unfold get? at hFound
    split at hFound
    · exact ⟨_, rfl, Keyed.mem_of_find?_eq_some hFound⟩
    · cases hFound
  · rintro ⟨members, rfl, hMember⟩
    cases hOrdered with
    | object _ hSorted _ => exact hSorted.find?_of_mem hMember

/- Looking a text up finds the member that is this text. -/
theorem IsOrdered.getString?_eq_some_iff
    {text : String}
    (hOrdered : value.IsOrdered) :
    value.getString? name = some text ↔
      value.HasMember name (.string text) := by
  rw [← hOrdered.get?_eq_some_iff, getString?]
  cases value.get? name with
  | none => simp
  | some found =>
      cases found <;> simp [string?]

/- What is said of one name determines the text found. -/
theorem IsOrdered.eq_getString?
    {found : Option String}
    (hOrdered : value.IsOrdered)
    (hFound :
      ∀ text,
        found = some text ↔
          value.HasMember name (.string text)) :
    found = value.getString? name := by
  apply Option.ext
  intro text
  rw [hFound text, hOrdered.getString?_eq_some_iff]

end Json

end KsqlBatch

------------------------------------------------------------
-- Readings
------------------------------------------------------------

namespace KsqlBatch

namespace Json

/- A reading of a value comes to an ordered one, or stops. -/
def Yields
    (reading : Reading Json) : Prop :=
  ∀ value rest,
    reading = .ok (value, rest) →
    value.IsOrdered

theorem yields_error
    (stop : Stop) :
    Yields (.error stop) := nofun

theorem yields_ok
    {value : Json}
    (rest : List Char)
    (hOrdered : value.IsOrdered) :
    Yields (.ok (value, rest)) := by
  rintro _ _ ⟨⟩
  exact hOrdered

/- A value that is made from something that was read. -/
theorem yields_map
    {α : Type}
    {make : α → Json}
    (reading : Reading α)
    (hOrdered : ∀ a, (make a).IsOrdered) :
    Yields (reading.map fun r => (make r.1, r.2)) := by
  cases reading with
  | error stop => exact yields_error stop
  | ok r => exact yields_ok r.2 (hOrdered r.1)

theorem yields_readLiteral
    {value : Json}
    (hOrdered : value.IsOrdered)
    (letters cs : List Char) :
    Yields (readLiteral value letters cs) := by
  induction letters generalizing cs with
  | nil => exact yields_ok cs hOrdered
  | cons letter letters ih =>
      cases cs with
      | nil => exact yields_error _
      | cons c cs =>
          rw [readLiteral]
          split
          · exact ih cs
          · exact yields_error _

/-
  With some fuel, every reader comes to an ordered value if
  the parts that it goes on from are ordered.
-/
structure ReadsOrdered
    (fuel : Nat) : Prop where
  value :
    ∀ room cs, Yields (readValue fuel room cs)
  elements :
    ∀ room first before cs,
      (∀ element ∈ before, IsOrdered element) →
      Yields (readElements fuel room first before cs)
  element :
    ∀ room before cs,
      (∀ element ∈ before, IsOrdered element) →
      Yields (readElement fuel room before cs)
  members :
    ∀ room first before cs,
      IsOrdered (.object before) →
      Yields (readMembers fuel room first before cs)
  member :
    ∀ room before cs,
      IsOrdered (.object before) →
      Yields (readMember fuel room before cs)

theorem readsOrdered_zero :
    ReadsOrdered 0 where
  value _ _ := yields_error _
  elements _ _ _ _ _ := yields_error _
  element _ _ _ _ := yields_error _
  members _ _ _ _ _ := yields_error _
  member _ _ _ _ := yields_error _

variable {fuel : Nat}

theorem ReadsOrdered.yields_readValue
    (hReads : ReadsOrdered fuel)
    (room : Nat)
    (cs : List Char) :
    Yields (readValue (fuel + 1) room cs) := by
  have hNone : IsOrdered (.object []) :=
    .object [] List.Pairwise.nil nofun
  rw [readValue]
  split
  · exact yields_error _
  · exact yields_readLiteral .null _ _
  · exact yields_readLiteral (.bool true) _ _
  · exact yields_readLiteral (.bool false) _ _
  · exact yields_map _ .string
  · split
    · exact yields_error _
    · exact hReads.elements _ _ _ _ nofun
  · split
    · exact yields_error _
    · exact hReads.members _ _ _ _ hNone
  · split
    · exact yields_map _ .number
    · exact yields_error _

theorem ReadsOrdered.yields_readElements
    {before : List Json}
    (hReads : ReadsOrdered fuel)
    (room : Nat)
    (first : Bool)
    (cs : List Char)
    (hBefore : ∀ element ∈ before, IsOrdered element) :
    Yields (readElements (fuel + 1) room first before cs) := by
  have hArray : IsOrdered (.array before.reverse) :=
    .array _ fun element hElement =>
      hBefore element (List.mem_reverse.mp hElement)
  rw [readElements]
  split
  · exact yields_error _
  · exact yields_ok _ hArray
  · split
    · exact hReads.element _ _ _ hBefore
    · split
      · split
        · exact yields_error _
        · exact yields_error _
        · exact hReads.element _ _ _ hBefore
      · exact yields_error _

theorem ReadsOrdered.yields_readElement
    {before : List Json}
    (hReads : ReadsOrdered fuel)
    (room : Nat)
    (cs : List Char)
    (hBefore : ∀ element ∈ before, IsOrdered element) :
    Yields (readElement (fuel + 1) room before cs) := by
  rw [readElement]
  cases hRead : readValue fuel room cs with
  | error stop => exact yields_error stop
  | ok r =>
      rcases r with ⟨value, rest⟩
      have hValue : value.IsOrdered :=
        hReads.value _ _ _ _ hRead
      exact
        hReads.elements _ _ _ _
          (List.forall_mem_cons.mpr ⟨hValue, hBefore⟩)

theorem ReadsOrdered.yields_readMembers
    {before : List (String × Json)}
    (hReads : ReadsOrdered fuel)
    (room : Nat)
    (first : Bool)
    (cs : List Char)
    (hBefore : IsOrdered (.object before)) :
    Yields (readMembers (fuel + 1) room first before cs) := by
  rw [readMembers]
  split
  · exact yields_error _
  · exact yields_ok _ hBefore
  · split
    · split
      · exact hReads.member _ _ _ hBefore
      · exact yields_error _
    · split
      · split
        · exact yields_error _
        · exact hReads.member _ _ _ hBefore
        · exact yields_error _
        · exact yields_error _
      · exact yields_error _

/- A member goes in its place, and over an earlier one. -/
theorem IsOrdered.insert
    {value : Json}
    {members : List (String × Json)}
    (hMembers : IsOrdered (.object members))
    (name : String)
    (hValue : value.IsOrdered) :
    IsOrdered (.object (Keyed.insert name value members)) := by
  cases hMembers with
  | object _ hSorted hOrdered =>
      refine .object _ (Keyed.sorted_insert hSorted) ?_
      intro member hMember
      rcases Keyed.eq_or_mem_of_mem_insert hMember with
        rfl | hOld
      · exact hValue
      · exact hOrdered member hOld

theorem ReadsOrdered.yields_readMember
    {before : List (String × Json)}
    (hReads : ReadsOrdered fuel)
    (room : Nat)
    (cs : List Char)
    (hBefore : IsOrdered (.object before)) :
    Yields (readMember (fuel + 1) room before cs) := by
  rw [readMember]
  split
  · exact yields_error _
  · split
    · exact yields_error _
    · split
      · exact yields_error _
      · rename_i hRead
        have hValue := hReads.value _ _ _ _ hRead
        exact hReads.members _ _ _ _ (hBefore.insert _ hValue)
    · exact yields_error _

/- All readers come to ordered values. -/
theorem readsOrdered
    (fuel : Nat) : ReadsOrdered fuel := by
  -- Every reader calls the others with less fuel.
  induction fuel with
  | zero => exact readsOrdered_zero
  | succ fuel ih =>
      exact
        { value := ih.yields_readValue
          elements := fun room first _ cs =>
            ih.yields_readElements room first cs
          element := fun room _ cs =>
            ih.yields_readElement room cs
          members := fun room first _ cs =>
            ih.yields_readMembers room first cs
          member := fun room _ cs =>
            ih.yields_readMember room cs }

/- The value of a text is ordered. -/
theorem isOrdered_of_parse
    {cs : List Char}
    {value : Json}
    (hParse : parse cs = .ok value) :
    value.IsOrdered := by
  unfold parse at hParse
  split at hParse
  · cases hParse
  · rename_i hRead
    have hValue := (readsOrdered _).value _ _ _ _ hRead
    split at hParse
    · cases hParse
      exact hValue
    · cases hParse

/- A text has a value if reading it does not fail. -/
theorem read?_eq_some_iff
    {text : String}
    {value : Json} :
    read? text = some value ↔ read text = .ok value := by
  unfold read? read
  cases parse text.toList with
  | error stop => exact ⟨nofun, nofun⟩
  | ok found =>
      constructor <;>
        · rintro ⟨⟩
          rfl

theorem isOrdered_of_read?
    {text : String}
    {value : Json}
    (hRead : read? text = some value) :
    value.IsOrdered := by
  unfold read? at hRead
  cases hParse : parse text.toList with
  | error stop =>
      rw [hParse] at hRead
      cases hRead
  | ok found =>
      rw [hParse] at hRead
      cases hRead
      exact isOrdered_of_parse hParse

end Json

end KsqlBatch
