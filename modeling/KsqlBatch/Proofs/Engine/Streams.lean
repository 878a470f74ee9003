import Mathlib.Data.List.Forall2
import Mathlib.Data.List.Perm.Basic
import KsqlBatch.Engine.Reply
import KsqlBatch.Proofs.Json.Members

/-
  This file says which streams a list of entities stands for.
  Every entity contributes its own ones, in order, and one
  that does not say what it has to spoils the whole list.

  Key definitions include:
    * `StreamInfo.HasFields`
    * `StreamInfo.IsStream`
    * `Reply.Lists`

  Key theorems include:
    * `StreamInfo.ofJson_eq_ok_iff`
    * `StreamInfo.ofJson_object_of_perm`
    * `Reply.entityStreams_eq_ok_iff`
    * `Reply.streams_append`

  The main result is `Reply.streams_homomorphism`.
-/

------------------------------------------------------------
-- Fields
------------------------------------------------------------

namespace KsqlBatch

/- What comes of two steps that may fail. -/
theorem bind_eq_ok_iff
    {ε α β : Type}
    {first : Except ε α}
    {next : α → Except ε β}
    {b : β} :
    (first >>= next) = .ok b ↔
      ∃ a, first = .ok a ∧ next a = .ok b := by
  cases first with
  | error e => exact ⟨nofun, by rintro ⟨a, ⟨⟩, _⟩⟩
  | ok a =>
      constructor
      · intro hNext
        exact ⟨a, rfl, hNext⟩
      · rintro ⟨_, ⟨⟩, hNext⟩
        exact hNext

namespace StreamInfo

/-
  What may be found where a field is looked for: a value, or
  nothing, which stands for a default.
-/
inductive ReadsAs
    {α : Type}
    (encode : α → Json)
    (default : α) : Option Json → α → Prop
| given
    (a : α) :
    ReadsAs encode default (some (encode a)) a
| lacking :
    ReadsAs encode default none default

variable {α : Type}
variable {encode : α → Json}
variable {default a : α}
variable {found : Option Json}

theorem readsAs_iff :
    ReadsAs encode default found a ↔
      ∃ given : Option α,
        found = given.map encode ∧ given.getD default = a := by
  constructor
  · intro hReads
    cases hReads with
    | given => exact ⟨some a, rfl, rfl⟩
    | lacking => exact ⟨none, rfl, rfl⟩
  · rintro ⟨given, rfl, rfl⟩
    cases given with
    | none => exact .lacking
    | some a => exact .given a

/- Only a text is read as one. -/
theorem readText_eq_ok_iff
    {value : Json}
    {text : String} :
    readText value = .ok text ↔ value = .string text := by
  cases value <;> simp [readText]

/- Only a truth value is read as one. -/
theorem readFlag_eq_ok_iff
    {value : Json}
    {flag : Bool} :
    readFlag value = .ok flag ↔ value = .bool flag := by
  cases value <;> simp [readFlag]

theorem readOptional_eq_ok_iff
    {read : Json → Except JsonMismatch α}
    {given : Option α}
    (hRead :
      ∀ value a, read value = .ok a ↔ value = encode a) :
    readOptional read found = .ok given ↔
      found = given.map encode := by
  cases found with
  | none =>
      cases given <;> simp [readOptional]
  | some value =>
      cases hValue : read value with
      | error mismatch =>
          have hOther : ∀ a, value ≠ encode a := by
            intro a hSame
            have hOk := (hRead value a).mpr hSame
            rw [hValue] at hOk
            cases hOk
          cases given <;>
            simp [readOptional, hValue, Except.map, hOther]
      | ok a =>
          have hSame : ∀ b, value = encode b ↔ a = b := by
            intro b
            rw [← hRead value b, hValue, Except.ok.injEq]
          cases given <;>
            simp [readOptional, hValue, Except.map, hSame]

theorem readOptional_readText_eq_ok_iff
    {given : Option String} :
    readOptional readText found = .ok given ↔
      found = given.map .string :=
  readOptional_eq_ok_iff fun _ _ => readText_eq_ok_iff

theorem readOptional_readFlag_eq_ok_iff
    {given : Option Bool} :
    readOptional readFlag found = .ok given ↔
      found = given.map .bool :=
  readOptional_eq_ok_iff fun _ _ => readFlag_eq_ok_iff

theorem require_eq_ok_iff
    {name : String}
    {given : Option α} :
    require name given = .ok a ↔ given = some a := by
  cases given <;> simp [require]

theorem requireElement_eq_ok_iff
    {length : Nat}
    {given : Option α} :
    requireElement length given = .ok a ↔
      given = some a := by
  cases given <;> simp [requireElement]

end StreamInfo

end KsqlBatch

------------------------------------------------------------
-- Valid Streams
------------------------------------------------------------

namespace KsqlBatch

namespace StreamInfo

/-
  The stream that is said by what is found for its fields.
  The last three may lack.
-/
structure HasFields
    (name topic keyFormat valueFormat isWindowed : Option Json)
    (stream : StreamInfo) : Prop where
  name_eq : name = some (.string stream.name)
  topic_eq : topic = some (.string stream.topic)
  keyFormat_reads :
    ReadsAs .string "" keyFormat stream.keyFormat
  valueFormat_reads :
    ReadsAs .string "" valueFormat stream.valueFormat
  isWindowed_reads :
    ReadsAs .bool false isWindowed stream.isWindowed

/-
  The values that are streams: objects with the fields as
  members, among any others, and arrays of the fields in
  order.
-/
inductive IsStream : Json → StreamInfo → Prop
| object
    (members : List (String × Json))
    (stream : StreamInfo)
    (hFields :
      stream.HasFields
        (Keyed.find? "name" members)
        (Keyed.find? "topic" members)
        (Keyed.find? "keyFormat" members)
        (Keyed.find? "valueFormat" members)
        (Keyed.find? "isWindowed" members)) :
    IsStream (.object members) stream
| array
    (elements : List Json)
    (stream : StreamInfo)
    (hLength : elements.length ≤ 5)
    (hFields :
      stream.HasFields elements[0]? elements[1]? elements[2]?
        elements[3]? elements[4]?) :
    IsStream (.array elements) stream

variable {stream : StreamInfo}

/- Reading members finds the stream that they say. -/
theorem ofMembers_eq_ok_iff
    {members : List (String × Json)} :
    ofMembers (.object members) = .ok stream ↔
      stream.HasFields
        (Keyed.find? "name" members)
        (Keyed.find? "topic" members)
        (Keyed.find? "keyFormat" members)
        (Keyed.find? "valueFormat" members)
        (Keyed.find? "isWindowed" members) := by
  unfold ofMembers
  simp only [bind_eq_ok_iff, readOptional_readText_eq_ok_iff,
    readOptional_readFlag_eq_ok_iff, require_eq_ok_iff,
    Json.get?, pure, Except.pure, Except.ok.injEq]
  constructor
  · rintro ⟨isWindowed, hIsWindowed, keyFormat, hKeyFormat, _,
      hName, _, hTopic, valueFormat, hValueFormat, name, rfl,
      topic, rfl, rfl⟩
    exact
      { name_eq := hName
        topic_eq := hTopic
        keyFormat_reads :=
          readsAs_iff.mpr ⟨keyFormat, hKeyFormat, rfl⟩
        valueFormat_reads :=
          readsAs_iff.mpr ⟨valueFormat, hValueFormat, rfl⟩
        isWindowed_reads :=
          readsAs_iff.mpr ⟨isWindowed, hIsWindowed, rfl⟩ }
  · rintro ⟨hName, hTopic, hKeyFormat, hValueFormat,
      hIsWindowed⟩
    rcases readsAs_iff.mp hKeyFormat with
      ⟨keyFormat, hKeyFormat, hKey⟩
    rcases readsAs_iff.mp hValueFormat with
      ⟨valueFormat, hValueFormat, hValue⟩
    rcases readsAs_iff.mp hIsWindowed with
      ⟨isWindowed, hIsWindowed, hWindowed⟩
    refine
      ⟨isWindowed, hIsWindowed, keyFormat, hKeyFormat,
        some stream.name, hName, some stream.topic, hTopic,
        valueFormat, hValueFormat, stream.name, rfl,
        stream.topic, rfl, ?_⟩
    rw [hKey, hValue, hWindowed]

/- Reading elements finds the stream that they say. -/
theorem ofElements_eq_ok_iff
    {elements : List Json} :
    ofElements elements = .ok stream ↔
      elements.length ≤ 5 ∧
      stream.HasFields elements[0]? elements[1]? elements[2]?
        elements[3]? elements[4]? := by
  have hEnd :
      ∀ other : StreamInfo,
        (if 5 < elements.length then
            .error (.tooLong elements.length)
          else return other : Except JsonMismatch StreamInfo) =
            .ok stream ↔
          elements.length ≤ 5 ∧ other = stream := by
    intro other
    split
    · rename_i hLong
      simp [Nat.not_le.mpr hLong]
    · rename_i hShort
      simp [Nat.not_lt.mp hShort, pure, Except.pure]
  unfold ofElements
  simp only [bind_eq_ok_iff, readOptional_readText_eq_ok_iff,
    readOptional_readFlag_eq_ok_iff, requireElement_eq_ok_iff,
    hEnd]
  constructor
  · rintro ⟨_, hName, name, rfl, _, hTopic, topic, rfl,
      keyFormat, hKeyFormat, valueFormat, hValueFormat,
      isWindowed, hIsWindowed, hLength, rfl⟩
    exact
      ⟨hLength,
        { name_eq := hName
          topic_eq := hTopic
          keyFormat_reads :=
            readsAs_iff.mpr ⟨keyFormat, hKeyFormat, rfl⟩
          valueFormat_reads :=
            readsAs_iff.mpr ⟨valueFormat, hValueFormat, rfl⟩
          isWindowed_reads :=
            readsAs_iff.mpr ⟨isWindowed, hIsWindowed, rfl⟩ }⟩
  · rintro ⟨hLength, hName, hTopic, hKeyFormat, hValueFormat,
      hIsWindowed⟩
    rcases readsAs_iff.mp hKeyFormat with
      ⟨keyFormat, hKeyFormat, hKey⟩
    rcases readsAs_iff.mp hValueFormat with
      ⟨valueFormat, hValueFormat, hValue⟩
    rcases readsAs_iff.mp hIsWindowed with
      ⟨isWindowed, hIsWindowed, hWindowed⟩
    refine
      ⟨some stream.name, hName, stream.name, rfl,
        some stream.topic, hTopic, stream.topic, rfl,
        keyFormat, hKeyFormat, valueFormat, hValueFormat,
        isWindowed, hIsWindowed, hLength, ?_⟩
    rw [hKey, hValue, hWindowed]

/- Exactly the values that are streams are read. -/
theorem ofJson_eq_ok_iff
    {value : Json} :
    ofJson value = .ok stream ↔ IsStream value stream := by
  constructor
  · intro hRead
    cases value with
    | object members =>
        exact .object members stream
          (ofMembers_eq_ok_iff.mp hRead)
    | array elements =>
        rcases ofElements_eq_ok_iff.mp hRead with
          ⟨hLength, hFields⟩
        exact .array elements stream hLength hFields
    | _ => cases hRead
  · intro hStream
    cases hStream with
    | object members _ hFields =>
        exact ofMembers_eq_ok_iff.mpr hFields
    | array elements _ hLength hFields =>
        exact ofElements_eq_ok_iff.mpr ⟨hLength, hFields⟩

end StreamInfo

end KsqlBatch

------------------------------------------------------------
-- Streams as Objects
------------------------------------------------------------

namespace KsqlBatch

namespace StreamInfo

/- The members of the object for a stream. -/
def members
    (stream : StreamInfo) : List (String × Json) :=
  [("isWindowed", .bool stream.isWindowed),
    ("keyFormat", .string stream.keyFormat),
    ("name", .string stream.name),
    ("topic", .string stream.topic),
    ("valueFormat", .string stream.valueFormat)]

/- The names of these members. -/
def memberNames : List String :=
  ["name", "topic", "keyFormat", "valueFormat", "isWindowed"]

/- The names of the members that may lack. -/
def optionalNames : List String :=
  ["keyFormat", "valueFormat", "isWindowed"]

/- The stream that is left if some members are left out. -/
def without
    (stream : StreamInfo)
    (dropped : List String) : StreamInfo where
  name := stream.name
  topic := stream.topic
  keyFormat :=
    if "keyFormat" ∈ dropped then "" else stream.keyFormat
  valueFormat :=
    if "valueFormat" ∈ dropped then "" else stream.valueFormat
  isWindowed :=
    if "isWindowed" ∈ dropped then false
    else stream.isWindowed

variable {stream : StreamInfo}
variable {members others : List (String × Json)}
variable {dropped : List String}

theorem sorted_members
    (stream : StreamInfo) : Keyed.Sorted stream.members := by
  unfold Keyed.Sorted StreamInfo.members
  simp only [List.pairwise_cons, List.forall_mem_cons,
    List.Pairwise.nil, and_true]
  decide +kernel

/- Other members do not change what is found for a field. -/
theorem find?_of_perm
    {name : String}
    (hName : name ∈ memberNames)
    (hUnrelated :
      ∀ member ∈ others, member.1 ∉ memberNames)
    (hPerm :
      members.Perm
        (stream.members.filter (·.1 ∉ dropped) ++ others)) :
    Keyed.find? name members =
      if name ∈ dropped then none
      else Keyed.find? name stream.members := by
  have hSorted :
      Keyed.Sorted (stream.members.filter (·.1 ∉ dropped)) :=
    stream.sorted_members.filter _
  have hKept :
      Keyed.find? name members =
        Keyed.find? name
          (stream.members.filter (·.1 ∉ dropped)) := by
    refine hSorted.find?_congr ?_
    intro value
    rw [hPerm.mem_iff, List.mem_append, or_iff_left]
    intro hOther
    exact hUnrelated _ hOther hName
  rw [hKept,
    Keyed.find?_filter name fun name => name ∉ dropped]
  simp

/- A field that may have been left out. -/
theorem readsAs_ite
    {α : Type}
    {isDropped : Prop}
    [Decidable isDropped]
    (encode : α → Json)
    (default a : α) :
    ReadsAs encode default
      (if isDropped then none else some (encode a))
      (if isDropped then default else a) := by
  split
  · exact .lacking
  · exact .given a

/-
  The object for a stream stands for it, whatever other
  members it has and in whatever order. The last fields may
  be left out.
-/
theorem ofJson_object_of_perm
    (hUnrelated :
      ∀ member ∈ others, member.1 ∉ memberNames)
    (hOptional : dropped ⊆ optionalNames)
    (hPerm :
      members.Perm
        (stream.members.filter (·.1 ∉ dropped) ++ others)) :
    ofJson (.object members) = .ok (stream.without dropped) := by
  have hFound :
      ∀ name ∈ memberNames,
        Keyed.find? name members =
          if name ∈ dropped then none
          else Keyed.find? name stream.members :=
    fun name hName => find?_of_perm hName hUnrelated hPerm
  have hName : "name" ∉ dropped :=
    fun hDropped => absurd (hOptional hDropped) (by decide)
  have hTopic : "topic" ∉ dropped :=
    fun hDropped => absurd (hOptional hDropped) (by decide)
  rw [ofJson_eq_ok_iff]
  refine .object members _ ?_
  rw [hFound "name" (by decide), hFound "topic" (by decide),
    hFound "keyFormat" (by decide),
    hFound "valueFormat" (by decide),
    hFound "isWindowed" (by decide), if_neg hName,
    if_neg hTopic]
  exact
    { name_eq := rfl
      topic_eq := rfl
      keyFormat_reads := readsAs_ite .string "" _
      valueFormat_reads := readsAs_ite .string "" _
      isWindowed_reads := readsAs_ite .bool false _ }

end StreamInfo

end KsqlBatch

------------------------------------------------------------
-- Entities
------------------------------------------------------------

namespace KsqlBatch

namespace Reply

/-
  The streams that an entity lists. Only entities of one type
  list any, in one of their members, which may lack.
-/
inductive Lists (entity : Json) : List StreamInfo → Prop
| unrelated
    (hType :
      entity.get? "@type" ≠ some (.string "streams")) :
    Lists entity []
| wordless
    (hType : entity.get? "@type" = some (.string "streams"))
    (hNone : entity.get? "streams" = none) :
    Lists entity []
| listed
    (elements : List Json)
    (found : List StreamInfo)
    (hType : entity.get? "@type" = some (.string "streams"))
    (hStreams :
      entity.get? "streams" = some (.array elements))
    (hFound :
      List.Forall₂ StreamInfo.IsStream elements found) :
    Lists entity found

variable {entity : Json}
variable {entities elements : List Json}
variable {found : List StreamInfo}

/- All elements of an array have to be streams. -/
theorem streamsIn_eq_ok_iff :
    streamsIn elements = .ok found ↔
      List.Forall₂ StreamInfo.IsStream elements found := by
  induction elements generalizing found with
  | nil =>
      rw [List.forall₂_nil_left_iff, streamsIn,
        Except.ok.injEq]
      exact eq_comm
  | cons element elements ih =>
      rw [streamsIn, List.forall₂_cons_left_iff]
      simp only [bind_eq_ok_iff, ih,
        StreamInfo.ofJson_eq_ok_iff, pure, Except.pure,
        Except.ok.injEq]
      constructor
      · rintro ⟨stream, hStream, streams, hStreams, rfl⟩
        exact ⟨stream, streams, hStream, hStreams, rfl⟩
      · rintro ⟨stream, streams, hStream, hStreams, rfl⟩
        exact ⟨stream, hStream, streams, hStreams, rfl⟩

theorem getString?_eq_some_iff
    {name text : String} :
    entity.getString? name = some text ↔
      entity.get? name = some (.string text) := by
  unfold Json.getString?
  cases entity.get? name with
  | none => simp
  | some value => cases value <;> simp [Json.string?]

/- An entity lists what is read off it. -/
theorem entityStreams_eq_ok_iff :
    entityStreams entity = .ok found ↔ Lists entity found := by
  unfold entityStreams
  by_cases hType :
      entity.get? "@type" = some (.string "streams")
  · rw [if_pos (getString?_eq_some_iff.mpr hType)]
    constructor
    · intro hRead
      split at hRead
      · rename_i hNone
        cases hRead
        exact .wordless hType hNone
      · rename_i elements hStreams
        exact
          .listed elements found hType hStreams
            (streamsIn_eq_ok_iff.mp hRead)
      · cases hRead
    · intro hLists
      cases hLists with
      | unrelated hOther => exact absurd hType hOther
      | wordless _ hNone => rw [hNone]
      | listed elements _ _ hStreams hFound =>
          rw [hStreams]
          exact streamsIn_eq_ok_iff.mpr hFound
  · rw [if_neg (mt getString?_eq_some_iff.mp hType)]
    constructor
    · rintro ⟨⟩
      exact .unrelated hType
    · intro hLists
      cases hLists with
      | unrelated _ => rfl
      | wordless hSame _ => exact absurd hSame hType
      | listed _ _ hSame _ _ => exact absurd hSame hType

/- The streams of all entities are those of each, in order. -/
theorem streams_eq_ok_iff :
    streams entities = .ok found ↔
      ∃ parts,
        List.Forall₂ Lists entities parts ∧
        found = parts.flatten := by
  induction entities generalizing found with
  | nil =>
      simp only [List.forall₂_nil_left_iff, exists_eq_left,
        List.flatten_nil, streams, Except.ok.injEq]
      exact eq_comm
  | cons entity entities ih =>
      simp only [List.forall₂_cons_left_iff]
      rw [streams]
      constructor
      · intro hRead
        split at hRead
        · cases hRead
        · rename_i part hPart
          split at hRead
          · cases hRead
          · rename_i later hLater
            cases hRead
            rcases ih.mp hLater with ⟨parts, hParts, rfl⟩
            exact
              ⟨part :: parts,
                ⟨part, parts,
                  entityStreams_eq_ok_iff.mp hPart, hParts,
                  rfl⟩,
                List.flatten_cons.symm⟩
      · rintro ⟨_, ⟨part, parts, hPart, hParts, rfl⟩, rfl⟩
        rw [entityStreams_eq_ok_iff.mpr hPart]
        simp only
        rw [ih.mpr ⟨parts, hParts, rfl⟩, List.flatten_cons]

/- A fault is worded as what does not fit. -/
theorem exists_mismatch_of_streams_eq_error
    {error : RunError}
    (hError : streams entities = .error error) :
    ∃ mismatch : JsonMismatch,
      error = .response mismatch.message := by
  induction entities with
  | nil => cases hError
  | cons entity entities ih =>
      rw [streams] at hError
      split at hError
      · rename_i mismatch _
        cases hError
        exact ⟨mismatch, rfl⟩
      · split at hError
        · rename_i hLater
          cases hError
          exact ih hLater
        · cases hError

/- The first part that fails decides, and nothing is kept. -/
theorem streams_append
    (entities later : List Json) :
    streams (entities ++ later) =
      match streams entities with
      | .error error => .error error
      | .ok found =>
          match streams later with
          | .error error => .error error
          | .ok others => .ok (found ++ others) := by
  induction entities with
  | nil =>
      rw [List.nil_append, streams]
      cases streams later <;> rfl
  | cons entity entities ih =>
      rw [List.cons_append, streams, streams, ih]
      cases entityStreams entity with
      | error mismatch => rfl
      | ok part =>
          cases streams entities with
          | error error => rfl
          | ok found =>
              cases streams later with
              | error error => rfl
              | ok others => simp

/-
  The streams that are listed by entities. Two lists of
  entities together list what each of them lists, or the one
  that fails first says why. What a list of entities stands
  for is what its entities stand for, in order. An object for
  a stream stands for this stream.
-/
theorem streams_homomorphism :
    (∀ entities later found,
      streams (entities ++ later) = .ok found ↔
        ∃ first second,
          streams entities = .ok first ∧
          streams later = .ok second ∧
          found = first ++ second) ∧
    (∀ entities later error,
      streams (entities ++ later) = .error error ↔
        streams entities = .error error ∨
          (∃ first, streams entities = .ok first) ∧
            streams later = .error error) ∧
    (∀ entities error,
      streams entities = .error error →
      ∃ mismatch : JsonMismatch,
        error = .response mismatch.message) ∧
    (∀ entities found,
      streams entities = .ok found ↔
        ∃ parts,
          List.Forall₂ Lists entities parts ∧
          found = parts.flatten) ∧
    ∀ (stream : StreamInfo)
      (members others : List (String × Json))
      (dropped : List String),
      (∀ member ∈ others,
        member.1 ∉ StreamInfo.memberNames) →
      dropped ⊆ StreamInfo.optionalNames →
      members.Perm
        (stream.members.filter (·.1 ∉ dropped) ++ others) →
      StreamInfo.ofJson (.object members) =
        .ok (stream.without dropped) := by
  refine
    ⟨?_, ?_,
      fun _ _ => exists_mismatch_of_streams_eq_error,
      fun _ _ => streams_eq_ok_iff,
      fun _ _ _ _ => StreamInfo.ofJson_object_of_perm⟩
  · intro entities later found
    rw [streams_append]
    cases streams entities <;> cases streams later <;>
      simp [eq_comm]
  · intro entities later error
    rw [streams_append]
    cases streams entities <;> cases streams later <;> simp

/-
  A stream without its formats among other members, streams
  in objects and in arrays between entities that list none,
  and a fault behind them.
-/
theorem streams_homomorphism_of_mixed_entities :
    let stream : StreamInfo :=
      { name := "S"
        topic := "t"
        keyFormat := "KAFKA"
        valueFormat := "JSON"
        isWindowed := true }
    let value : Json :=
      .object
        [("type", .string "STREAM"), ("topic", .string "t"),
          ("name", .string "S"), ("isWindowed", .bool true)]
    let type (name : String) : String × Json :=
      ("@type", .string name)
    let listed : Json :=
      .object
        [type "streams",
          ("streams",
            .array
              [value, .array [.string "T", .string "u"]])]
    let silent : List Json :=
      [.object [type "tables", ("streams", .bool true)],
        .object [type "streams"], .array [listed]]
    let broken : Json :=
      .object [type "streams", ("streams", .null)]
    StreamInfo.ofJson value =
        .ok (stream.without ["keyFormat", "valueFormat"]) ∧
      streams (silent ++ [listed]) =
        .ok
          [{ name := "S"
             topic := "t"
             keyFormat := ""
             valueFormat := ""
             isWindowed := true },
            { name := "T"
              topic := "u"
              keyFormat := ""
              valueFormat := ""
              isWindowed := false }] ∧
      streams ((silent ++ [listed]) ++ [broken]) =
        .error
          (.response
            "invalid type: null, expected a sequence") := by
  intro stream value type listed silent broken
  rcases streams_homomorphism with
    ⟨_, hError, _, hOk, hObject⟩
  have hKept :
      stream.members.filter
          (·.1 ∉ ["keyFormat", "valueFormat"]) =
        [("isWindowed", .bool true), ("name", .string "S"),
          ("topic", .string "t")] := by
    rfl
  have hValue :
      StreamInfo.ofJson value =
        .ok (stream.without ["keyFormat", "valueFormat"]) := by
    refine
      hObject stream _ [("type", .string "STREAM")]
        ["keyFormat", "valueFormat"] (by decide) (by decide) ?_
    rw [hKept]
    exact (List.reverse_perm _).symm
  have hListed :
      streams (silent ++ [listed]) =
        .ok
          [stream.without ["keyFormat", "valueFormat"],
            { name := "T"
              topic := "u"
              keyFormat := ""
              valueFormat := ""
              isWindowed := false }] := by
    refine (hOk _ _).mpr ⟨[[], [], [], [_, _]], ?_, rfl⟩
    refine
      .cons
        (.unrelated
          (mt getString?_eq_some_iff.mpr (by decide)))
        (.cons (.wordless rfl rfl)
          (.cons (.unrelated nofun)
            (.cons (.listed _ _ rfl rfl ?_) .nil)))
    refine .cons ?_ (.cons ?_ .nil)
    · exact StreamInfo.ofJson_eq_ok_iff.mp hValue
    · exact
        .array _ _ (by decide)
          ⟨rfl, rfl, .lacking, .lacking, .lacking⟩
  refine ⟨hValue, hListed, ?_⟩
  exact (hError _ _ _).mpr (.inr ⟨⟨_, hListed⟩, rfl⟩)

end Reply

end KsqlBatch
