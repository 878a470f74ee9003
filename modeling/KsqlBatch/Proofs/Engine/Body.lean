import KsqlBatch.Engine.Message
import KsqlBatch.Proofs.Json.RoundTrip
import KsqlBatch.Proofs.Script.Properties

/-
  This file reads the bodies of requests: each of them stands
  for the statement and the properties it was made from.

  Key definitions include:
    * `PropertyMap.ofMembers?`
    * `Request.decode?`

  Key theorems include:
    * `Request.read?_render_encode`
    * `Request.decode?_body`
-/

------------------------------------------------------------
-- Properties
------------------------------------------------------------

namespace KsqlBatch

namespace PropertyMap

/- The properties that members of an object set. -/
def ofMembers?
    (members : List (String × Json)) : Option PropertyMap :=
  let pairs :=
    members.mapM fun (key, value) =>
      value.string?.map fun text => (key, text)
  pairs.map ofList

/- Properties are set again by listing them. -/
theorem ofList_entries
    (properties : PropertyMap) :
    ofList properties.entries = properties :=
  empty_overwrite properties

/- The members that stand for properties. -/
def members
    (properties : PropertyMap) : List (String × Json) :=
  properties.entries.map fun (key, value) =>
    (key, .string value)

theorem toJson_eq
    (properties : PropertyMap) :
    properties.toJson = .object properties.members := rfl

theorem ofMembers?_members
    (properties : PropertyMap) :
    ofMembers? properties.members = some properties := by
  have hPairs :
      properties.members.mapM
          (fun (key, value) =>
            value.string?.map fun text => (key, text)) =
        some properties.entries := by
    unfold members
    induction properties.entries with
    | nil => rfl
    | cons entry entries ih =>
        rw [List.map_cons, List.mapM_cons, ih]
        rfl
  unfold ofMembers?
  rw [hPairs, Option.map_some, ofList_entries]

/- The members stand in the order of their names. -/
theorem sorted_members
    (properties : PropertyMap) :
    Keyed.Sorted properties.members := by
  unfold Keyed.Sorted members
  rw [List.pairwise_map]
  exact properties.sorted

/- Properties are read back from their JSON text. -/
theorem readsBack_toJson
    (properties : PropertyMap) :
    Json.ReadsBack (2 * properties.members.length + 3) 1
      properties.toJson := by
  rw [toJson_eq]
  apply Json.readsBack_object
  · intro member hMember
    rcases List.mem_map.mp hMember with ⟨entry, _, rfl⟩
    exact Json.readsBack_string entry.2
  · exact properties.sorted_members

end PropertyMap

end KsqlBatch

------------------------------------------------------------
-- Bodies
------------------------------------------------------------

namespace KsqlBatch

namespace Request

/-
  The statement and the properties in a body: an object with
  just the two members for them.
-/
def decode?
    (body : String) : Option (String × PropertyMap) :=
  match Json.read? body with
  | some
      (.object
        [(first, .string text), (second, .object members)]) =>
      if first = "ksql" ∧ second = "streamsProperties" then
        (PropertyMap.ofMembers? members).map fun properties =>
          (text, properties)
      else none
  | _ => none

/- The members of a body take up part of its text. -/
theorem length_members_lt
    (text : String)
    (properties : PropertyMap) :
    properties.members.length + 2 ≤
      (encode text properties).text.length := by
  have hMembers :=
    Json.length_le_length_text properties.members
  unfold encode
  rw [Json.text_object, Json.membersText_cons,
    Json.laterText_cons, Json.memberText, Json.memberText,
    PropertyMap.toJson_eq]
  simp only [List.length_cons, List.length_append]
  omega

/- A body is JSON text for the statement and properties. -/
theorem read?_render_encode
    (text : String)
    (properties : PropertyMap) :
    Json.read? (encode text properties).render =
      some (encode text properties) := by
  have hMembers :
      ∀ member ∈
          [("ksql", Json.string text),
            ("streamsProperties", properties.toJson)],
        Json.ReadsBack (2 * properties.members.length + 3) 1
          member.2 := by
    intro member hMember
    simp only [List.mem_cons, List.not_mem_nil, or_false]
      at hMember
    rcases hMember with rfl | rfl
    · exact
        (Json.readsBack_string text).mono (by omega)
          (by omega)
    · exact properties.readsBack_toJson
  have hOrder : "ksql" < "streamsProperties" := by decide
  have hSorted :
      Keyed.Sorted
        [("ksql", Json.string text),
          ("streamsProperties", properties.toJson)] :=
    List.pairwise_pair.mpr hOrder
  have hReads := Json.readsBack_object hMembers hSorted
  have hLength := length_members_lt text properties
  apply hReads.read?_render
  · rw [List.length_cons, List.length_singleton]
    unfold encode at hLength
    omega
  · omega

/- A body is read back as what it was made from. -/
theorem decode?_body
    (baseUrl : String)
    (credentials : Option Credentials)
    (text : String)
    (properties : PropertyMap) :
    decode?
        (forStatement baseUrl credentials text
          properties).body =
      some (text, properties) := by
  have hBody :
      (forStatement baseUrl credentials text
        properties).body =
        (encode text properties).render := by
    rw [forStatement]
  unfold decode?
  rw [hBody, read?_render_encode, encode,
    PropertyMap.toJson_eq]
  simp [PropertyMap.ofMembers?_members]

end Request

end KsqlBatch
