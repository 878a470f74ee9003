import Mathlib.Data.Finset.Card
import KsqlBatch.Proofs.Engine.Requests
import KsqlBatch.Proofs.Gathering
import KsqlBatch.Proofs.Text.ByteOrder

/-
  This file shows that properties have one form, however they
  were set. The keys are listed in the order of their bytes
  with the values that were set last, and the texts that are
  made of properties differ only if a value does.

  Key definitions include:
    * `PropertyMap.exchangeAll`
    * `PropertyMap.gather`
    * `PropertyMap.SetsLast`

  Key theorems include:
    * `PropertyMap.exchange_eq`
    * `PropertyMap.getElem?_exchangeAll`
    * `PropertyMap.mem_ofList_iff`
    * `PropertyMap.size_ofList`
    * `PropertyMap.has_one_form`
-/

------------------------------------------------------------
-- Exchange
------------------------------------------------------------

namespace KsqlBatch

/- An exchange gives back what was found under the key. -/
theorem Keyed.Sorted.fst_exchange
    {β : Type}
    {entries : List (String × β)}
    (hSorted : Sorted entries)
    (key : String)
    (value : β) :
    (exchange key value entries).1 = find? key entries := by
  induction entries with
  | nil => rfl
  | cons head rest ih =>
      rcases List.pairwise_cons.mp hSorted with
        ⟨hHead, hRest⟩
      rw [exchange, find?]
      split
      · rename_i hLess
        rw [if_neg (String.ne_of_lt hLess),
          find?_eq_none_of_lt]
        intro entry hEntry
        exact String.lt_trans hLess (hHead entry hEntry)
      · split
        · rfl
        · exact ih hRest

namespace PropertyMap

/- What an exchange gives back and what it leaves behind. -/
theorem exchange_eq
    (properties : PropertyMap)
    (key value : String) :
    properties.exchange key value =
      (properties.get? key, properties.insert key value) := by
  refine Prod.ext ?_ ?_
  · exact properties.sorted.fst_exchange key value
  · apply PropertyMap.ext
    exact Keyed.snd_exchange key value properties.entries

/-
  Set properties one after the other, and list what each of
  them gives back.
-/
def exchangeAll
    (properties : PropertyMap) :
    List (String × String) →
    List (Option String) × PropertyMap
| [] => ([], properties)
| (key, value) :: pairs =>
    match properties.exchange key value with
    | (previous, properties) =>
        match properties.exchangeAll pairs with
        | (others, last) => (previous :: others, last)

theorem snd_exchangeAll
    (properties : PropertyMap)
    (pairs : List (String × String)) :
    (properties.exchangeAll pairs).2 =
      pairs.foldl
        (fun found pair => found.insert pair.1 pair.2)
        properties := by
  induction pairs generalizing properties with
  | nil => rfl
  | cons pair pairs ih =>
      rw [exchangeAll, exchange_eq, List.foldl_cons]
      exact ih _

/- Each property gives back what was found right before. -/
theorem getElem?_exchangeAll
    (properties : PropertyMap)
    (before : List (String × String))
    (key value : String)
    (later : List (String × String)) :
    (properties.exchangeAll
        (before ++ (key, value) :: later)).1[before.length]? =
      some ((properties.exchangeAll before).2.get? key) := by
  induction before generalizing properties with
  | nil =>
      rw [List.nil_append, exchangeAll, exchangeAll,
        exchange_eq]
      rfl
  | cons pair before ih =>
      rw [List.cons_append, exchangeAll, exchangeAll]
      exact ih _

end PropertyMap

end KsqlBatch

------------------------------------------------------------
-- Last Values
------------------------------------------------------------

namespace KsqlBatch

namespace PropertyMap

/- The last pair with this key has this value. -/
def SetsLast
    (pairs : List (String × String))
    (key value : String) : Prop :=
  ∃ before later,
    pairs = before ++ (key, value) :: later ∧
    key ∉ later.map Prod.fst

/- The properties are kept as the pairs themselves are. -/
theorem entries_ofList
    (pairs : List (String × String)) :
    (ofList pairs).entries = Keyed.ofList pairs := by
  have hFold :
      ∀ properties : PropertyMap,
        (pairs.foldl
            (fun found pair => found.insert pair.1 pair.2)
            properties).entries =
          pairs.foldl
            (fun entries pair =>
              Keyed.insert pair.1 pair.2 entries)
            properties.entries := by
    induction pairs with
    | nil => exact fun _ => rfl
    | cons pair pairs ih => exact fun _ => ih _
  exact hFold empty

/- An entry is what is found under its key. -/
theorem mem_entries_iff
    {properties : PropertyMap}
    {key value : String} :
    (key, value) ∈ properties.entries ↔
      properties.get? key = some value :=
  ⟨properties.sorted.find?_of_mem,
    Keyed.mem_of_find?_eq_some⟩

theorem get?_ofList_eq_some_iff
    {pairs : List (String × String)}
    {key value : String} :
    (ofList pairs).get? key = some value ↔
      SetsLast pairs key value := by
  unfold get?
  rw [entries_ofList, Keyed.find?_ofList]
  exact Keyed.find?_reverse_eq_some_iff

/- Each key is listed with the value that it got last. -/
theorem mem_ofList_iff
    {pairs : List (String × String)}
    {key value : String} :
    (key, value) ∈ (ofList pairs).entries ↔
      SetsLast pairs key value :=
  mem_entries_iff.trans get?_ofList_eq_some_iff

/- The keys that are listed are those of the pairs. -/
theorem mem_keys_ofList_iff
    {pairs : List (String × String)}
    {key : String} :
    key ∈ (ofList pairs).entries.map Prod.fst ↔
      key ∈ pairs.map Prod.fst := by
  rw [← not_iff_not, ← Keyed.find?_eq_none_iff,
    entries_ofList, Keyed.find?_ofList,
    Keyed.find?_eq_none_iff, List.map_reverse,
    List.mem_reverse]

/- No key is listed twice. -/
theorem nodup_keys
    (properties : PropertyMap) :
    (properties.entries.map Prod.fst).Nodup := by
  unfold List.Nodup
  rw [List.pairwise_map]
  exact properties.sorted.imp String.ne_of_lt

/- There are as many properties as keys. -/
theorem size_ofList
    (pairs : List (String × String)) :
    (ofList pairs).size =
      (pairs.map Prod.fst).toFinset.card := by
  have hKeys :
      ((ofList pairs).entries.map Prod.fst).toFinset =
        (pairs.map Prod.fst).toFinset := by
    apply Finset.ext
    intro key
    rw [List.mem_toFinset, List.mem_toFinset]
    exact mem_keys_ofList_iff
  rw [← hKeys,
    List.toFinset_card_of_nodup (nodup_keys _),
    List.length_map]
  rfl

/- The keys are listed in the order of their bytes. -/
theorem pairwise_bytes_lt
    (properties : PropertyMap) :
    (properties.entries.map fun entry =>
      Text.bytes entry.1).Pairwise (· < ·) := by
  rw [List.pairwise_map]
  exact properties.sorted.imp Text.lt_iff_bytes_lt.mp

end PropertyMap

end KsqlBatch

------------------------------------------------------------
-- Texts
------------------------------------------------------------

namespace KsqlBatch

namespace PropertyMap

/- The JSON text of properties stands for them. -/
theorem read?_render_toJson
    (properties : PropertyMap) :
    Json.read? properties.toJson.render =
      some properties.toJson := by
  have hLength :=
    Json.length_le_length_text properties.members
  rw [← toJson_eq] at hLength
  apply properties.readsBack_toJson.read?_render
  · omega
  · decide

/- Properties with the same JSON text are the same. -/
theorem render_toJson_inj
    {properties others : PropertyMap} :
    properties.toJson.render = others.toJson.render ↔
      properties = others := by
  constructor
  · intro hText
    have hRead := properties.read?_render_toJson
    rw [hText, read?_render_toJson, Option.some.injEq,
      toJson_eq, toJson_eq, Json.object.injEq] at hRead
    have hMembers := others.ofMembers?_members
    rw [hRead, ofMembers?_members, Option.some.injEq]
      at hMembers
    exact hMembers
  · intro hSame
    rw [hSame]

end PropertyMap

end KsqlBatch

------------------------------------------------------------
-- One Form
------------------------------------------------------------

namespace KsqlBatch

namespace PropertyMap

/-
  The properties in a list of pairs, which are sorted before
  they are stored.
-/
def gather
    (pairs : List (String × String)) : PropertyMap where
  entries := Keyed.gather pairs
  sorted := Keyed.sorted_gather pairs

theorem gather_eq_ofList
    (pairs : List (String × String)) :
    gather pairs = ofList pairs := by
  apply PropertyMap.ext
  rw [entries_ofList]
  exact Keyed.gather_eq_ofList pairs

theorem snd_exchangeAll_empty
    (pairs : List (String × String)) :
    (empty.exchangeAll pairs).2 = ofList pairs :=
  snd_exchangeAll empty pairs

/-
  Pairs set the same properties if they set the same values
  last.
-/
theorem ofList_eq_ofList_iff
    {pairs others : List (String × String)} :
    ofList pairs = ofList others ↔
      ∀ key value,
        SetsLast pairs key value ↔
          SetsLast others key value := by
  constructor
  · intro hSame key value
    rw [← mem_ofList_iff, ← mem_ofList_iff, hSame]
  · intro hLast
    apply ext_get?
    intro key
    apply Option.ext
    intro value
    rw [get?_ofList_eq_some_iff, get?_ofList_eq_some_iff]
    exact hLast key value

/-
  Properties that are set one after the other are listed in
  the order of the bytes of their keys, each once and with
  the value it was set to last. Setting one gives back the
  value it had, and gathering the pairs comes to the same.
  Properties are equal if their values are, and just then
  their JSON text is the same, and the body of each request
  that is made with them.
-/
theorem has_one_form :
    (∀ pairs,
      let properties := (empty.exchangeAll pairs).2
      (properties.entries.map fun entry =>
        Text.bytes entry.1).Pairwise (· < ·) ∧
      (∀ key value,
        (key, value) ∈ properties.entries ↔
          SetsLast pairs key value) ∧
      properties.size =
        (pairs.map Prod.fst).toFinset.card ∧
      gather pairs = properties ∧
      ofList pairs = properties) ∧
    (∀ before key value later,
      (empty.exchangeAll
          (before ++ (key, value) :: later)).1[before.length]? =
        some ((empty.exchangeAll before).2.get? key)) ∧
    (∀ properties others : PropertyMap,
      (properties = others ↔
        ∀ key, properties.get? key = others.get? key) ∧
      (properties = others ↔
        properties.toJson.render = others.toJson.render) ∧
      ∀ (client : Client) (text : String),
        properties = others ↔
          (client.request text properties).body =
            (client.request text others).body) ∧
    ∀ pairs others,
      (∀ key value,
        SetsLast pairs key value ↔
          SetsLast others key value) ↔
      (empty.exchangeAll pairs).2 =
        (empty.exchangeAll others).2 := by
  refine ⟨?_, getElem?_exchangeAll empty, ?_, ?_⟩
  · intro pairs properties
    have hPairs : properties = ofList pairs :=
      snd_exchangeAll_empty pairs
    rw [hPairs]
    refine ⟨?_, ?_, ?_, ?_, rfl⟩
    · exact pairwise_bytes_lt _
    · exact fun _ _ => mem_ofList_iff
    · exact size_ofList pairs
    · exact gather_eq_ofList pairs
  · intro properties others
    refine ⟨⟨?_, ext_get?⟩, render_toJson_inj.symm, ?_⟩
    · intro hSame key
      rw [hSame]
    · intro client text
      refine ⟨?_, ?_⟩
      · intro hSame
        rw [hSame]
      · intro hBody
        exact (Request.eq_of_body_eq hBody).2
  · intro pairs others
    rw [snd_exchangeAll_empty, snd_exchangeAll_empty]
    exact ofList_eq_ofList_iff.symm

/- Keys are compared byte by byte, and the last value wins. -/
example :
    let pairs :=
      [("～", "1"), ("a", "2"), ("𝓐", "3"),
        ("A", "4"), ("a", "5")]
    (ofList pairs).toJson.render =
        "\x7b\"A\":\"4\",\"a\":\"5\"," ++
          "\"～\":\"1\",\"𝓐\":\"3\"\x7d" ∧
      (empty.exchangeAll pairs).1 =
        [none, none, none, none, some "2"] := by
  decide +kernel

end PropertyMap

end KsqlBatch
