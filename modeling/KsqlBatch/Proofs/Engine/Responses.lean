import KsqlBatch.Proofs.Engine.Body
import KsqlBatch.Proofs.Engine.Client
import KsqlBatch.Proofs.Json.Members

/-
  This file says what a response means to the one who has
  sent a statement: there is one answer for each status and
  each body, whatever the shape of the JSON value in it.

  Key definitions include:
    * `Reply.FirstWith`
    * `Reply.FailureMessage`
    * `Reply.HasEntities`
    * `Reply.ReportsError`
    * `Reply.Describes`
    * `Reply.Means`

  Key theorems include:
    * `Reply.describes_iff`
    * `Reply.means_iff`
    * `Client.execute_exactly`
-/

------------------------------------------------------------
-- First Entities
------------------------------------------------------------

namespace KsqlBatch

namespace Reply

variable {α : Type}

/- No entity says anything. -/
def NoneWith
    (Says : Json → α → Prop)
    (entities : List Json) : Prop :=
  ∀ entity ∈ entities, ∀ a, ¬ Says entity a

/-
  What the first entity says that says anything: no entity
  in front of it does.
-/
def FirstWith
    (Says : Json → α → Prop)
    (entities : List Json)
    (a : α) : Prop :=
  ∃ before entity after,
    entities = before ++ entity :: after ∧
    Says entity a ∧
    NoneWith Says before

variable {Says : Json → α → Prop}
variable {say? : Json → Option α}
variable {entities : List Json}

/- Searching entities finds nothing if none says anything. -/
theorem noneWith_iff
    (hSay :
      ∀ entity ∈ entities,
        ∀ a, Says entity a ↔ say? entity = some a) :
    NoneWith Says entities ↔
      entities.findSome? say? = none := by
  rw [List.findSome?_eq_none_iff]
  constructor
  · intro hNone entity hEntity
    rw [Option.eq_none_iff_forall_ne_some]
    intro a hFound
    have hSays := (hSay entity hEntity a).mpr hFound
    exact hNone entity hEntity a hSays
  · intro hNone entity hEntity a hSays
    have hFound := (hSay entity hEntity a).mp hSays
    rw [hNone entity hEntity] at hFound
    cases hFound

/- Searching entities finds what the first one says. -/
theorem firstWith_iff
    {a : α}
    (hSay :
      ∀ entity ∈ entities,
        ∀ a, Says entity a ↔ say? entity = some a) :
    FirstWith Says entities a ↔
      entities.findSome? say? = some a := by
  rw [List.findSome?_eq_some_iff]
  constructor
  · rintro ⟨before, entity, after, rfl, hSays, hNone⟩
    rw [List.forall_mem_append, List.forall_mem_cons] at hSay
    rcases hSay with ⟨hBefore, hEntity, _⟩
    have hMissed := (noneWith_iff hBefore).mp hNone
    exact
      ⟨before, entity, after, rfl, (hEntity a).mp hSays,
        List.findSome?_eq_none_iff.mp hMissed⟩
  · rintro ⟨before, entity, after, rfl, hFound, hMissed⟩
    rw [List.forall_mem_append, List.forall_mem_cons] at hSay
    rcases hSay with ⟨hBefore, hEntity, _⟩
    have hNone :=
      (noneWith_iff hBefore).mpr
        (List.findSome?_eq_none_iff.mpr hMissed)
    exact
      ⟨before, entity, after, rfl, (hEntity a).mpr hFound,
        hNone⟩

end Reply

end KsqlBatch

------------------------------------------------------------
-- Messages
------------------------------------------------------------

namespace KsqlBatch

namespace Reply

/-
  The message of a response that failed: its body says it, or
  else it is the body without the blanks around it.
-/
inductive FailureMessage (body : String) : String → Prop
| named
    (value : Json)
    (message : String)
    (hBody : Json.read? body = some value)
    (hMessage : value.HasMember "message" (.string message)) :
    FailureMessage body message
| unnamed
    (hNone :
      ∀ value message,
        Json.read? body = some value →
        ¬ value.HasMember "message" (.string message)) :
    FailureMessage body (Text.trimWhiteSpace body)

/- A response that failed has one message. -/
theorem failureMessage_iff
    {body message : String} :
    FailureMessage body message ↔
      message = errorMessage body := by
  have hNamed :
      ∀ text,
        (Json.read? body).bind (·.getString? "message") =
            some text ↔
          ∃ value,
            Json.read? body = some value ∧
            value.HasMember "message" (.string text) := by
    intro text
    rw [Option.bind_eq_some_iff]
    refine exists_congr fun value => and_congr_right ?_
    intro hBody
    exact
      (Json.isOrdered_of_read? hBody).getString?_eq_some_iff
  unfold errorMessage
  constructor
  · rintro (⟨value, _, hBody, hMessage⟩ | hNone)
    · rw [(hNamed message).mpr ⟨value, hBody, hMessage⟩]
    · split
      · rename_i text hFound
        rcases (hNamed text).mp hFound with
          ⟨value, hBody, hMessage⟩
        exact absurd hMessage (hNone value text hBody)
      · rfl
  · rintro rfl
    split
    · rename_i text hFound
      rcases (hNamed text).mp hFound with
        ⟨value, hBody, hMessage⟩
      exact .named value text hBody hMessage
    · rename_i hMissed
      refine .unnamed ?_
      intro value text hBody hMessage
      have hFound :=
        (hNamed text).mpr ⟨value, hBody, hMessage⟩
      rw [hMissed] at hFound
      cases hFound

/- The entity is an error, of one of the two types. -/
def IsErrorOf
    (entity : Json)
    (type : String) : Prop :=
  entity.HasMember "@type" (.string type) ∧
    (type = "statement_error" ∨ type = "generic_error")

/-
  The entity is an error with this message. If it does not
  say a message, its type is the message.
-/
inductive ReportsError (entity : Json) : String → Prop
| worded
    (type message : String)
    (hType : IsErrorOf entity type)
    (hMessage : entity.HasMember "message" (.string message)) :
    ReportsError entity message
| wordless
    (type : String)
    (hType : IsErrorOf entity type)
    (hNone :
      ∀ message,
        ¬ entity.HasMember "message" (.string message)) :
    ReportsError entity type

/- An error that is found is one, with its message. -/
theorem reportsError_iff
    {entity : Json}
    {message : String}
    (hOrdered : entity.IsOrdered) :
    ReportsError entity message ↔
      entityError? entity = some message := by
  have hString :
      ∀ name text,
        entity.HasMember name (.string text) ↔
          entity.getString? name = some text :=
    fun name text => hOrdered.getString?_eq_some_iff.symm
  have hNoMessage :
      (∀ text, ¬ entity.HasMember "message" (.string text)) ↔
        entity.getString? "message" = none := by
    rw [Option.eq_none_iff_forall_ne_some]
    exact forall_congr' fun text => not_congr (hString _ _)
  have hTypes :
      ∀ type,
        type ∈ errorTypes ↔
          type = "statement_error" ∨
            type = "generic_error" := by
    intro type
    simp [errorTypes]
  unfold entityError?
  constructor
  · rintro (⟨type, _, hType, hMessage⟩ |
      ⟨_, hType, hNone⟩)
    · rw [(hString _ _).mp hType.1]
      simp only [(hTypes type).mpr hType.2, if_true,
        (hString _ _).mp hMessage, Option.getD_some]
    · rw [(hString _ _).mp hType.1]
      simp only [(hTypes message).mpr hType.2, if_true,
        hNoMessage.mp hNone, Option.getD_none]
  · intro hFound
    split at hFound
    · cases hFound
    · rename_i type hType
      split at hFound
      · rename_i hKnown
        cases hFound
        have hError : IsErrorOf entity type :=
          ⟨(hString _ _).mpr hType, (hTypes type).mp hKnown⟩
        cases hMessage : entity.getString? "message" with
        | none =>
            exact
              .wordless type hError
                (hNoMessage.mpr hMessage)
        | some text =>
            exact
              .worded type text hError
                ((hString _ _).mpr hMessage)
      · cases hFound

end Reply

end KsqlBatch

------------------------------------------------------------
-- Entities
------------------------------------------------------------

namespace KsqlBatch

namespace Reply

/-
  The entities of a value: the elements of an array, or the
  value itself if it is anything else.
-/
inductive HasEntities : Json → List Json → Prop
| listed
    (elements : List Json) :
    HasEntities (.array elements) elements
| single
    (value : Json)
    (hSingle : ∀ elements, value ≠ .array elements) :
    HasEntities value [value]

variable {value : Json}
variable {entities : List Json}

/- Every value has entities. -/
theorem exists_hasEntities
    (value : Json) :
    ∃ entities, HasEntities value entities := by
  by_cases hArray : ∃ elements, value = .array elements
  · rcases hArray with ⟨elements, rfl⟩
    exact ⟨elements, .listed elements⟩
  · refine ⟨[value], .single value ?_⟩
    intro elements hSame
    exact hArray ⟨elements, hSame⟩

/- A body that is JSON text has the entities of its value. -/
theorem entities_eq_ok_iff
    {body : String} :
    Reply.entities body = .ok entities ↔
      ∃ value,
        Json.read? body = some value ∧
        HasEntities value entities := by
  unfold Reply.entities
  simp only [Json.read?_eq_some_iff]
  constructor
  · intro hRead
    split at hRead
    · rename_i hBody
      cases hRead
      exact ⟨_, hBody, .listed entities⟩
    · rename_i value hSingle hBody
      cases hRead
      refine ⟨value, hBody, .single value ?_⟩
      rintro elements rfl
      exact hSingle elements rfl
    · cases hRead
  · rintro ⟨value, hBody, hEntities⟩
    cases hEntities with
    | listed elements => rw [hBody]
    | single value hSingle =>
        rw [hBody]
        cases value with
        | array elements => exact absurd rfl (hSingle elements)
        | _ => rfl

/- The entities of an ordered value are ordered. -/
theorem HasEntities.isOrdered
    (hEntities : HasEntities value entities)
    (hOrdered : value.IsOrdered) :
    ∀ entity ∈ entities, entity.IsOrdered := by
  cases hEntities with
  | listed elements =>
      cases hOrdered with
      | array _ hElements => exact hElements
  | single value _ =>
      intro entity hEntity
      rw [List.mem_singleton.mp hEntity]
      exact hOrdered

/- The entity has a command status, of any kind. -/
def HasStatus
    (entity status : Json) : Prop :=
  entity.HasMember "commandStatus" status

/-
  A result describes entities. What it says of the command
  are the texts in one command status, which is that of the
  first entity that has one.
-/
inductive Describes
    (entities : List Json) : ExecutionResult → Prop
| command
    (status : Json)
    (queryId state message : Option String)
    (hStatus : FirstWith HasStatus entities status)
    (hQueryId :
      ∀ text,
        queryId = some text ↔
          status.HasMember "queryId" (.string text))
    (hState :
      ∀ text,
        state = some text ↔
          status.HasMember "status" (.string text))
    (hMessage :
      ∀ text,
        message = some text ↔
          status.HasMember "message" (.string text)) :
    Describes entities
      { queryId, status := state, message, entities }
| noCommand
    (hNone : NoneWith HasStatus entities) :
    Describes entities
      { queryId := none
        status := none
        message := none
        entities }

/- Entities are described by one result. -/
theorem describes_iff
    {result : ExecutionResult}
    (hOrdered : ∀ entity ∈ entities, entity.IsOrdered) :
    Describes entities result ↔
      result = executionResult entities := by
  have hSay :
      ∀ entity ∈ entities, ∀ status,
        HasStatus entity status ↔
          entity.get? "commandStatus" = some status := by
    intro entity hEntity status
    exact (hOrdered entity hEntity).get?_eq_some_iff.symm
  -- Only in an ordered status are texts found by name.
  have hStatusOrdered :
      ∀ status,
        FirstWith HasStatus entities status →
        status.IsOrdered := by
    rintro status ⟨before, entity, after, rfl, hHas, _⟩
    exact (hOrdered entity (by simp)).of_hasMember hHas
  unfold executionResult
  constructor
  · intro hDescribes
    cases hDescribes with
    | command status _ _ _ hStatus hQueryId hState hMessage =>
        have hIsOrdered := hStatusOrdered status hStatus
        rw [(firstWith_iff hSay).mp hStatus,
          hIsOrdered.eq_getString? hQueryId,
          hIsOrdered.eq_getString? hState,
          hIsOrdered.eq_getString? hMessage]
        rfl
    | noCommand hNone =>
        rw [(noneWith_iff hSay).mp hNone]
        rfl
  · rintro rfl
    cases hFound :
        entities.findSome? (·.get? "commandStatus") with
    | none => exact .noCommand ((noneWith_iff hSay).mpr hFound)
    | some status =>
        have hStatus := (firstWith_iff hSay).mpr hFound
        have hIsOrdered := hStatusOrdered status hStatus
        exact
          .command status _ _ _ hStatus
            (fun _ => hIsOrdered.getString?_eq_some_iff)
            (fun _ => hIsOrdered.getString?_eq_some_iff)
            (fun _ => hIsOrdered.getString?_eq_some_iff)

end Reply

end KsqlBatch

------------------------------------------------------------
-- Answers
------------------------------------------------------------

namespace KsqlBatch

namespace Reply

/-
  What a response with a status and a body means to the one
  who has sent a statement.
-/
inductive Means
    (statement : String)
    (status : Nat)
    (body : String) :
    Except RunError ExecutionResult → Prop
| failure
    (message : String)
    (hStatus : ¬ (200 ≤ status ∧ status < 300))
    (hMessage : FailureMessage body message) :
    Means statement status body
      (.error (.rejected statement status message))
| unreadable
    (fault : String)
    (hStatus : 200 ≤ status ∧ status < 300)
    (hBody : Json.read body = .error fault) :
    Means statement status body
      (.error (.response (fault ++ ": '" ++ body ++ "'")))
| rejection
    (value : Json)
    (entities : List Json)
    (message : String)
    (hStatus : 200 ≤ status ∧ status < 300)
    (hBody : Json.read? body = some value)
    (hEntities : HasEntities value entities)
    (hError : FirstWith ReportsError entities message) :
    Means statement status body
      (.error (.rejected statement status message))
| success
    (value : Json)
    (entities : List Json)
    (result : ExecutionResult)
    (hStatus : 200 ≤ status ∧ status < 300)
    (hBody : Json.read? body = some value)
    (hEntities : HasEntities value entities)
    (hNoError : NoneWith ReportsError entities)
    (hResult : Describes entities result) :
    Means statement status body (.ok result)

variable {statement : String}
variable {status : Nat}
variable {body : String}
variable {entities : List Json}
variable {answer : Except RunError ExecutionResult}

theorem isSuccess_iff :
    Response.isSuccess status = true ↔
      200 ≤ status ∧ status < 300 := by
  simp [Response.isSuccess]

/- Without success, the answer is the message. -/
theorem means_iff_of_failure
    (hStatus : ¬ (200 ≤ status ∧ status < 300)) :
    Means statement status body answer ↔
      answer =
        .error
          (.rejected statement status (errorMessage body)) := by
  constructor
  · intro hMeans
    cases hMeans with
    | failure message _ hMessage =>
        rw [failureMessage_iff.mp hMessage]
    | unreadable _ hSuccess _ => exact absurd hSuccess hStatus
    | rejection _ _ _ hSuccess _ _ _ =>
        exact absurd hSuccess hStatus
    | success _ _ _ hSuccess _ _ _ _ =>
        exact absurd hSuccess hStatus
  · rintro rfl
    exact
      .failure _ hStatus (failureMessage_iff.mpr rfl)

/- Without a value in the body, the answer is the fault. -/
theorem means_iff_of_fault
    {fault : String}
    (hStatus : 200 ≤ status ∧ status < 300)
    (hBody : Json.read body = .error fault) :
    Means statement status body answer ↔
      answer =
        .error
          (.response (fault ++ ": '" ++ body ++ "'")) := by
  have hNoValue :
      ∀ value, Json.read? body ≠ some value := by
    intro value hValue
    rw [Json.read?_eq_some_iff, hBody] at hValue
    cases hValue
  constructor
  · intro hMeans
    cases hMeans with
    | failure _ hFailure _ => exact absurd hStatus hFailure
    | unreadable other _ hOther =>
        rw [hBody] at hOther
        cases hOther
        rfl
    | rejection value _ _ _ hValue _ _ =>
        exact absurd hValue (hNoValue value)
    | success value _ _ _ hValue _ _ _ =>
        exact absurd hValue (hNoValue value)
  · rintro rfl
    exact .unreadable fault hStatus hBody

/- With entities, the answer is their error or their result. -/
theorem means_iff_of_entities
    (hStatus : 200 ≤ status ∧ status < 300)
    (hRead : Reply.entities body = .ok entities) :
    Means statement status body answer ↔
      (∃ message,
        entities.findSome? entityError? = some message ∧
        answer = .error (.rejected statement status message)) ∨
      (entities.findSome? entityError? = none ∧
        answer = .ok (executionResult entities)) := by
  rcases entities_eq_ok_iff.mp hRead with
    ⟨value, hBody, hEntities⟩
  have hOrdered :=
    hEntities.isOrdered (Json.isOrdered_of_read? hBody)
  have hSay :
      ∀ entity ∈ entities, ∀ message,
        ReportsError entity message ↔
          entityError? entity = some message :=
    fun entity hEntity _ =>
      reportsError_iff (hOrdered entity hEntity)
  -- A body has one value, and a value one list of entities.
  have hSame :
      ∀ otherValue others,
        Json.read? body = some otherValue →
        HasEntities otherValue others →
        others = entities := by
    intro otherValue others hOtherBody hOthers
    have hOtherRead :=
      entities_eq_ok_iff.mpr
        ⟨otherValue, hOtherBody, hOthers⟩
    rw [hRead] at hOtherRead
    cases hOtherRead
    rfl
  constructor
  · intro hMeans
    cases hMeans with
    | failure _ hFailure _ => exact absurd hStatus hFailure
    | unreadable fault _ hFault =>
        rw [Json.read?_eq_some_iff, hFault] at hBody
        cases hBody
    | rejection _ _ message _ hOtherBody hOthers hError =>
        rw [hSame _ _ hOtherBody hOthers] at hError
        have hFound := (firstWith_iff hSay).mp hError
        exact Or.inl ⟨message, hFound, rfl⟩
    | success _ _ _ _ hOtherBody hOthers hNoError hResult =>
        rw [hSame _ _ hOtherBody hOthers] at hNoError hResult
        rw [(describes_iff hOrdered).mp hResult]
        exact
          Or.inr ⟨(noneWith_iff hSay).mp hNoError, rfl⟩
  · rintro (⟨message, hError, rfl⟩ | ⟨hNoError, rfl⟩)
    · exact
        .rejection value entities message hStatus hBody
          hEntities ((firstWith_iff hSay).mpr hError)
    · exact
        .success value entities _ hStatus hBody hEntities
          ((noneWith_iff hSay).mpr hNoError)
          ((describes_iff hOrdered).mpr rfl)

/- A response means what it is classified as. -/
theorem means_iff :
    Means statement status body answer ↔
      answer =
        (classify statement status body).map
          executionResult := by
  unfold classify
  by_cases hStatus : 200 ≤ status ∧ status < 300
  · rw [if_pos (isSuccess_iff.mpr hStatus)]
    cases hBody : Json.read body with
    | error fault =>
        rw [means_iff_of_fault hStatus hBody]
        unfold Reply.entities
        rw [hBody]
        rfl
    | ok value =>
        rcases exists_hasEntities value with
          ⟨entities, hEntities⟩
        have hRead :=
          entities_eq_ok_iff.mpr
            ⟨value, Json.read?_eq_some_iff.mpr hBody,
              hEntities⟩
        rw [means_iff_of_entities hStatus hRead, hRead]
        dsimp only
        cases entities.findSome? entityError? with
        | none => simp [Except.map]
        | some message => simp [Except.map]
  · rw [if_neg (mt isSuccess_iff.mp hStatus)]
    exact means_iff_of_failure hStatus

end Reply

end KsqlBatch

------------------------------------------------------------
-- Statements
------------------------------------------------------------

namespace KsqlBatch

namespace Client

/-
  Once a response to the request has come, executing a
  statement answers what the response means, and nothing
  else would be an answer.
-/
theorem execute_exactly
    {σ : Type}
    {transport : Transport (Session σ)}
    {response : Response}
    {s later : σ}
    {events : List Event}
    (client : Client)
    (statement : Statement)
    (properties : PropertyMap)
    (hResponse :
      (transport
          (client.request statement.text properties)).run s =
        (.ok response, later, events)) :
    Request.decode?
        (client.request statement.text properties).body =
      some (statement.text, properties) ∧
    ∃ answer,
      ((client.executor transport
          Session.report).execute statement
            properties).run s =
        (answer, later,
          events ++
            [.log
              (received
                (client.request statement.text properties)
                response)]) ∧
      ∀ other,
        Reply.Means statement.text response.status
            response.text other ↔
          other = answer := by
  refine ⟨Request.decode?_body _ _ _ _, ?_⟩
  refine
    ⟨(Reply.classify statement.text response.status
        response.text).map Reply.executionResult,
      ?_, fun _ => Reply.means_iff⟩
  unfold executor submit
  simp only [Session.run_bind, hResponse, Session.run_report,
    Session.run_pure, List.append_nil]
  cases Reply.classify statement.text response.status
      response.text <;>
    simp [Except.map]

/-
  Of two command statuses the first one counts, also where
  it says nothing. A type that is not a text is not an error.
-/
theorem execute_exactly_of_two_statuses :
    let client : Client :=
      { baseUrl := "http://localhost:8088"
        credentials := none
        timeoutSecs := 30 }
    let statement : Statement :=
      { text := "DROP STREAM s;", startLine := 1, endLine := 1 }
    let response : Response :=
      { status := 202
        body :=
          ("[\x7b\"@type\":[\"generic_error\"]\x7d, " ++
            "\x7b\"commandStatus\":\x7b\"queryId\":\"q\"," ++
            "\"status\":7\x7d\x7d, \x7b\"commandStatus\":" ++
            "\x7b\"status\":\"late\"\x7d\x7d]").toUTF8 }
    ∃ answer,
      (((client.executor Server.transport
          Session.report).execute statement
            PropertyMap.empty).run
              (Server.prepared [response])).1 = answer ∧
        Reply.Means statement.text response.status
          response.text answer ∧
        answer.toOption.map
            (fun result =>
              (result.queryId, result.status,
                result.message, result.entities.length)) =
          some (some "q", none, none, 3) := by
  intro client statement response
  have hResponse :
      (Server.transport
          (client.request statement.text
            PropertyMap.empty)).run
              (Server.prepared [response]) =
        (.ok response,
          (Server.prepared [response]).behind
            (client.request statement.text
              PropertyMap.empty), []) :=
    Server.run_transport (by decide +kernel) rfl
  rcases execute_exactly client statement PropertyMap.empty
      hResponse with
    ⟨_, answer, hRun, hMeans⟩
  have hAnswer := (hMeans answer).mpr rfl
  refine ⟨answer, ?_, hAnswer, ?_⟩
  · rw [hRun]
  · rw [Reply.means_iff.mp hAnswer]
    decide +kernel

end Client

end KsqlBatch
