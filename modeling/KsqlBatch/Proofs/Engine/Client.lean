import KsqlBatch.Engine.Server
import KsqlBatch.Proofs.Engine.Dispatch
import KsqlBatch.Proofs.Engine.Url

/-
  This file follows a client and the server it talks to. If
  the server can be reached, each call makes one request, and
  the call succeeds if the response says so.

  Key definitions include:
    * `Client.machine`
    * `Client.callRequest`
    * `Server.prepared`
    * `Response.IsAccepted`
    * `Call.IsMetBy`

  Key theorems include:
    * `Client.reply_eq`
    * `Client.received_stateAfter`
    * `Client.isOk_of_mem_replies`
-/

------------------------------------------------------------
-- Servers
------------------------------------------------------------

namespace KsqlBatch

namespace Server

/- A server that answers with prepared responses. -/
def prepared
    (responses : List Response) : Server where
  reachable := true
  replies := responses.map .respond
  receivedRev := []

/- The server behind a request that has arrived. -/
def behind
    (server : Server)
    (request : Request) : Server :=
  { server with
    replies := (server.answer request).2
    receivedRev := request :: server.receivedRev }

@[simp]
theorem reachable_behind
    (server : Server)
    (request : Request) :
    (server.behind request).reachable = server.reachable :=
  rfl

@[simp]
theorem received_behind
    (server : Server)
    (request : Request) :
    (server.behind request).received =
      server.received ++ [request] :=
  List.reverse_cons

/- A request that can be sent arrives. -/
theorem run_transport
    {server : Server}
    {request : Request}
    (hUrl : (Url.parse? request.url).isSome = true)
    (hReachable : server.reachable = true) :
    (transport request).run server =
      ((server.answer request).1, server.behind request,
        []) := by
  rcases Option.isSome_iff_exists.mp hUrl with ⟨url, hParse⟩
  simp [transport, Session.run, bind, Session.bind,
    Session.read, Session.write, pure, Session.pure, hParse,
    hReachable, behind]

/- Without a URL to send it to, a request is not sent. -/
theorem run_transport_of_badUrl
    {server : Server}
    {request : Request}
    (hUrl : Url.parse? request.url = none) :
    (transport request).run server =
      (.error .badUrl, server, []) := by
  simp [transport, Session.run, bind, Session.bind,
    Session.read, pure, Session.pure, hUrl]

/- A request that does not arrive is not answered. -/
theorem run_transport_of_unreachable
    {server : Server}
    {request : Request}
    (hUrl : (Url.parse? request.url).isSome = true)
    (hReachable : ¬ server.reachable = true) :
    (transport request).run server =
      (.error (.unanswered request.url), server, []) := by
  rcases Option.isSome_iff_exists.mp hUrl with ⟨url, hParse⟩
  simp [transport, Session.run, bind, Session.bind,
    Session.read, pure, Session.pure, hParse, hReachable]

/- Sending a request is not an event. -/
theorem events_transport
    (server : Server)
    (request : Request) :
    ((transport request).run server).2.2 = [] := by
  cases hParse : Url.parse? request.url with
  | none => rw [run_transport_of_badUrl hParse]
  | some url =>
      have hUrl : (Url.parse? request.url).isSome = true :=
        Option.isSome_of_eq_some hParse
      by_cases hReachable : server.reachable = true
      · rw [run_transport hUrl hReachable]
      · rw [run_transport_of_unreachable hUrl hReachable]

end Server

end KsqlBatch

------------------------------------------------------------
-- Calls of a Client
------------------------------------------------------------

namespace KsqlBatch

namespace Client

/- The text of the statement that a call submits. -/
def callText : Call → String
| .execute statement _ => statement.text
| .listStreams => listingStatement

/- The properties that a call submits. -/
def callProperties : Call → PropertyMap
| .execute _ properties => properties
| .listStreams => PropertyMap.empty

/- The request that a call makes. -/
def callRequest
    (client : Client)
    (call : Call) : Request :=
  client.request (callText call) (callProperties call)

/- What the entities of a response mean to a call. -/
def understand
    (entities : List Json) :
    Call → Except RunError Exchange
| .execute statement properties =>
    .ok
      (.executed statement properties
        (Reply.executionResult entities))
| .listStreams => (Reply.streams entities).map .listed

/- Submit a call to a server. -/
def submitCall
    (client : Client)
    (call : Call) :
    Session Server (Except RunError (List Json)) :=
  client.submit Server.transport Session.report
    (callText call) (callProperties call)

/- A client answers with what it understands. -/
theorem answer_executor
    {σ : Type}
    (client : Client)
    (transport : Transport (Session σ))
    (call : Call) :
    (client.executor transport
        Session.report).answer call = (do
      let entities ←
        client.submit transport Session.report
          (callText call) (callProperties call)
      return entities.bind fun found =>
        understand found call) := by
  cases call with
  | execute statement properties =>
      rw [Executor.answer_execute]
      unfold executor callText callProperties
      simp only [bind_assoc]
      refine bind_congr ?_
      intro entities
      cases entities <;> rfl
  | listStreams =>
      rw [Executor.answer_listStreams]
      unfold executor callText callProperties
      simp only [bind_assoc]
      refine bind_congr ?_
      intro entities
      cases entities <;> rfl

/- All that a client notes are log records. -/
theorem isOutward_of_mem_submitCall
    {client : Client}
    {call : Call}
    {server : Server}
    {event : Event}
    (hEvent :
      event ∈ ((client.submitCall call).run server).2.2) :
    event.isOutward = false := by
  unfold submitCall submit at hEvent
  rw [Session.run_bind, Server.events_transport] at hEvent
  cases hAnswer :
      ((Server.transport
        (client.request (callText call)
          (callProperties call))).run server).1 with
  | error fault => simp [hAnswer] at hEvent
  | ok response =>
      simp only [hAnswer, Session.run_bind,
        Session.run_report, Session.run_pure,
        List.append_nil, List.nil_append,
        List.mem_singleton] at hEvent
      rw [hEvent]
      rfl

/- A client and its server make up a machine. -/
def machine
    (client : Client) : Machine Server where
  toExecutor :=
    client.executor Server.transport Session.report
  inward := by
    intro call server event hEvent
    rw [answer_executor, Session.run_bind,
      Session.run_pure, List.append_nil] at hEvent
    exact isOutward_of_mem_submitCall hEvent

/- A client can send requests. -/
def IsUsable
    (client : Client) : Prop :=
  (Url.parse? (client.baseUrl ++ Request.path)).isSome = true

/- A client is usable if its URL is one. -/
theorem isUsable_of_isSome_parse?
    {client : Client}
    (hUrl : (Url.parse? client.baseUrl).isSome = true) :
    client.IsUsable :=
  Url.isSome_parse?_append hUrl (by decide)

variable {client : Client}
variable {server : Server}

/- What a call makes of the answer of the server. -/
theorem reply_eq
    (hUsable : client.IsUsable)
    (hReachable : server.reachable = true)
    (call : Call) :
    client.machine.reply call server =
      (match
          (server.answer (client.callRequest call)).1 with
        | .error fault => .error (.transport fault)
        | .ok response =>
            (Reply.classify (callText call) response.status
              response.text).bind fun entities =>
                understand entities call,
        server.behind (client.callRequest call)) := by
  have hSent :
      (Server.transport
          (client.request (callText call)
            (callProperties call))).run server =
        ((server.answer (client.callRequest call)).1,
          server.behind (client.callRequest call), []) :=
    Server.run_transport hUsable hReachable
  have hAnswer :
      client.machine.answer call = (do
        let entities ← client.submitCall call
        return entities.bind fun found =>
          understand found call) :=
    answer_executor client Server.transport call
  unfold Machine.reply
  rw [hAnswer, Session.run_bind]
  unfold submitCall submit
  rw [Session.run_bind, hSent]
  cases (server.answer (client.callRequest call)).1 with
  | error fault => rfl
  | ok response => rfl

/- Whatever a call comes to, its request has arrived. -/
theorem snd_reply
    (hUsable : client.IsUsable)
    (hReachable : server.reachable = true)
    (call : Call) :
    (client.machine.reply call server).2 =
      server.behind (client.callRequest call) := by
  rw [reply_eq hUsable hReachable]

end Client

end KsqlBatch

------------------------------------------------------------
-- Runs of Calls
------------------------------------------------------------

namespace KsqlBatch

/- A response reports success, and no entity an error. -/
structure Response.IsAccepted
    (response : Response)
    (entities : List Json) : Prop where
  success : Response.isSuccess response.status = true
  entities_eq : Reply.entities response.text = .ok entities
  no_error :
    ∀ entity ∈ entities, Reply.entityError? entity = none

/-
  A response is what a call needs: it is accepted, and if
  streams are to be listed, they can be read.
-/
def Call.IsMetBy
    (call : Call)
    (response : Response) : Prop :=
  ∃ entities,
    response.IsAccepted entities ∧
    (call = .listStreams →
      (Reply.streams entities).isOk = true)

theorem Response.isAccepted_iff
    {response : Response}
    {entities : List Json} :
    response.IsAccepted entities ↔
      entities ∈ (Reply.entities response.text).toOption ∧
        Response.isSuccess response.status = true ∧
        ∀ entity ∈ entities,
          Reply.entityError? entity = none := by
  have hEntities :
      entities ∈ (Reply.entities response.text).toOption ↔
        Reply.entities response.text = .ok entities := by
    cases Reply.entities response.text <;>
      simp [Except.toOption]
  rw [hEntities]
  constructor
  · rintro ⟨hSuccess, hRead, hNone⟩
    exact ⟨hRead, hSuccess, hNone⟩
  · rintro ⟨hRead, hSuccess, hNone⟩
    exact ⟨hSuccess, hRead, hNone⟩

instance
    (call : Call)
    (response : Response) :
    Decidable (call.IsMetBy response) :=
  decidable_of_iff
    (∃ entities ∈ (Reply.entities response.text).toOption,
      (Response.isSuccess response.status = true ∧
        ∀ entity ∈ entities,
          Reply.entityError? entity = none) ∧
      (call = .listStreams →
        (Reply.streams entities).isOk = true))
    (by
      simp only [Call.IsMetBy, Response.isAccepted_iff,
        and_assoc])

/- The entities of an accepted response are taken. -/
theorem Response.IsAccepted.classify_eq
    {response : Response}
    {entities : List Json}
    (hAccepted : response.IsAccepted entities)
    (statement : String) :
    Reply.classify statement response.status
      response.text = .ok entities := by
  have hNone :
      entities.findSome? Reply.entityError? = none :=
    List.findSome?_eq_none_iff.mpr hAccepted.no_error
  simp only [Reply.classify, hAccepted.success, if_true,
    hAccepted.entities_eq, hNone]

namespace Client

variable {client : Client}
variable {server : Server}

/- A call succeeds whose response is what it needs. -/
theorem isOk_reply
    {call : Call}
    {response : Response}
    {later : List PreparedReply}
    (hUsable : client.IsUsable)
    (hReachable : server.reachable = true)
    (hReplies : server.replies = .respond response :: later)
    (hMet : call.IsMetBy (Server.delivered response)) :
    (client.machine.reply call server).1.isOk = true := by
  rcases hMet with ⟨entities, hAccepted, hListing⟩
  have hAnswer :
      (server.answer (client.callRequest call)).1 =
        .ok (Server.delivered response) := by
    simp [Server.answer, hReplies]
  rw [reply_eq hUsable hReachable, hAnswer]
  simp only [hAccepted.classify_eq, Except.bind]
  cases call with
  | execute statement properties => rfl
  | listStreams =>
      have hStreams := hListing rfl
      unfold understand
      cases hRead : Reply.streams entities with
      | ok streams => rfl
      | error error =>
          rw [hRead] at hStreams
          cases hStreams

/- The server receives a request for each call, in order. -/
theorem received_stateAfter
    (hUsable : client.IsUsable)
    (hReachable : server.reachable = true)
    (calls : List Call) :
    (client.machine.stateAfter calls server).received =
      server.received ++ calls.map client.callRequest := by
  induction calls generalizing server with
  | nil => exact (List.append_nil server.received).symm
  | cons call calls ih =>
      have hNext :
          (server.behind
            (client.callRequest call)).reachable = true := by
        rw [Server.reachable_behind]
        exact hReachable
      rw [Machine.stateAfter, snd_reply hUsable hReachable,
        ih hNext, Server.received_behind, List.append_assoc]
      rfl

/- Calls succeed whose responses are what they need. -/
theorem isOk_of_mem_replies
    {calls : List Call}
    {responses : List Response}
    (hUsable : client.IsUsable)
    (hReachable : server.reachable = true)
    (hReplies : server.replies = responses.map .respond)
    (hEnough : calls.length ≤ responses.length)
    (hMet :
      ∀ pair ∈ calls.zip responses,
        pair.1.IsMetBy (Server.delivered pair.2)) :
    ∀ reply ∈ client.machine.replies calls server,
      reply.isOk = true := by
  induction calls generalizing server responses with
  | nil =>
      intro reply hReply
      cases hReply
  | cons call calls ih =>
      cases responses with
      | nil => simp at hEnough
      | cons response responses =>
          have hNext :
              (server.behind
                (client.callRequest call)).reachable =
                true := by
            rw [Server.reachable_behind]
            exact hReachable
          have hLater :
              (server.behind
                (client.callRequest call)).replies =
                responses.map .respond := by
            simp [Server.behind, Server.answer, hReplies]
          rw [List.zip_cons_cons, List.forall_mem_cons]
            at hMet
          rw [Machine.replies, List.forall_mem_cons]
          constructor
          · exact
              isOk_reply hUsable hReachable hReplies hMet.1
          · rw [snd_reply hUsable hReachable]
            exact
              ih hNext hLater (Nat.le_of_succ_le_succ hEnough)
                hMet.2

end Client

end KsqlBatch
