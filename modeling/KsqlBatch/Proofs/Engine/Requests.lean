import KsqlBatch.Proofs.Engine.Body
import KsqlBatch.Proofs.Engine.Client
import KsqlBatch.Proofs.Json.Members

/-
  This file says what a client sends: one request for each
  call, from whose body the statement and the properties of
  the call can be read, and which owes nothing to the calls
  before it or to what they were answered.

  Key definitions include:
    * `WrittenRequest`
    * `Request.written?`
    * `Transport.keeping`
    * `Executor.answerAll`

  Key theorems include:
    * `Request.eq_of_body_eq`
    * `Client.sent_answerAll`
    * `Client.sends_each_call`
-/

------------------------------------------------------------
-- Written Requests
------------------------------------------------------------

namespace KsqlBatch

/- A request as it is written to the engine. -/
structure WrittenRequest where
  method : String
  target : String
  headers : List (String × String)
  body : String
deriving DecidableEq, Repr

namespace Request

/- The headers of a request. -/
def headers
    (request : Request) : List (String × String) :=
  [("Accept", mediaType), ("Content-Type", mediaType)] ++
    request.authorization.toList.map fun value =>
      ("Authorization", value)

/- How a request is written, if it can be sent at all. -/
def written?
    (request : Request) : Option WrittenRequest :=
  (Url.parse? request.url).map fun url =>
    { method
      target := String.ofList url.target
      headers := request.headers
      body := request.body }

/- Where a statement is sent, and what is written there. -/
theorem written?_forStatement
    (baseUrl : String)
    (credentials : Option Credentials)
    (text : String)
    (properties : PropertyMap) :
    (forStatement baseUrl credentials text
        properties).written? =
      (Url.parse? (baseUrl ++ path)).map fun url =>
        { method
          target := String.ofList url.target
          headers :=
            [("Accept", mediaType),
              ("Content-Type", mediaType)] ++
              credentials.toList.map fun found =>
                ("Authorization", found.authorization)
          body := (encode text properties).render } := by
  unfold written? headers
  rw [forStatement]
  simp only [Option.toList_map, List.map_map,
    Function.comp_def]

/- A body is JSON text with one member for each part. -/
theorem read_body
    (baseUrl : String)
    (credentials : Option Credentials)
    (text : String)
    (properties : PropertyMap) :
    Json.read
        (forStatement baseUrl credentials text
          properties).body =
      .ok
        (.object
          [("ksql", .string text),
            ("streamsProperties",
              .object properties.members)]) := by
  have hBody :
      (forStatement baseUrl credentials text
        properties).body =
        (encode text properties).render := by
    rw [forStatement]
  have hRead :
      Json.read (encode text properties).render =
        .ok (encode text properties) :=
    Json.read?_eq_some_iff.mp
      (read?_render_encode text properties)
  rw [hBody, hRead, encode, PropertyMap.toJson_eq]

/- Bodies for different statements or properties differ. -/
theorem eq_of_body_eq
    {baseUrl otherUrl : String}
    {credentials otherCredentials : Option Credentials}
    {text otherText : String}
    {properties otherProperties : PropertyMap}
    (hBody :
      (forStatement baseUrl credentials text
        properties).body =
      (forStatement otherUrl otherCredentials otherText
        otherProperties).body) :
    text = otherText ∧ properties = otherProperties := by
  have hRead :=
    decode?_body baseUrl credentials text properties
  rw [hBody, decode?_body, Option.some.injEq,
    Prod.mk.injEq] at hRead
  exact ⟨hRead.1.symm, hRead.2.symm⟩

end Request

end KsqlBatch

------------------------------------------------------------
-- Transports that Keep Requests
------------------------------------------------------------

namespace KsqlBatch

variable {σ : Type}

/- A transport that keeps the requests it is given. -/
def Transport.keeping
    (transport : Transport (Session σ)) :
    Transport (Session (σ × List Request)) :=
  fun request s =>
    match transport request s.1 with
    | (answer, later, events) =>
        (answer, (later, s.2 ++ [request]), events)

theorem Transport.run_keeping
    (transport : Transport (Session σ))
    (request : Request)
    (s : σ)
    (sent : List Request) :
    (transport.keeping request).run (s, sent) =
      (((transport request).run s).1,
        (((transport request).run s).2.1,
          sent ++ [request]),
        ((transport request).run s).2.2) :=
  rfl

end KsqlBatch

------------------------------------------------------------
-- Sequences of Calls
------------------------------------------------------------

namespace KsqlBatch

variable {σ : Type}

/- Give calls to an executor, whether they succeed or not. -/
def Executor.answerAll
    (executor : Executor (Session σ))
    (calls : List Call) :
    Session σ (List (Except RunError Exchange)) :=
  calls.mapM executor.answer

theorem Executor.answerAll_cons
    (executor : Executor (Session σ))
    (call : Call)
    (calls : List Call) :
    executor.answerAll (call :: calls) = (do
      let answer ← executor.answer call
      let answers ← executor.answerAll calls
      return answer :: answers) :=
  List.mapM_cons

/- The first call goes first, the others start behind it. -/
theorem Executor.state_answerAll_cons
    (executor : Executor (Session σ))
    (call : Call)
    (calls : List Call)
    (s : σ) :
    ((executor.answerAll (call :: calls)).run s).2.1 =
      ((executor.answerAll calls).run
        ((executor.answer call).run s).2.1).2.1 := by
  rw [answerAll_cons, Session.run_bind, Session.run_bind]
  rfl

/- Machines answer call by call. -/
theorem Machine.state_answerAll
    (machine : Machine σ)
    (calls : List Call)
    (s : σ) :
    ((machine.answerAll calls).run s).2.1 =
      machine.stateAfter calls s := by
  induction calls generalizing s with
  | nil => rfl
  | cons call calls ih =>
      rw [Executor.state_answerAll_cons, ih]
      rfl

end KsqlBatch

------------------------------------------------------------
-- Requests of Calls
------------------------------------------------------------

namespace KsqlBatch

namespace Client

variable {σ : Type}

/- Only the transport changes the state. -/
theorem state_submit
    (client : Client)
    (transport : Transport (Session σ))
    (text : String)
    (properties : PropertyMap)
    (s : σ) :
    ((client.submit transport Session.report text
        properties).run s).2.1 =
      ((transport
        (client.request text properties)).run s).2.1 := by
  unfold submit
  rw [Session.run_bind]
  cases
      ((transport
        (client.request text properties)).run s).1 with
  | error fault => rfl
  | ok response => rfl

theorem state_answer
    (client : Client)
    (transport : Transport (Session σ))
    (call : Call)
    (s : σ) :
    (((client.executor transport
        Session.report).answer call).run s).2.1 =
      ((transport (client.callRequest call)).run s).2.1 := by
  rw [answer_executor, Session.run_bind, Session.run_pure]
  exact
    client.state_submit transport (callText call)
      (callProperties call) s

/-
  Each call hands one request to the transport, whatever
  came of the calls before.
-/
theorem sent_answerAll
    (client : Client)
    (transport : Transport (Session σ))
    (calls : List Call)
    (s : σ)
    (sent : List Request) :
    (((client.executor transport.keeping
        Session.report).answerAll calls).run
          (s, sent)).2.1.2 =
      sent ++ calls.map client.callRequest := by
  induction calls generalizing s sent with
  | nil => exact (List.append_nil sent).symm
  | cons call calls ih =>
      rw [Executor.state_answerAll_cons, state_answer,
        Transport.run_keeping, ih, List.append_assoc]
      rfl

/- A server that can be reached receives these requests. -/
theorem received_answerAll
    {client : Client}
    {server : Server}
    (hUsable : client.IsUsable)
    (hReachable : server.reachable = true)
    (calls : List Call) :
    (((client.executor Server.transport
        Session.report).answerAll calls).run
          server).2.1.received =
      server.received ++ calls.map client.callRequest := by
  rw [← received_stateAfter hUsable hReachable,
    ← Machine.state_answerAll]
  rfl

/-
  The body of a request is JSON text for an object that has
  the statement and the properties as its two members, so no
  two of them share a body. If the URL of the engine is one,
  calls hand a request each to the transport, in order. It is
  posted to one place, with a body that depends on the call
  alone, and arrives if the engine can be reached.
-/
theorem sends_each_call
    (connection : Connection) :
    let client := ofConnection connection
    (∀ text properties,
      Json.read (client.request text properties).body =
        .ok
          (.object
            [("ksql", .string text),
              ("streamsProperties",
                .object
                  (properties.entries.map
                    fun (key, value) =>
                      (key, .string value)))])) ∧
    (∀ (other : Connection)
      (text otherText : String)
      (properties otherProperties : PropertyMap),
      (client.request text properties).body =
          ((ofConnection other).request otherText
            otherProperties).body →
        text = otherText ∧ properties = otherProperties) ∧
    ((Url.parse? connection.baseUrl).isSome = true →
      ∃ url headers,
        Url.parse? (connection.baseUrl ++ "/ksql") =
          some url ∧
        (∀ call,
          (client.callRequest call).written? =
            some
              { method := "POST"
                target := String.ofList url.target
                headers
                body :=
                  (Request.encode (callText call)
                    (callProperties call)).render }) ∧
        (∀ {σ : Type} (transport : Transport (Session σ))
          (calls : List Call) (s : σ)
          (sent : List Request),
          (((client.executor transport.keeping
              Session.report).answerAll calls).run
                (s, sent)).2.1.2 =
            sent ++ calls.map client.callRequest) ∧
        ∀ (server : Server) (calls : List Call),
          server.reachable = true →
          (((client.executor Server.transport
              Session.report).answerAll calls).run
                server).2.1.received =
            server.received ++
              calls.map client.callRequest) := by
  intro client
  refine ⟨?_, ?_, ?_⟩
  · intro text properties
    exact Request.read_body _ _ text properties
  · intro other text otherText properties otherProperties
      hBody
    exact Request.eq_of_body_eq hBody
  · intro hUrl
    have hUsable : client.IsUsable :=
      isUsable_of_isSome_parse? hUrl
    rcases Option.isSome_iff_exists.mp hUsable with
      ⟨url, hParse⟩
    refine
      ⟨url,
        [("Accept", Request.mediaType),
          ("Content-Type", Request.mediaType)] ++
          client.credentials.toList.map fun found =>
            ("Authorization", found.authorization),
        hParse, ?_, ?_, ?_⟩
    · intro call
      unfold callRequest request
      rw [Request.written?_forStatement, hParse,
        Option.map_some, Request.method]
    · intro σ transport calls s sent
      exact client.sent_answerAll transport calls s sent
    · intro server calls hReachable
      exact received_answerAll hUsable hReachable calls

/-
  Three calls are sent once each, although the first one is
  not answered and the second one is refused. What needs to
  be escaped is, and nothing else.
-/
theorem sends_each_call_of_three_calls :
    let connection : Connection :=
      { endpoint := "http://localhost:8088/"
        port := 8088
        useTls := false
        timeoutSecs := 30
        credentials := none }
    let statement : Statement :=
      { text := "SELECT '\"\\' AS \u0007\nf\u00FCr;"
        startLine := 1
        endLine := 2 }
    let properties :=
      PropertyMap.ofList [("k\"", ""), ("a", "\u001F\u2028")]
    let server : Server :=
      { reachable := true
        replies :=
          [.drop,
            .respond
              { status := 500, body := ByteArray.empty }]
        receivedRev := [] }
    let calls : List Call :=
      [.execute statement properties,
        .execute statement PropertyMap.empty, .listStreams]
    (((((ofConnection connection).executor Server.transport
        Session.report).answerAll calls).run
          server).2.1.received.map Request.body) =
      ["\x7b\"ksql\":" ++
          "\"SELECT '\\\"\\\\' AS \\u0007\\nf\u00FCr;\"," ++
          "\"streamsProperties\":" ++
          "\x7b\"a\":\"\\u001f\u2028\"," ++
          "\"k\\\"\":\"\"\x7d\x7d",
        "\x7b\"ksql\":" ++
          "\"SELECT '\\\"\\\\' AS \\u0007\\nf\u00FCr;\"," ++
          "\"streamsProperties\":\x7b\x7d\x7d",
        "\x7b\"ksql\":\"LIST STREAMS;\"," ++
          "\"streamsProperties\":\x7b\x7d\x7d"] := by
  intro connection statement properties server calls
  rcases sends_each_call connection with ⟨_, _, hSends⟩
  rcases hSends (by decide +kernel) with
    ⟨_, _, _, _, _, hReceived⟩
  rw [hReceived server calls rfl]
  decide +kernel

end Client

end KsqlBatch
