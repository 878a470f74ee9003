import KsqlBatch.Proofs.Batch.Related
import KsqlBatch.Proofs.Batch.Run
import KsqlBatch.Proofs.Engine.Requests

/-
  This file compares two connections that differ in nothing
  but a secret. Whatever is done over them, only the header
  that carries the credentials can tell them apart.

  Key definitions include:
    * `Connection.withoutSecret`
    * `Server.withoutAuthorization`
    * `Session.alike`
    * `Executor.Related`
    * `Session.DiscloseAlike`

  Key theorems include:
    * `Server.transport_alike`
    * `Client.executor_alike`
    * `Client.secret_stays_hidden`
-/

------------------------------------------------------------
-- Secrets
------------------------------------------------------------

namespace KsqlBatch

/- Credentials without the secret. -/
def Credentials.withoutSecret
    (credentials : Credentials) : Credentials :=
  { credentials with secret := none }

namespace Connection

/- A connection without the secret. -/
def withoutSecret
    (connection : Connection) : Connection :=
  { connection with
    credentials :=
      connection.credentials.map Credentials.withoutSecret }

/- The description of a connection leaves the secret out. -/
theorem describe_withoutSecret
    (connection : Connection) :
    connection.withoutSecret.describe =
      connection.describe := by
  unfold describe withoutSecret
  rw [Option.map_map]
  rfl

theorem baseUrl_withoutSecret
    (connection : Connection) :
    connection.withoutSecret.baseUrl = connection.baseUrl :=
  rfl

end Connection

namespace Request

/- A request without the credentials. -/
def withoutAuthorization
    (request : Request) : Request :=
  { request with authorization := none }

theorem withoutAuthorization_eq_iff
    {request other : Request} :
    request.withoutAuthorization =
        other.withoutAuthorization ↔
      request.url = other.url ∧
        request.body = other.body := by
  simp [withoutAuthorization]

end Request

namespace WrittenRequest

/- A written request without the header for credentials. -/
def withoutAuthorization
    (request : WrittenRequest) : WrittenRequest :=
  { request with
    headers :=
      request.headers.filter (·.1 != "Authorization") }

end WrittenRequest

/- All that is written but this header is without secrets. -/
theorem Request.written?_withoutAuthorization
    (request : Request) :
    request.withoutAuthorization.written? =
      request.written?.map
        WrittenRequest.withoutAuthorization := by
  have hHeaders :
      request.withoutAuthorization.headers =
        request.headers.filter (·.1 != "Authorization") := by
    unfold headers withoutAuthorization
    cases request.authorization with
    | none => rfl
    | some value => rfl
  unfold written?
  rw [hHeaders, Option.map_map]
  rfl

end KsqlBatch

------------------------------------------------------------
-- Sessions that are Alike
------------------------------------------------------------

namespace KsqlBatch

namespace Session

variable {σ υ : Type}

/-
  Two sessions come to the same and note the same events,
  as long as their states look the same, and then the states
  look the same again.
-/
def alike
    (view : σ → υ) :
    MonadRelation (Session σ) (Session σ) where
  Holds session other :=
    ∀ s t, view s = view t →
      (session.run s).1 = (other.run t).1 ∧
      (session.run s).2.2 = (other.run t).2.2 ∧
      view (session.run s).2.1 = view (other.run t).2.1
  holds_pure := by
    intro α a s t hView
    exact ⟨rfl, rfl, hView⟩
  holds_bind := by
    intro α β first other next later hFirst hNext s t hView
    rcases hFirst s t hView with
      ⟨hResult, hEvents, hReached⟩
    rcases
      hNext (other.run t).1 (first.run s).2.1
        (other.run t).2.1 hReached with
      ⟨hLastResult, hLastEvents, hLast⟩
    rw [run_bind, run_bind, hResult, hEvents]
    refine ⟨hLastResult, ?_, hLast⟩
    rw [hLastEvents]

theorem alike_report
    (view : σ → υ)
    (event : Event) :
    (alike view).Holds (report event) (report event) := by
  intro s t hView
  exact ⟨rfl, rfl, hView⟩

end Session

end KsqlBatch

------------------------------------------------------------
-- Related Executors
------------------------------------------------------------

namespace KsqlBatch

namespace Executor

/- What two executors do is related. -/
structure Related
    {m n : Type → Type}
    [Monad m] [Monad n]
    (relation : MonadRelation m n)
    (executor : Executor m)
    (other : Executor n) : Prop where
  execute :
    ∀ statement properties,
      relation.Holds
        (executor.execute statement properties)
        (other.execute statement properties)
  listStreams :
    relation.Holds executor.listStreams other.listStreams

namespace Related

variable {σ τ : Type}
variable {relation : MonadRelation (Session σ) (Session τ)}
variable {executor : Executor (Session σ)}
variable {other : Executor (Session τ)}

/- Related executors answer a call in related ways. -/
theorem answer
    (hRelated : Related relation executor other)
    (call : Call) :
    relation.Holds
      (executor.answer call) (other.answer call) := by
  cases call with
  | execute statement properties =>
      apply relation.holds_bind
        (hRelated.execute statement properties)
      intro result
      exact relation.holds_pure _
  | listStreams =>
      apply relation.holds_bind hRelated.listStreams
      intro streams
      exact relation.holds_pure _

/- So they do with calls one after another. -/
theorem answerAll
    (hRelated : Related relation executor other)
    (calls : List Call) :
    relation.Holds
      (executor.answerAll calls)
      (other.answerAll calls) := by
  induction calls with
  | nil => exact relation.holds_pure []
  | cons call calls ih =>
      rw [answerAll_cons, answerAll_cons]
      apply relation.holds_bind (hRelated.answer call)
      intro answer
      apply relation.holds_bind ih
      intro answers
      exact relation.holds_pure _

/- Runners over related executors are related. -/
theorem traced
    (hRelated : Related relation executor other)
    (hReport :
      ∀ event,
        relation.Holds
          (Session.report event) (Session.report event))
    (disk : FileSystem Id)
    (policy : ListingPolicy) :
    Runner.Related relation
      (Runner.traced executor disk policy)
      (Runner.traced other disk policy) where
  execute := by
    intro statement properties
    apply relation.holds_bind (hReport _)
    intro _
    exact hRelated.execute statement properties
  streams := by
    apply relation.holds_bind (hReport _)
    intro _
    exact hRelated.listStreams
  readBytes := by
    intro path
    exact relation.holds_pure _
  listDirectory := by
    intro path
    exact relation.holds_pure _
  report_log := by
    intro record
    exact hReport _
  report_result := by
    intro statement result
    exact hReport _
  report_streams := by
    intro streams
    exact hReport _
  policy_eq := rfl

end Related

end Executor

end KsqlBatch

------------------------------------------------------------
-- Servers and Clients
------------------------------------------------------------

namespace KsqlBatch

namespace Server

/- A server without the credentials it has received. -/
def withoutAuthorization
    (server : Server) : Server :=
  { server with
    receivedRev :=
      server.receivedRev.map Request.withoutAuthorization }

theorem received_withoutAuthorization
    (server : Server) :
    server.withoutAuthorization.received =
      server.received.map Request.withoutAuthorization :=
  List.map_reverse.symm

theorem withoutAuthorization_eq_iff
    {server other : Server} :
    server.withoutAuthorization =
        other.withoutAuthorization ↔
      server.reachable = other.reachable ∧
        server.replies = other.replies ∧
        server.receivedRev.map
            Request.withoutAuthorization =
          other.receivedRev.map
            Request.withoutAuthorization := by
  simp [withoutAuthorization]

/- Servers do not look at credentials. -/
theorem transport_alike
    {request other : Request}
    (hRequest :
      request.withoutAuthorization =
        other.withoutAuthorization) :
    (Session.alike withoutAuthorization).Holds
      (transport request) (transport other) := by
  intro server partner hView
  have hUrl :=
    (Request.withoutAuthorization_eq_iff.mp hRequest).1
  rcases withoutAuthorization_eq_iff.mp hView with
    ⟨hReachable, hReplies, hReceived⟩
  have hAnswer :
      server.answer request = partner.answer other := by
    unfold answer
    rw [hReplies, hUrl]
  cases hParse : Url.parse? request.url with
  | none =>
      have hOther : Url.parse? other.url = none :=
        hUrl ▸ hParse
      rw [run_transport_of_badUrl hParse,
        run_transport_of_badUrl hOther]
      exact ⟨rfl, rfl, hView⟩
  | some url =>
      have hSent : (Url.parse? request.url).isSome = true :=
        Option.isSome_of_eq_some hParse
      have hOther : (Url.parse? other.url).isSome = true :=
        hUrl ▸ hSent
      by_cases hReached : server.reachable = true
      · rw [run_transport hSent hReached,
          run_transport hOther (hReachable ▸ hReached),
          hAnswer]
        refine ⟨rfl, rfl, ?_⟩
        refine withoutAuthorization_eq_iff.mpr ⟨?_, ?_, ?_⟩
        · exact hReachable
        · exact congrArg Prod.snd hAnswer
        · simp only [behind, List.map_cons, hRequest,
            hReceived]
      · rw [run_transport_of_unreachable hSent hReached,
          run_transport_of_unreachable hOther
            (hReachable ▸ hReached),
          hUrl]
        exact ⟨rfl, rfl, hView⟩

end Server

namespace Client

variable {client other : Client}

/-
  Clients of one engine differ in the credentials that they
  send, and in nothing else.
-/
theorem withoutAuthorization_request
    (hUrl : client.baseUrl = other.baseUrl)
    (text : String)
    (properties : PropertyMap) :
    (client.request text properties).withoutAuthorization =
      (other.request text
        properties).withoutAuthorization := by
  rw [request, request, Request.forStatement,
    Request.forStatement, hUrl]
  rfl

theorem submit_alike
    (hUrl : client.baseUrl = other.baseUrl)
    (text : String)
    (properties : PropertyMap) :
    (Session.alike Server.withoutAuthorization).Holds
      (client.submit Server.transport Session.report text
        properties)
      (other.submit Server.transport Session.report text
        properties) := by
  have hRequest :=
    withoutAuthorization_request hUrl text properties
  have hReceived :
      received (client.request text properties) =
        received (other.request text properties) := by
    funext response
    unfold received
    rw [(Request.withoutAuthorization_eq_iff.mp hRequest).1]
  unfold submit
  refine MonadRelation.holds_bind _ ?_ ?_
  · exact Server.transport_alike hRequest
  · intro answer
    cases answer with
    | error fault => exact MonadRelation.holds_pure _ _
    | ok response =>
        rw [hReceived]
        refine MonadRelation.holds_bind _ ?_ ?_
        · exact Session.alike_report _ _
        · intro _
          exact MonadRelation.holds_pure _ _

/- Clients of one engine do the same. -/
theorem executor_alike
    (hUrl : client.baseUrl = other.baseUrl) :
    Executor.Related
      (Session.alike Server.withoutAuthorization)
      (client.executor Server.transport Session.report)
      (other.executor Server.transport Session.report) where
  execute := by
    intro statement properties
    refine MonadRelation.holds_bind _ ?_ ?_
    · exact submit_alike hUrl statement.text properties
    · intro answer
      cases answer with
      | error error => exact MonadRelation.holds_pure _ _
      | ok entities => exact MonadRelation.holds_pure _ _
  listStreams := by
    refine MonadRelation.holds_bind _ ?_ ?_
    · exact
        submit_alike hUrl listingStatement PropertyMap.empty
    · intro answer
      cases answer with
      | error error => exact MonadRelation.holds_pure _ _
      | ok entities => exact MonadRelation.holds_pure _ _

end Client

end KsqlBatch

------------------------------------------------------------
-- What Connections Disclose
------------------------------------------------------------

namespace KsqlBatch

/-
  Two sessions with a server disclose the same: they come to
  the same result, note the same events, and write the same
  requests but for the header with the credentials.
-/
structure Session.DiscloseAlike
    {α : Type}
    (session other : Session Server α) : Prop where
  result_eq :
    ∀ server,
      (session.run server).1 = (other.run server).1
  events_eq :
    ∀ server,
      (session.run server).2.2 = (other.run server).2.2
  written_eq :
    ∀ server,
      (session.run server).2.1.received.map
          (fun request =>
            request.written?.map
              WrittenRequest.withoutAuthorization) =
        (other.run server).2.1.received.map
          (fun request =>
            request.written?.map
              WrittenRequest.withoutAuthorization)

/- Sessions that are alike disclose the same. -/
theorem Session.discloseAlike_of_alike
    {α : Type}
    {session other : Session Server α}
    (hAlike :
      (alike Server.withoutAuthorization).Holds
        session other) :
    session.DiscloseAlike other := by
  constructor
  · intro server
    exact (hAlike server server rfl).1
  · intro server
    exact (hAlike server server rfl).2.1
  · intro server
    have hReceived :=
      congrArg Server.received (hAlike server server rfl).2.2
    rw [Server.received_withoutAuthorization,
      Server.received_withoutAuthorization] at hReceived
    have hWritten :=
      congrArg (List.map Request.written?) hReceived
    rw [List.map_map, List.map_map] at hWritten
    simpa only [Function.comp_def,
      Request.written?_withoutAuthorization] using hWritten

namespace Client

/-
  Over two connections that differ in a secret at most, the
  descriptions and the URL are the same, and so is all that
  is disclosed by calls and by batches, whatever the server
  answers.
-/
theorem secret_stays_hidden
    {connection other : Connection}
    (hSecret :
      connection.withoutSecret = other.withoutSecret) :
    let executor :=
      (ofConnection connection).executor Server.transport
        Session.report
    let otherExecutor :=
      (ofConnection other).executor Server.transport
        Session.report
    connection.describe = other.describe ∧
    connection.baseUrl = other.baseUrl ∧
    (ofConnection connection).connecting =
      (ofConnection other).connecting ∧
    (∀ calls,
      (executor.answerAll calls).DiscloseAlike
        (otherExecutor.answerAll calls)) ∧
    ∀ disk policy,
      let runner := Runner.traced executor disk policy
      let otherRunner :=
        Runner.traced otherExecutor disk policy
      (∀ input,
        (runner.run input).DiscloseAlike
          (otherRunner.run input)) ∧
      (∀ path,
        (runner.runFile path).DiscloseAlike
          (otherRunner.runFile path)) ∧
      ∀ path content,
        (runner.runBuffer path content).DiscloseAlike
          (otherRunner.runBuffer path content) := by
  intro executor otherExecutor
  have hDescribe : connection.describe = other.describe := by
    rw [← Connection.describe_withoutSecret, hSecret,
      Connection.describe_withoutSecret]
  have hUrl : connection.baseUrl = other.baseUrl := by
    rw [← Connection.baseUrl_withoutSecret, hSecret,
      Connection.baseUrl_withoutSecret]
  have hConnecting :
      (ofConnection connection).connecting =
        (ofConnection other).connecting := by
    unfold connecting ofConnection
    rw [hUrl]
  have hExecutors :
      Executor.Related
        (Session.alike Server.withoutAuthorization)
        executor otherExecutor :=
    executor_alike hUrl
  refine ⟨hDescribe, hUrl, hConnecting, ?_, ?_⟩
  · intro calls
    exact
      Session.discloseAlike_of_alike
        (hExecutors.answerAll calls)
  · intro disk policy
    have hRunners :=
      hExecutors.traced (Session.alike_report _) disk policy
    refine ⟨?_, ?_, ?_⟩
    · intro input
      exact
        Session.discloseAlike_of_alike (hRunners.run input)
    · intro path
      exact
        Session.discloseAlike_of_alike
          (hRunners.runFile path)
    · intro path content
      exact
        Session.discloseAlike_of_alike
          (hRunners.runBuffer path content)

/-
  A secret and its absence are told apart by the header with
  the credentials, and by nothing else.
-/
theorem secret_stays_hidden_of_absent_secret :
    let connection : Connection :=
      { endpoint := "localhost"
        port := 8088
        useTls := false
        timeoutSecs := 30
        credentials :=
          some { key := "reader", secret := some "hush" } }
    let other : Connection :=
      { connection with
        credentials :=
          some { key := "reader", secret := none } }
    let disk := FileSystem.ofScripts "scripts" []
    let session :=
      (Runner.traced
        ((ofConnection connection).executor Server.transport
          Session.report) disk .both).runBuffer "a.ksql"
        "SELECT 1;"
    let partner :=
      (Runner.traced
        ((ofConnection other).executor Server.transport
          Session.report) disk .both).runBuffer "a.ksql"
        "SELECT 1;"
    let server := Server.prepared []
    connection.withoutSecret = other.withoutSecret ∧
    session.DiscloseAlike partner ∧
    (session.run server).2.1.received.map
        Request.authorization =
      [some "Basic cmVhZGVyOmh1c2g="] ∧
    (partner.run server).2.1.received.map
        Request.authorization =
      [some "Basic cmVhZGVyOg=="] := by
  intro connection other disk session partner server
  have hSecret :
      connection.withoutSecret = other.withoutSecret := rfl
  rcases secret_stays_hidden hSecret with
    ⟨_, _, _, _, hBatches⟩
  refine ⟨hSecret, ?_, ?_, ?_⟩
  · exact (hBatches disk .both).2.2 "a.ksql" "SELECT 1;"
  · decide +kernel
  · decide +kernel

end Client

end KsqlBatch
