import KsqlBatch.Engine.Executor
import KsqlBatch.Engine.Message
import KsqlBatch.Engine.Reply

/-
  This file defines the executor that submits statements to
  an engine, each in a request of its own.

  Key definitions include:
    * `Transport`
    * `Client`
    * `Client.ofConnection`
    * `Client.submit`
    * `Client.executor`
-/

------------------------------------------------------------
-- Clients
------------------------------------------------------------

namespace KsqlBatch

/- What sends a request and waits for the response. -/
abbrev Transport (m : Type → Type) :=
  Request → m (Except TransportFault Response)

/-
  What all requests to an engine have in common: where they
  go, whose they are, and how long an answer may take. What
  becomes of a request in this time is up to the transport.
-/
structure Client where
  baseUrl : String
  credentials : Option Credentials
  timeoutSecs : Nat
deriving DecidableEq, Repr, Inhabited

namespace Client

/- The client for a connection. -/
def ofConnection
    (connection : Connection) : Client where
  baseUrl := connection.baseUrl
  credentials := connection.credentials
  timeoutSecs := connection.timeoutSecs

/- The request that submits a statement. -/
def request
    (client : Client)
    (text : String)
    (properties : PropertyMap) : Request :=
  .forStatement client.baseUrl client.credentials text
    properties

/- The record that a client is in use. -/
def connecting
    (client : Client) : LogRecord where
  level := .info
  source := .engine
  message := "Connecting to ksqlDB at " ++ client.baseUrl

/- The record of a response. -/
def received
    (request : Request)
    (response : Response) : LogRecord where
  level := .debug
  source := .engine
  message :=
    "POST " ++ request.url ++ " -> " ++
      Response.describeStatus response.status ++ ": " ++
      response.text

end Client

end KsqlBatch

------------------------------------------------------------
-- Executors
------------------------------------------------------------

namespace KsqlBatch

namespace Client

/- The statement that lists the streams of the engine. -/
def listingStatement : String := "LIST STREAMS;"

variable {m : Type → Type}
variable [Monad m]

/- Submit a statement and take the entities of the answer. -/
def submit
    (client : Client)
    (transport : Transport m)
    (report : Event → m Unit)
    (text : String)
    (properties : PropertyMap) :
    m (Except RunError (List Json)) := do
  let request := client.request text properties
  match ← transport request with
  | .error fault => return .error (.transport fault)
  | .ok response =>
      report (.log (received request response))
      return Reply.classify text response.status response.text

/- The executor that submits statements to the engine. -/
def executor
    (client : Client)
    (transport : Transport m)
    (report : Event → m Unit) : Executor m where
  execute statement properties := do
    match ← client.submit transport report
        statement.text properties with
    | .error error => return .error error
    | .ok entities =>
        return .ok (Reply.executionResult entities)
  listStreams := do
    match ← client.submit transport report
        listingStatement PropertyMap.empty with
    | .error error => return .error error
    | .ok entities => return Reply.streams entities

end Client

end KsqlBatch
