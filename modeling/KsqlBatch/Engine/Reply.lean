import KsqlBatch.Engine.Message
import KsqlBatch.Engine.Result
import KsqlBatch.Engine.Stream
import KsqlBatch.Json.Reader
import KsqlBatch.RunError
import KsqlBatch.Text.Blank

/-
  This file says what the responses of the engine mean. A
  body consists of entities, some of which are errors.

  Key definitions include:
    * `Reply.entities`
    * `Reply.errorMessage`
    * `Reply.entityError?`
    * `Reply.classify`
    * `Reply.executionResult`
    * `Reply.streams`
-/

------------------------------------------------------------
-- Entities
------------------------------------------------------------

namespace KsqlBatch

namespace Reply

/- The entities in a body: an array of them, or just one. -/
def entities
    (body : String) : Except RunError (List Json) :=
  match Json.read body with
  | .ok (.array entities) => .ok entities
  | .ok other => .ok [other]
  | .error fault =>
      .error (.response
        (fault ++ ": '" ++ body ++ "'"))

/- The message in the body of a response that failed. -/
def errorMessage
    (body : String) : String :=
  match (Json.read? body).bind (·.getString? "message") with
  | some message => message
  | none => Text.trimWhiteSpace body

/- The types of entities that report errors. -/
def errorTypes : List String :=
  ["statement_error", "generic_error"]

/- The message of an entity that reports an error. -/
def entityError?
    (entity : Json) : Option String :=
  match entity.getString? "@type" with
  | none => none
  | some type =>
      if type ∈ errorTypes then
        some ((entity.getString? "message").getD type)
      else none

/- The entities in the response to a statement. -/
def classify
    (statement : String)
    (status : Nat)
    (body : String) : Except RunError (List Json) :=
  if Response.isSuccess status then
    match entities body with
    | .error error => .error error
    | .ok entities =>
        match entities.findSome? entityError? with
        | some message =>
            .error (.rejected statement status message)
        | none => .ok entities
  else
    .error (.rejected statement status (errorMessage body))

end Reply

end KsqlBatch

------------------------------------------------------------
-- Results
------------------------------------------------------------

namespace KsqlBatch

namespace Reply

/- The result that entities describe. -/
def executionResult
    (entities : List Json) : ExecutionResult :=
  let status :=
    entities.findSome? (·.get? "commandStatus")
  { queryId := status.bind (·.getString? "queryId")
    status := status.bind (·.getString? "status")
    message := status.bind (·.getString? "message")
    entities }

/- The streams in the elements of an array. -/
def streamsIn :
    List Json → Except JsonMismatch (List StreamInfo)
| [] => .ok []
| element :: elements => do
    let stream ← StreamInfo.ofJson element
    return stream :: (← streamsIn elements)

/- The streams that an entity lists. -/
def entityStreams
    (entity : Json) :
    Except JsonMismatch (List StreamInfo) :=
  if entity.getString? "@type" = some "streams" then
    match entity.get? "streams" with
    | none => .ok []
    | some (.array elements) => streamsIn elements
    | some found => .error (.wrongType found "a sequence")
  else .ok []

/- The streams that entities list, up to the first fault. -/
def streams :
    List Json → Except RunError (List StreamInfo)
| [] => .ok []
| entity :: entities =>
    match entityStreams entity with
    | .error mismatch =>
        .error (.response mismatch.message)
    | .ok found =>
        match streams entities with
        | .error error => .error error
        | .ok later => .ok (found ++ later)

end Reply

end KsqlBatch
