import KsqlBatch.Engine.Client
import KsqlBatch.Engine.Session
import KsqlBatch.Engine.Url

/-
  This file defines servers that give prepared replies and
  keep the requests they have received.

  Key definitions include:
    * `PreparedReply`
    * `Server`
    * `Server.transport`
-/

------------------------------------------------------------
-- Servers
------------------------------------------------------------

namespace KsqlBatch

/- What a server does with a request. -/
inductive PreparedReply where
| respond (response : Response)
| drop
deriving Inhabited

/-
  A server: whether it can be reached, the replies to come,
  and the requests so far, the latest one first.
-/
structure Server where
  reachable : Bool
  replies : List PreparedReply
  receivedRev : List Request
deriving Inhabited

namespace Server

/- The requests that the server has received, in order. -/
def received
    (server : Server) : List Request :=
  server.receivedRev.reverse

/- The response of a server without further replies. -/
def exhausted : Response where
  status := 503
  body := "no more responses".toUTF8

/- A response with this status has no body. -/
def isBodiless
    (status : Nat) : Bool :=
  status = 204 || status = 304

/- A response as it arrives. -/
def delivered
    (response : Response) : Response :=
  if isBodiless response.status then
    { response with body := ByteArray.empty }
  else response

/- The answer to a request that arrives. -/
def answer
    (server : Server)
    (request : Request) :
    Except TransportFault Response × List PreparedReply :=
  match server.replies with
  | [] => (.ok exhausted, [])
  | .respond response :: replies =>
      (.ok (delivered response), replies)
  | .drop :: replies =>
      (.error (.unanswered request.url), replies)

/- Send a request to the server. -/
def transport : Transport (Session Server) :=
  fun request => do
    let server ← Session.read
    match Url.parse? request.url with
    | none => return .error .badUrl
    | some _ =>
        if server.reachable then
          let (answer, replies) := server.answer request
          Session.write
            { server with
              replies
              receivedRev := request :: server.receivedRev }
          return answer
        else
          return .error (.unanswered request.url)

end Server

end KsqlBatch
