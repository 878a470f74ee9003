import KsqlBatch.Json.Writer
import KsqlBatch.Script.PropertyMap
import KsqlBatch.Settings.Connection
import KsqlBatch.Text.Base64
import KsqlBatch.Text.Utf8

/-
  This file defines the requests that are sent to the engine
  and the responses to them.

  Key definitions include:
    * `Request`
    * `Request.body`
    * `Request.forStatement`
    * `Response`
    * `Response.text`
    * `Credentials.authorization`
-/

------------------------------------------------------------
-- Requests
------------------------------------------------------------

namespace KsqlBatch

/- The value of the header that carries credentials. -/
def Credentials.authorization
    (credentials : Credentials) : String :=
  let text :=
    credentials.key ++ ":" ++ credentials.secret.getD ""
  "Basic " ++ Base64.encode text.toUTF8

/-
  A request to the engine. Requests differ in their URL, in
  the credentials they carry, and in their body.
-/
structure Request where
  url : String
  authorization : Option String
  body : String
deriving DecidableEq, Repr, Inhabited

namespace Request

/- The method of all requests. -/
def method : String := "POST"

/- The media type that requests have and ask for. -/
def mediaType : String := "application/vnd.ksql.v1+json"

/- What the URL of requests adds to that of the engine. -/
def path : String := "/ksql"

/- A statement and its properties as a JSON object. -/
def encode
    (text : String)
    (properties : PropertyMap) : Json :=
  .object
    [("ksql", .string text),
      ("streamsProperties", properties.toJson)]

/- The request that submits a statement. -/
def forStatement
    (baseUrl : String)
    (credentials : Option Credentials)
    (text : String)
    (properties : PropertyMap) : Request where
  url := baseUrl ++ path
  authorization :=
    credentials.map Credentials.authorization
  body := (encode text properties).render

end Request

end KsqlBatch

------------------------------------------------------------
-- Responses
------------------------------------------------------------

namespace KsqlBatch

/- A response of the engine. -/
structure Response where
  status : Nat
  body : ByteArray
deriving Inhabited

namespace Response

/- The text of a response. -/
def text
    (response : Response) : String :=
  Text.decodeBytes response.body

/- The response says that the request has succeeded. -/
def isSuccess
    (status : Nat) : Bool :=
  200 ≤ status && status < 300

/- The names of status codes. -/
def statusNames : List (Nat × String) :=
  [(100, "Continue"), (101, "Switching Protocols"),
   (102, "Processing"), (200, "OK"), (201, "Created"),
   (202, "Accepted"),
   (203, "Non Authoritative Information"),
   (204, "No Content"), (205, "Reset Content"),
   (206, "Partial Content"), (207, "Multi-Status"),
   (208, "Already Reported"), (226, "IM Used"),
   (300, "Multiple Choices"), (301, "Moved Permanently"),
   (302, "Found"), (303, "See Other"),
   (304, "Not Modified"), (305, "Use Proxy"),
   (307, "Temporary Redirect"),
   (308, "Permanent Redirect"), (400, "Bad Request"),
   (401, "Unauthorized"), (402, "Payment Required"),
   (403, "Forbidden"), (404, "Not Found"),
   (405, "Method Not Allowed"), (406, "Not Acceptable"),
   (407, "Proxy Authentication Required"),
   (408, "Request Timeout"), (409, "Conflict"),
   (410, "Gone"), (411, "Length Required"),
   (412, "Precondition Failed"),
   (413, "Payload Too Large"), (414, "URI Too Long"),
   (415, "Unsupported Media Type"),
   (416, "Range Not Satisfiable"),
   (417, "Expectation Failed"), (418, "I'm a teapot"),
   (421, "Misdirected Request"),
   (422, "Unprocessable Entity"), (423, "Locked"),
   (424, "Failed Dependency"), (425, "Too Early"),
   (426, "Upgrade Required"),
   (428, "Precondition Required"),
   (429, "Too Many Requests"),
   (431, "Request Header Fields Too Large"),
   (451, "Unavailable For Legal Reasons"),
   (500, "Internal Server Error"),
   (501, "Not Implemented"), (502, "Bad Gateway"),
   (503, "Service Unavailable"), (504, "Gateway Timeout"),
   (505, "HTTP Version Not Supported"),
   (506, "Variant Also Negotiates"),
   (507, "Insufficient Storage"), (508, "Loop Detected"),
   (510, "Not Extended"),
   (511, "Network Authentication Required")]

/- A status code in words. -/
def describeStatus
    (status : Nat) : String :=
  let name :=
    (statusNames.find? (·.1 = status)).map (·.2)
  toString status ++ " " ++
    name.getD "<unknown status code>"

end Response

end KsqlBatch
