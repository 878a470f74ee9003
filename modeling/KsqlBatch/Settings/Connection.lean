import KsqlBatch.Text.Quoted

/-
  This file defines how the engine is reached.

  Key definitions include:
    * `Credentials`
    * `Connection`
    * `Connection.baseUrl`
    * `Connection.describe`
-/

------------------------------------------------------------
-- Connections
------------------------------------------------------------

namespace KsqlBatch

/- A key for the engine, and the secret that goes with it. -/
structure Credentials where
  key : String
  secret : Option String
deriving DecidableEq, Repr, Inhabited

/- Where the engine is and how to talk to it. -/
structure Connection where
  endpoint : String
  port : Nat
  useTls : Bool
  timeoutSecs : Nat
  credentials : Option Credentials
deriving DecidableEq, Repr, Inhabited

end KsqlBatch

------------------------------------------------------------
-- Base URL
------------------------------------------------------------

namespace KsqlBatch

namespace Connection

/- A text without the slashes at its end. -/
def stripSlashes
    (cs : List Char) : List Char :=
  (cs.reverse.dropWhile (· == '/')).reverse

/- What stands between the scheme and the rest of a URL. -/
def schemeMark : List Char :=
  [':', '/', '/']

/- A text contains another one. -/
def containsText
    (part : List Char) :
    List Char → Bool
| [] => part.isEmpty
| c :: cs => part.isPrefixOf (c :: cs) || containsText part cs

/- The scheme for an endpoint that names none. -/
def scheme
    (connection : Connection) : List Char :=
  if connection.useTls then ['h', 't', 't', 'p', 's']
  else ['h', 't', 't', 'p']

/-
  The URL of the engine, without a slash at its end. An
  endpoint that names a scheme is used as it is.
-/
def baseUrl
    (connection : Connection) : String :=
  let endpoint := stripSlashes connection.endpoint.toList
  if containsText schemeMark endpoint then
    String.ofList endpoint
  else
    String.ofList
      (connection.scheme ++ schemeMark ++ endpoint ++ [':'] ++
        (toString connection.port).toList)

end Connection

end KsqlBatch

------------------------------------------------------------
-- Description
------------------------------------------------------------

namespace KsqlBatch

/- Stands for a secret in descriptions. -/
def hiddenSecret : String := "***"

/- Credentials in words, without the secret. -/
def Credentials.describe
    (credentials : Credentials) : String :=
  "Credentials \x7b key: " ++ Text.quoted credentials.key ++
    ", secret: " ++ Text.quoted hiddenSecret ++ " \x7d"

/- A number of seconds in words. -/
def describeSeconds
    (seconds : Nat) : String :=
  if seconds = 0 then "0ns" else toString seconds ++ "s"

/- A connection in words, without the secret. -/
def Connection.describe
    (connection : Connection) : String :=
  "ConnectionConfig \x7b endpoint: " ++
    Text.quoted connection.endpoint ++
    ", port: " ++ toString connection.port ++
    ", use_tls: " ++ toString connection.useTls ++
    ", timeout: " ++ describeSeconds connection.timeoutSecs ++
    ", credentials: " ++
    Text.describeOption
      (connection.credentials.map Credentials.describe) ++
    " \x7d"

end KsqlBatch
