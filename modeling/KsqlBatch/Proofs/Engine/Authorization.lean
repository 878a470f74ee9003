import KsqlBatch.Proofs.Engine.Requests
import KsqlBatch.Proofs.Text.Base64

/-
  This file reads the header that carries credentials: it is
  written if there are credentials and not otherwise, it is
  the same in all requests of a client, and the key and the
  secret can be decoded from it.

  Key definitions include:
    * `Url.userInfo?`
    * `Request.sent?`
    * `Client.authorizations`

  Key theorems include:
    * `Credentials.authorization_eq_iff`
    * `Client.authorizations_eq`
    * `Client.credentials_decode`
-/

------------------------------------------------------------
-- Users in URLs
------------------------------------------------------------

namespace KsqlBatch

namespace Url

/-
  The user that a URL names, perhaps with a password: what
  stands in its authority in front of the last at sign.
-/
def userInfo?
    (url : Url) : Option (List Char) :=
  match url.authority.reverse.dropWhile (· != '@') with
  | [] => none
  | _ :: userRev => some userRev.reverse

end Url

end KsqlBatch

------------------------------------------------------------
-- Headers as They are Sent
------------------------------------------------------------

namespace KsqlBatch

/- The values of the headers with a name. -/
def WrittenRequest.valuesOf
    (request : WrittenRequest)
    (name : String) : List String :=
  (request.headers.filter (·.1 = name)).map Prod.snd

/-
  A request as it is sent. For a user that its URL names, one
  more header may be written; what it says is not for the
  program to decide.
-/
def Request.sent?
    (ofUser : List Char → Option String)
    (request : Request) : Option WrittenRequest := do
  let url ← Url.parse? request.url
  let written ← request.written?
  let added := (url.userInfo?.bind ofUser).toList
  some
    { written with
      headers :=
        added.map (fun value => ("Authorization", value)) ++
          written.headers }

/-
  Without a user in its URL, a request is sent with the
  header for the credentials it carries, if there are any.
-/
theorem Request.valuesOf_sent?
    {ofUser : List Char → Option String}
    {request : Request}
    {url : Url}
    (hParse : Url.parse? request.url = some url)
    (hUser : url.userInfo? = none) :
    (request.sent? ofUser).map
        (·.valuesOf "Authorization") =
      some request.authorization.toList := by
  have hWritten :
      request.written? =
        some
          { method
            target := String.ofList url.target
            headers := request.headers
            body := request.body } := by
    unfold written?
    rw [hParse]
    rfl
  unfold sent?
  rw [hParse, hWritten]
  cases hAuthorization : request.authorization with
  | none =>
      simp [hUser, WrittenRequest.valuesOf, headers,
        hAuthorization]
  | some value =>
      simp [hUser, WrittenRequest.valuesOf, headers,
        hAuthorization]

end KsqlBatch

------------------------------------------------------------
-- Credentials
------------------------------------------------------------

namespace KsqlBatch

namespace Credentials

/- The text that is encoded for credentials. -/
def plainText
    (credentials : Credentials) : String :=
  credentials.key ++ ":" ++ credentials.secret.getD ""

/- The key of a text ends at its first colon. -/
theorem append_colon_inj
    {key other secret rest : List Char}
    (hKey : ':' ∉ key)
    (hOther : ':' ∉ other) :
    key ++ ':' :: secret = other ++ ':' :: rest ↔
      key = other ∧ secret = rest := by
  induction key generalizing other with
  | nil =>
      cases other with
      | nil => simp
      | cons c other =>
          have hColon : ':' ≠ c :=
            fun hSame => hOther (hSame ▸ List.mem_cons_self)
          simp [hColon]
  | cons c key ih =>
      rw [List.mem_cons, not_or] at hKey
      cases other with
      | nil => simp [Ne.symm hKey.1]
      | cons d other =>
          rw [List.mem_cons, not_or] at hOther
          simp [ih hKey.2 hOther.2, and_assoc]

/- Keys without a colon and secrets can be told apart. -/
theorem plainText_eq_iff
    {credentials others : Credentials}
    (hKey : ':' ∉ credentials.key.toList)
    (hOther : ':' ∉ others.key.toList) :
    credentials.plainText = others.plainText ↔
      credentials.key = others.key ∧
        credentials.secret.getD "" =
          others.secret.getD "" := by
  have hText (found : Credentials) :
      found.plainText.toList =
        found.key.toList ++
          ':' :: (found.secret.getD "").toList := by
    unfold plainText
    rw [String.toList_append, String.toList_append,
      List.append_assoc]
    rfl
  rw [← String.toList_inj, hText, hText,
    append_colon_inj hKey hOther, String.toList_inj,
    String.toList_inj]

/- The header for credentials is their text in Base64. -/
theorem authorization_eq
    (credentials : Credentials) :
    credentials.authorization =
      "Basic " ++
        Base64.encode credentials.plainText.toUTF8 := rfl

/- Headers differ for different texts. -/
theorem authorization_eq_iff
    {credentials others : Credentials} :
    credentials.authorization = others.authorization ↔
      credentials.plainText = others.plainText := by
  rw [authorization_eq, authorization_eq,
    String.append_right_inj, Base64.encode_inj]
  exact String.toByteArray_inj

end Credentials

end KsqlBatch

------------------------------------------------------------
-- Clients
------------------------------------------------------------

namespace KsqlBatch

namespace Client

/-
  The headers with credentials that a call is sent with, if
  it can be sent at all.
-/
def authorizations
    (client : Client)
    (ofUser : List Char → Option String)
    (call : Call) : Option (List String) :=
  ((client.callRequest call).sent? ofUser).map
    (·.valuesOf "Authorization")

/- All calls are sent with the header for the credentials. -/
theorem authorizations_eq
    {client : Client}
    {url : Url}
    (hParse : Url.parse? client.baseUrl = some url)
    (hUser : url.userInfo? = none)
    (ofUser : List Char → Option String)
    (call : Call) :
    client.authorizations ofUser call =
      some
        (client.credentials.map
          Credentials.authorization).toList := by
  rcases
    Url.exists_parse?_append hParse
      (show Request.path.toList.head? = some '/' by decide)
    with ⟨target, hTarget⟩
  exact Request.valuesOf_sent? hTarget hUser

/-
  If the URL of the engine is one and names no user, all
  requests of a client carry the same header for its
  credentials: none without credentials, and otherwise one,
  from which the key and the secret are decoded. Whatever the
  responses are, what is sent is one request with this header
  for each call. Keys without a colon that differ, and secrets
  that differ, make for different headers; a secret that is
  absent counts as an empty one.
-/
theorem credentials_decode
    (connection : Connection)
    (url : Url)
    (hParse : Url.parse? connection.baseUrl = some url)
    (hUser : url.userInfo? = none) :
    (connection.credentials = none →
      ∀ ofUser call,
        (ofConnection connection).authorizations ofUser
          call = some []) ∧
    (∀ credentials,
      connection.credentials = some credentials →
      ∃ encoded,
        Base64.decode? encoded =
            some
              (credentials.key ++ ":" ++
                credentials.secret.getD "").toUTF8 ∧
        ∀ ofUser call,
          (ofConnection connection).authorizations ofUser
            call = some ["Basic " ++ encoded]) ∧
    (∀ {σ : Type} (transport : Transport (Session σ))
      (calls : List Call) (s : σ),
      let sent :=
        ((((ofConnection connection).executor
          transport.keeping Session.report).answerAll
            calls).run (s, [])).2.1.2
      sent.length = calls.length ∧
        ∀ request ∈ sent, ∀ ofUser,
          (request.sent? ofUser).map
              (·.valuesOf "Authorization") =
            some
              (connection.credentials.map
                Credentials.authorization).toList) ∧
    ∀ credentials others : Credentials,
      ':' ∉ credentials.key.toList →
      ':' ∉ others.key.toList →
      ∀ ofUser call other,
        ((ofConnection
              { connection with
                credentials := some credentials
              }).authorizations ofUser call =
            (ofConnection
              { connection with
                credentials := some others
              }).authorizations ofUser other ↔
          credentials.key = others.key ∧
            credentials.secret.getD "" =
              others.secret.getD "") := by
  have hEach (found : Option Credentials) :=
    @authorizations_eq
      (ofConnection { connection with credentials := found })
      url hParse hUser
  refine ⟨?_, ?_, ?_, ?_⟩
  · intro hNone ofUser call
    have hCall := hEach connection.credentials ofUser call
    simp only [ofConnection, hNone] at hCall ⊢
    exact hCall
  · intro credentials hSome
    refine
      ⟨Base64.encode credentials.plainText.toUTF8,
        Base64.decode?_eq_some_iff.mpr rfl, ?_⟩
    intro ofUser call
    have hCall := hEach connection.credentials ofUser call
    simp only [ofConnection, hSome] at hCall ⊢
    exact hCall
  · intro σ transport calls s sent
    have hSent :
        sent =
          [] ++
            calls.map (ofConnection connection).callRequest :=
      sent_answerAll _ transport calls s []
    rw [hSent, List.nil_append]
    refine ⟨List.length_map _, ?_⟩
    intro request hRequest ofUser
    rcases List.mem_map.mp hRequest with ⟨call, _, rfl⟩
    exact hEach connection.credentials ofUser call
  · intro credentials others hKey hOther ofUser call other
    rw [hEach, hEach,
      ← Credentials.plainText_eq_iff hKey hOther,
      ← Credentials.authorization_eq_iff]
    simp [ofConnection]

/-
  A key that is not made of ASCII letters, next to a secret
  with a colon; no secret and an empty one; and a key with
  another secret, for which another header is sent.
-/
theorem credentials_decode_of_three_secrets :
    let connection (secret : Option String) : Connection :=
      { endpoint := "ksql.example.com"
        port := 8088
        useTls := true
        timeoutSecs := 30
        credentials := some { key := "clé", secret } }
    let sent (secret : Option String) (call : Call) :=
      (ofConnection (connection secret)).authorizations
        (fun _ => none) call
    let statement : Call :=
      .execute
        { text := "SELECT 1;", startLine := 1, endLine := 1 }
        PropertyMap.empty
    ':' ∉ "clé".toList ∧
      sent (some "s:3") .listStreams =
        some ["Basic Y2zDqTpzOjM="] ∧
      sent none .listStreams = sent (some "") statement ∧
      sent none .listStreams ≠
        sent (some "s:3") .listStreams := by
  intro connection sent statement
  have hKey : ':' ∉ "clé".toList := by decide
  let url : Url :=
    { secure := true
      authority := "ksql.example.com:8088".toList
      target := ['/'] }
  rcases
    credentials_decode (connection (some "s:3")) url
      (by decide +kernel) (by decide +kernel) with
    ⟨_, hHeader, _, hSame⟩
  have hDiffer (secret other : Option String) :=
    hSame { key := "clé", secret }
      { key := "clé", secret := other } hKey hKey
      (fun _ => none)
  refine ⟨hKey, ?_, ?_, ?_⟩
  · rcases hHeader _ rfl with ⟨encoded, hDecode, hSent⟩
    have hEncoded : encoded = "Y2zDqTpzOjM=" :=
      (Base64.decode?_eq_some_iff.mp hDecode).trans
        (by decide +kernel)
    rw [hEncoded] at hSent
    exact hSent (fun _ => none) .listStreams
  · exact
      (hDiffer none (some "") .listStreams statement).mpr
        ⟨rfl, rfl⟩
  · intro hEqual
    have hSecret :=
      ((hDiffer none (some "s:3") .listStreams
        .listStreams).mp hEqual).2
    exact absurd hSecret (by decide)

end Client

end KsqlBatch
