import KsqlBatch.Proofs.Settings.Port

/-
  This file says which endpoints make a usable base URL. The
  loader accepts every endpoint that is not blank, but two
  kinds of them lose too much with the slashes at the end:
  slashes alone, and a scheme with nothing behind it.

  Key definitions include:
    * `Connection.HasUsableUrl`
    * `Connection.IsBare`
    * `Connection.LosesScheme`
    * `Loader.connectionTo`

  Key theorems include:
    * `Connection.hasUsableUrl_iff`
    * `Connection.losesScheme_iff`
    * `Loader.load_of_built_in`
    * `Loader.load_endpoint`

  The main result is `Loader.load_usable_url`.
-/

------------------------------------------------------------
-- Endpoints without a Host
------------------------------------------------------------

namespace KsqlBatch

namespace Connection

variable (connection : Connection)

/-
  The base URL is the endpoint, if it has the mark of a
  scheme, or else it is put together around a host.
-/
structure HasUsableUrl : Prop where
  verbatim :
    schemeMark <:+: connection.endpoint.toList →
      ∀ port useTls,
        { connection with port, useTls }.baseUrl.toList =
          stripSlashes connection.endpoint.toList
  around :
    ¬ schemeMark <:+: connection.endpoint.toList →
      ∃ host,
        host ≠ [] ∧
          connection.baseUrl.toList =
            connection.scheme ++ schemeMark ++ host ++
              ':' :: (toString connection.port).toList

/- The endpoint consists of slashes. -/
def IsBare : Prop :=
  ∀ c ∈ connection.endpoint.toList, c = '/'

/- The mark of the scheme goes with the slashes at the end. -/
def LosesScheme : Prop :=
  schemeMark <:+: connection.endpoint.toList ∧
    ¬ connection.NamesScheme

variable {connection : Connection}

/- Removing slashes adds no mark of a scheme. -/
theorem schemeMark_infix_endpoint
    (hScheme : connection.NamesScheme) :
    schemeMark <:+: connection.endpoint.toList := by
  rcases exists_append_slashes connection.endpoint.toList
    with ⟨n, hSplit⟩
  have hPrefix :
      stripSlashes connection.endpoint.toList <+:
        connection.endpoint.toList :=
    ⟨List.replicate n '/', hSplit.symm⟩
  exact hScheme.trans hPrefix.isInfix

/- Slashes are no mark of a scheme. -/
theorem IsBare.not_schemeMark_infix
    (hBare : connection.IsBare) :
    ¬ schemeMark <:+: connection.endpoint.toList := by
  intro hMark
  have hColon : ':' ∈ connection.endpoint.toList :=
    hMark.subset (by decide)
  exact absurd (hBare ':' hColon) (by decide)

/- Of slashes nothing is left between scheme and port. -/
theorem IsBare.toList_baseUrl
    (hBare : connection.IsBare) :
    connection.baseUrl.toList =
      connection.scheme ++ schemeMark ++
        ':' :: (toString connection.port).toList := by
  have hScheme : ¬ connection.NamesScheme :=
    mt schemeMark_infix_endpoint hBare.not_schemeMark_infix
  rw [toList_baseUrl_without_scheme hScheme,
    stripSlashes_eq_nil_iff.mpr hBare]
  simp

/- The URL is usable unless the endpoint lacks a host. -/
theorem hasUsableUrl_iff :
    connection.HasUsableUrl ↔
      ¬ connection.IsBare ∧ ¬ connection.LosesScheme := by
  constructor
  · intro hUsable
    constructor
    · intro hBare
      rcases hUsable.around hBare.not_schemeMark_infix with
        ⟨host, hHost, hUrl⟩
      rw [hBare.toList_baseUrl,
        List.append_assoc _ host] at hUrl
      have hSame := List.append_cancel_left hUrl
      have hLength := congrArg List.length hSame
      rw [List.length_append] at hLength
      exact hHost (List.length_eq_zero_iff.mp (by omega))
    · rintro ⟨hMark, hScheme⟩
      refine hScheme ?_
      unfold NamesScheme
      rw [← hUsable.verbatim hMark connection.port
        connection.useTls]
      exact schemeMark_infix_baseUrl connection
  · rintro ⟨hBare, hLoses⟩
    refine ⟨?_, ?_⟩
    · intro hMark port useTls
      have hScheme : connection.NamesScheme := by
        by_contra hScheme
        exact hLoses ⟨hMark, hScheme⟩
      rw [baseUrl_of_namesScheme hScheme port useTls]
      exact toList_baseUrl_with_scheme hScheme
    · intro hMark
      have hScheme : ¬ connection.NamesScheme :=
        mt schemeMark_infix_endpoint hMark
      refine
        ⟨stripSlashes connection.endpoint.toList,
          mt stripSlashes_eq_nil_iff.mp hBare, ?_⟩
      rw [toList_baseUrl_without_scheme hScheme,
        List.append_assoc, List.singleton_append]

end Connection

end KsqlBatch

------------------------------------------------------------
-- Lost Schemes
------------------------------------------------------------

namespace KsqlBatch

namespace Connection

variable {cs : List Char}
variable {n : Nat}

/-
  A mark that is there only with slashes at the end has its
  colon right in front of them.
-/
theorem exists_colon_of_schemeMark_infix
    (hMark :
      schemeMark <:+: cs ++ List.replicate n '/')
    (hWithout : ¬ schemeMark <:+: cs)
    (hLast : cs.getLast? ≠ some '/') :
    ∃ front, cs = front ++ [':'] ∧ 2 ≤ n := by
  rcases hMark with ⟨front, behind, hSplit⟩
  have hNoColon : ':' ∉ List.replicate n '/' := by
    intro hColon
    exact absurd (List.eq_of_mem_replicate hColon) (by decide)
  rw [List.append_assoc] at hSplit
  rcases List.append_eq_append_iff.mp hSplit with
    ⟨part, rfl, hPart⟩ | ⟨slashes, _, hSlashes⟩
  · -- How much of the mark stands in front of the slashes?
    rw [schemeMark] at hPart
    rcases part with _ | ⟨colon, _ | ⟨first, _ | ⟨second, rest⟩⟩⟩
    · rw [List.nil_append] at hPart
      rw [← hPart] at hNoColon
      exact absurd List.mem_cons_self hNoColon
    · simp only [List.cons_append, List.nil_append,
        List.cons.injEq] at hPart
      rcases hPart with ⟨rfl, hPart⟩
      have hLength := congrArg List.length hPart
      rw [List.length_replicate, List.length_cons,
        List.length_cons] at hLength
      exact ⟨front, rfl, by omega⟩
    · simp only [List.cons_append, List.nil_append,
        List.cons.injEq] at hPart
      rcases hPart with ⟨rfl, rfl, _⟩
      rw [List.getLast?_append_of_ne_nil _
        (List.cons_ne_nil _ _)] at hLast
      exact absurd rfl hLast
    · simp only [List.cons_append, List.nil_append,
        List.cons.injEq] at hPart
      rcases hPart with ⟨rfl, rfl, rfl, _⟩
      refine absurd ⟨front, rest, ?_⟩ hWithout
      rw [List.append_assoc]
      rfl
  · rw [hSlashes] at hNoColon
    exact
      absurd (List.mem_append_right _ List.mem_cons_self)
        hNoColon

/- The slashes of a mark count as slashes at the end. -/
theorem append_schemeMark_append
    (front : List Char)
    (n : Nat) :
    front ++ schemeMark ++ List.replicate n '/' =
      front ++ [':'] ++ List.replicate (n + 2) '/' := by
  rw [List.append_assoc, List.append_assoc]
  rfl

theorem stripSlashes_append_schemeMark
    (front : List Char)
    (n : Nat) :
    stripSlashes
        (front ++ schemeMark ++ List.replicate n '/') =
      front ++ [':'] := by
  have hLast : (front ++ [':']).getLast? ≠ some '/' := by
    rw [List.getLast?_concat]
    decide
  rw [append_schemeMark_append,
    stripSlashes_append_replicate,
    stripSlashes_of_getLast? hLast]

variable {connection : Connection}

/-
  A scheme is lost if its mark is the first one and nothing
  but slashes stands behind it.
-/
theorem losesScheme_iff :
    connection.LosesScheme ↔
      ∃ front n,
        connection.endpoint.toList =
            front ++ schemeMark ++ List.replicate n '/' ∧
          ¬ schemeMark <:+: front ++ [':'] := by
  constructor
  · rintro ⟨hMark, hScheme⟩
    rcases exists_append_slashes connection.endpoint.toList
      with ⟨n, hSplit⟩
    rw [hSplit] at hMark
    rcases
      exists_colon_of_schemeMark_infix hMark hScheme
        (getLast?_stripSlashes _) with
      ⟨front, hFront, hSlashes⟩
    rcases Nat.exists_eq_add_of_le' hSlashes with ⟨m, rfl⟩
    refine ⟨front, m, ?_, ?_⟩
    · rw [append_schemeMark_append, ← hFront]
      exact hSplit
    · rw [← hFront]
      exact hScheme
  · rintro ⟨front, n, hEndpoint, hFront⟩
    refine ⟨?_, ?_⟩
    · rw [hEndpoint]
      exact List.infix_append _ _ _
    · unfold NamesScheme
      rw [hEndpoint, stripSlashes_append_schemeMark]
      exact hFront

/- The colon of a lost scheme stands in front of the port. -/
theorem toList_baseUrl_of_losesScheme
    {front : List Char}
    (hEndpoint :
      connection.endpoint.toList =
        front ++ schemeMark ++ List.replicate n '/')
    (hFront : ¬ schemeMark <:+: front ++ [':']) :
    connection.baseUrl.toList =
      connection.scheme ++ schemeMark ++ front ++
        ':' :: ':' :: (toString connection.port).toList := by
  have hLoses : connection.LosesScheme :=
    losesScheme_iff.mpr ⟨front, n, hEndpoint, hFront⟩
  rw [toList_baseUrl_without_scheme hLoses.2, hEndpoint,
    stripSlashes_append_schemeMark]
  simp

end Connection

end KsqlBatch

------------------------------------------------------------
-- Accepted Endpoints
------------------------------------------------------------

namespace KsqlBatch

namespace Loader

/- The connection to an endpoint if nothing else is given. -/
def connectionTo
    (endpoint : String) : Connection :=
  { endpoint
    port := 443
    useTls := true
    timeoutSecs := 30
    credentials := none }

variable {disk : FileSystem Id}
variable {environment : List (String × String)}
variable {layers : List Layer}
variable {sources overrides : List (Key × Setting)}
variable {text : String}

/-
  An endpoint makes a connection if port, encryption and
  timeout are the built-in ones, unless there is a secret
  without a key.
-/
theorem load_of_built_in
    (hGive :
      Layer.Give disk environment layers sources overrides)
    (hPort :
      effective sources overrides .port = builtIn .port)
    (hTls : effective sources overrides .tls = builtIn .tls)
    (hTimeout :
      effective sources overrides .timeoutSecs =
        builtIn .timeoutSecs)
    (hTexts : (effective sources overrides).HasTexts)
    (hEndpoint :
      (effective sources overrides).text? .endpoint =
        some text)
    (hSome : Text.trimWhiteSpace text ≠ "")
    (hKey :
      (effective sources overrides .apiKey).isSome = true ∨
        effective sources overrides .apiSecret = none) :
    (Id.run (load disk environment layers)).1 =
      .ok
        { connectionTo (Text.trimWhiteSpace text) with
          credentials :=
            ((effective sources overrides).text? .apiKey).map
              fun key =>
                { key
                  secret :=
                    (effective sources overrides).text?
                      .apiSecret } } := by
  have hNumber :
      (effective sources overrides).tree.SaysPort 443 := by
    refine ⟨_, ?_, .signed none 443⟩
    rw [Choices.choices_tree]
    exact hPort
  have hRest :
      (effective sources overrides).tree.HasValidRest true
        30 :=
    Choices.hasValidRest_tree hTexts hEndpoint hSome hKey
      ⟨_, hTls, rfl⟩ ⟨_, hTimeout, rfl⟩ (by decide)
  rcases
    load_of_port (gathered_eq_ok hGive) hNumber hRest
      (by decide) with
    ⟨connection, hLoad, hDescribes⟩
  rw [← Choices.choices_tree (effective _ _)] at hEndpoint
  rw [hLoad, hDescribes.eq hEndpoint, Choices.choices_tree]
  rfl

/- Every text that is not blank is accepted as an endpoint. -/
theorem load_endpoint
    (disk : FileSystem Id)
    (environment : List (String × String))
    (hSome : Text.trimWhiteSpace text ≠ "") :
    (Id.run
        (load disk environment
          [.override "ksqldb.endpoint" (.text text)])).1 =
      .ok (connectionTo (Text.trimWhiteSpace text)) := by
  have hGive :
      Layer.Give disk environment
        [.override "ksqldb.endpoint" (.text text)] []
        [(.endpoint, .scalar none (.text text))] :=
    Layer.give_override disk environment .endpoint (.text text)
  refine
    load_of_built_in hGive rfl rfl rfl (hasTexts_effective ?_)
      rfl hSome (Or.inr rfl)
  intro pair hPair
  rw [List.mem_singleton.mp hPair]
  exact ⟨_, _, rfl⟩

/-
  Which endpoints make a usable base URL. An endpoint with
  the mark of a scheme should be the URL itself, whatever the
  port and the encryption, and a URL should be put together
  around any other one as a host. This fails for slashes
  alone and for a scheme with nothing behind it, since the
  slashes at the end are removed before the mark is looked
  for. Both are accepted.
-/
theorem load_usable_url
    (disk : FileSystem Id)
    (environment : List (String × String)) :
    (∀ connection : Connection,
      let portText := (toString connection.port).toList
      let scheme := connection.scheme ++ Connection.schemeMark
      (connection.HasUsableUrl ↔
        ¬ connection.IsBare ∧ ¬ connection.LosesScheme) ∧
      (connection.IsBare →
        connection.baseUrl.toList =
          scheme ++ ':' :: portText) ∧
      (connection.LosesScheme ↔
        ∃ front n,
          connection.endpoint.toList =
              front ++ Connection.schemeMark ++
                List.replicate n '/' ∧
            ¬ Connection.schemeMark <:+: front ++ [':']) ∧
      ∀ front n,
        connection.endpoint.toList =
            front ++ Connection.schemeMark ++
              List.replicate n '/' →
          ¬ Connection.schemeMark <:+: front ++ [':'] →
            connection.baseUrl.toList =
              scheme ++ front ++ ':' :: ':' :: portText) ∧
    ∀ text : String,
      Text.trimWhiteSpace text ≠ "" →
        (Id.run
            (load disk environment
              [.override "ksqldb.endpoint" (.text text)])).1 =
          .ok (connectionTo (Text.trimWhiteSpace text)) := by
  refine ⟨?_, ?_⟩
  · intro connection portText scheme
    refine
      ⟨Connection.hasUsableUrl_iff, ?_,
        Connection.losesScheme_iff, ?_⟩
    · intro hBare
      exact hBare.toList_baseUrl
    · intro front n hEndpoint hFront
      exact
        Connection.toList_baseUrl_of_losesScheme hEndpoint
          hFront
  · intro text hSome
    exact load_endpoint disk environment hSome

/- Slashes behind a host do no harm. -/
theorem load_usable_url_of_trailing_slashes :
    let disk := FileSystem.ofScripts "conf" []
    (Id.run
        (load disk []
          [.override "ksqldb.endpoint"
            (.text "host//")])).1 =
        .ok (connectionTo "host//") ∧
      (connectionTo "host//").HasUsableUrl := by
  intro disk
  rcases load_usable_url disk [] with ⟨hUrls, hAccepted⟩
  have hTrim : Text.trimWhiteSpace "host//" = "host//" := by
    decide +kernel
  have hLoad := hAccepted "host//" (by decide +kernel)
  rw [hTrim] at hLoad
  refine ⟨hLoad, ?_⟩
  · refine (hUrls (connectionTo "host//")).1.mpr ⟨?_, ?_⟩
    · intro hBare
      exact absurd (hBare 'h' (by decide)) (by decide)
    · rintro ⟨hMark, _⟩
      rw [← Connection.containsText_iff] at hMark
      exact absurd hMark (by decide)

/-
  A slash is accepted, and there is no host in the base URL.
  So is a scheme without a host, and another one is put in
  front of it.
-/
theorem load_url_without_host :
    let disk := FileSystem.ofScripts "conf" []
    let load (endpoint : String) :=
      (Id.run
        (Loader.load disk []
          [.override "ksqldb.endpoint"
            (.text endpoint)])).1
    load "/" = .ok (connectionTo "/") ∧
      (connectionTo "/").baseUrl = "https://:443" ∧
      ¬ (connectionTo "/").HasUsableUrl ∧
      load "http://" = .ok (connectionTo "http://") ∧
      (connectionTo "http://").baseUrl =
        "https://http::443" ∧
      ¬ (connectionTo "http://").HasUsableUrl := by
  intro disk load
  have hLoad (endpoint : String)
      (hTrim : Text.trimWhiteSpace endpoint = endpoint)
      (hSome : endpoint ≠ "") :
      load endpoint = .ok (connectionTo endpoint) := by
    rw [← hTrim] at hSome
    have hAccepted := load_endpoint disk [] hSome
    rw [hTrim] at hAccepted
    exact hAccepted
  refine
    ⟨hLoad "/" (by decide +kernel) (by decide +kernel),
      by decide +kernel, ?_,
      hLoad "http://" (by decide +kernel) (by decide +kernel),
      by decide +kernel, ?_⟩
  · rw [Connection.hasUsableUrl_iff]
    rintro ⟨hBare, _⟩
    refine hBare ?_
    intro c hSlash
    exact List.mem_singleton.mp hSlash
  · rw [Connection.hasUsableUrl_iff]
    rintro ⟨_, hLoses⟩
    refine
      hLoses
        (Connection.losesScheme_iff.mpr
          ⟨"http".toList, 0, by decide +kernel, ?_⟩)
    rw [← Connection.containsText_iff]
    decide +kernel

end Loader

end KsqlBatch
