import Mathlib.Data.List.DropRight
import KsqlBatch.Proofs.Engine.Requests

/-
  This file says what the base URL of a connection is. It
  is a normal form: it names a scheme, no slash stands at
  its end, and as an endpoint it stands for itself.

  Key definitions include:
    * `Connection.NamesScheme`

  Key theorems include:
    * `Connection.containsText_iff`
    * `Connection.toList_baseUrl_with_scheme`
    * `Connection.toList_baseUrl_without_scheme`
    * `Connection.baseUrl_pasted`

  The main result is `Connection.baseUrl_normal_form`.
-/

------------------------------------------------------------
-- Slashes at the End
------------------------------------------------------------

namespace KsqlBatch

namespace Connection

variable {cs : List Char}

theorem stripSlashes_eq
    (cs : List Char) :
    stripSlashes cs = cs.rdropWhile (· == '/') :=
  rfl

/- What is removed are slashes. -/
theorem exists_append_slashes
    (cs : List Char) :
    ∃ n, cs = stripSlashes cs ++ List.replicate n '/' := by
  let slashes := cs.rtakeWhile (· == '/')
  have hSlashes :
      slashes = List.replicate slashes.length '/' := by
    refine List.eq_replicate_iff.mpr ⟨rfl, ?_⟩
    intro c hChar
    have hSlash : (c == '/') = true :=
      List.mem_rtakeWhile_imp (p := (· == '/')) hChar
    exact beq_iff_eq.mp hSlash
  refine ⟨slashes.length, ?_⟩
  rw [← hSlashes]
  exact List.rdropWhile_append_rtakeWhile.symm

/- No slash is left at the end. -/
theorem getLast?_stripSlashes
    (cs : List Char) :
    (stripSlashes cs).getLast? ≠ some '/' := by
  intro hLast
  have hSome : stripSlashes cs ≠ [] := by
    intro hNone
    rw [hNone] at hLast
    cases hLast
  rw [List.getLast?_eq_some_getLast hSome,
    Option.some.injEq] at hLast
  exact
    List.rdropWhile_last_not (· == '/') cs hSome
      (beq_iff_eq.mpr hLast)

/- Without a slash at its end a text stays as it is. -/
theorem stripSlashes_of_getLast?
    (hLast : cs.getLast? ≠ some '/') :
    stripSlashes cs = cs := by
  refine List.rdropWhile_eq_self_iff.mpr ?_
  intro hSome hSlash
  refine hLast ?_
  rw [List.getLast?_eq_some_getLast hSome,
    beq_iff_eq.mp hSlash]

/- Slashes that are put behind a text are removed. -/
theorem stripSlashes_append_replicate
    (cs : List Char)
    (n : Nat) :
    stripSlashes (cs ++ List.replicate n '/') =
      stripSlashes cs := by
  induction n with
  | zero => rw [List.replicate_zero, List.append_nil]
  | succ n ih =>
      rw [List.replicate_succ', ← List.append_assoc,
        stripSlashes_eq, List.rdropWhile_concat_pos _ _ _ rfl]
      exact ih

/- Only slashes are removed altogether. -/
theorem stripSlashes_eq_nil_iff :
    stripSlashes cs = [] ↔ ∀ c ∈ cs, c = '/' := by
  rw [stripSlashes_eq, List.rdropWhile_eq_nil_iff]
  simp only [beq_iff_eq]

end Connection

end KsqlBatch

------------------------------------------------------------
-- Parts of Texts
------------------------------------------------------------

namespace KsqlBatch

namespace Connection

/- The search for a part finds it wherever it stands. -/
theorem containsText_iff
    {part cs : List Char} :
    containsText part cs = true ↔ part <:+: cs := by
  induction cs with
  | nil =>
      rw [containsText, List.isEmpty_iff, List.infix_nil]
  | cons c cs ih =>
      rw [containsText, Bool.or_eq_true,
        List.isPrefixOf_iff_prefix, ih, List.infix_cons_iff]

variable (connection : Connection)

/-
  The endpoint names a scheme, even without the slashes at
  its end.
-/
def NamesScheme : Prop :=
  schemeMark <:+: stripSlashes connection.endpoint.toList

variable {connection : Connection}

/- An endpoint that names a scheme is the URL. -/
theorem toList_baseUrl_with_scheme
    (hScheme : connection.NamesScheme) :
    connection.baseUrl.toList =
      stripSlashes connection.endpoint.toList := by
  unfold baseUrl
  dsimp only
  rw [if_pos (containsText_iff.mpr hScheme),
    String.toList_ofList]

/- Around any other endpoint the URL is put together. -/
theorem toList_baseUrl_without_scheme
    (hScheme : ¬ connection.NamesScheme) :
    connection.baseUrl.toList =
      connection.scheme ++ schemeMark ++
        stripSlashes connection.endpoint.toList ++ [':'] ++
        (toString connection.port).toList := by
  unfold baseUrl
  dsimp only
  rw [if_neg (mt containsText_iff.mp hScheme),
    String.toList_ofList]

/- If the endpoint names a scheme, the port is irrelevant. -/
theorem baseUrl_of_namesScheme
    (hScheme : connection.NamesScheme)
    (port : Nat)
    (useTls : Bool) :
    baseUrl { connection with port, useTls } =
      connection.baseUrl := by
  let other : Connection := { connection with port, useTls }
  have hOther : other.NamesScheme := hScheme
  refine String.toList_inj.mp ?_
  rw [toList_baseUrl_with_scheme hScheme]
  exact toList_baseUrl_with_scheme hOther

/- Slashes at the end of the endpoint do not matter. -/
theorem baseUrl_append_slashes
    (connection : Connection)
    (n : Nat) :
    baseUrl
        { connection with
          endpoint :=
            connection.endpoint ++
              String.ofList (List.replicate n '/') } =
      connection.baseUrl := by
  have hSame :
      stripSlashes
          (connection.endpoint ++
            String.ofList (List.replicate n '/')).toList =
        stripSlashes connection.endpoint.toList := by
    rw [String.toList_append, String.toList_ofList,
      stripSlashes_append_replicate]
  unfold baseUrl scheme
  dsimp only
  rw [hSame]

end Connection

end KsqlBatch

------------------------------------------------------------
-- Normal Form
------------------------------------------------------------

namespace KsqlBatch

namespace Connection

/- A number ends in a digit, which is no slash. -/
theorem slash_not_mem_toString
    (n : Nat) :
    '/' ∉ (toString n).toList := by
  rw [Nat.toString_eq_repr, Nat.toList_repr]
  intro hSlash
  have hDigit :=
    Nat.isDigit_of_mem_toDigits (by decide) (by decide) hSlash
  exact absurd hDigit (by decide)

variable (connection : Connection)

/- Every base URL names a scheme. -/
theorem schemeMark_infix_baseUrl :
    schemeMark <:+: connection.baseUrl.toList := by
  by_cases hScheme : connection.NamesScheme
  · rw [toList_baseUrl_with_scheme hScheme]
    exact hScheme
  · rw [toList_baseUrl_without_scheme hScheme,
      List.append_assoc, List.append_assoc]
    exact List.infix_append _ _ _

/- No slash stands at the end of a base URL. -/
theorem getLast?_baseUrl :
    connection.baseUrl.toList.getLast? ≠ some '/' := by
  by_cases hScheme : connection.NamesScheme
  · rw [toList_baseUrl_with_scheme hScheme]
    exact getLast?_stripSlashes _
  · rw [toList_baseUrl_without_scheme hScheme]
    have hDigits : (toString connection.port).toList ≠ [] := by
      rw [Nat.toString_eq_repr, Nat.toList_repr]
      exact Nat.toDigits_ne_nil
    intro hLast
    rw [List.getLast?_append_of_ne_nil _ hDigits] at hLast
    exact
      slash_not_mem_toString connection.port
        (List.mem_of_getLast? hLast)

/- A base URL that is used as an endpoint stays the same. -/
theorem baseUrl_pasted
    (port : Nat)
    (useTls : Bool) :
    baseUrl
        { connection with
          endpoint := connection.baseUrl, port, useTls } =
      connection.baseUrl := by
  have hStripped :
      stripSlashes connection.baseUrl.toList =
        connection.baseUrl.toList :=
    stripSlashes_of_getLast? (getLast?_baseUrl connection)
  let pasted : Connection :=
    { connection with
      endpoint := connection.baseUrl, port, useTls }
  have hScheme : pasted.NamesScheme := by
    unfold NamesScheme
    rw [hStripped]
    exact schemeMark_infix_baseUrl connection
  refine String.toList_inj.mp ?_
  exact
    (toList_baseUrl_with_scheme hScheme).trans hStripped

/-
  The base URL is a normal form of the endpoint. It names a
  scheme and does not end in a slash. Slashes behind the
  endpoint do not change it, and neither does putting it in
  place of the endpoint, whatever the port and the scheme
  for other endpoints. So requests are posted behind a single
  slash, and the client for the base URL is the same one.
-/
theorem baseUrl_normal_form
    (connection : Connection) :
    schemeMark <:+: connection.baseUrl.toList ∧
    connection.baseUrl.toList.getLast? ≠ some '/' ∧
    (∀ n,
      baseUrl
          { connection with
            endpoint :=
              connection.endpoint ++
                String.ofList (List.replicate n '/') } =
        connection.baseUrl) ∧
    (∀ port useTls,
      let pasted : Connection :=
        { connection with
          endpoint := connection.baseUrl, port, useTls }
      pasted.baseUrl = connection.baseUrl ∧
        Client.ofConnection pasted =
          Client.ofConnection connection) ∧
    ∀ {σ : Type} (transport : Transport (Session σ))
      (calls : List Call) (s : σ),
      ∀ request ∈
          ((((Client.ofConnection connection).executor
            transport.keeping Session.report).answerAll
              calls).run (s, [])).2.1.2,
        request.url.toList =
          connection.baseUrl.toList ++
            '/' :: ['k', 's', 'q', 'l'] := by
  refine
    ⟨schemeMark_infix_baseUrl connection,
      getLast?_baseUrl connection,
      baseUrl_append_slashes connection, ?_, ?_⟩
  · intro port useTls pasted
    have hSame : pasted.baseUrl = connection.baseUrl :=
      baseUrl_pasted connection port useTls
    refine ⟨hSame, ?_⟩
    unfold Client.ofConnection
    rw [hSame]
  · intro σ transport calls s request hRequest
    rw [Client.sent_answerAll, List.nil_append] at hRequest
    rcases List.mem_map.mp hRequest with ⟨call, _, rfl⟩
    exact String.toList_append

end Connection

end KsqlBatch
