import KsqlBatch.Engine.Url

/-
  This file shows that a path may be put behind the URL of an
  engine: the result is the URL of the same host.

  Key theorems include:
    * `Url.exists_parse?_append`
    * `Url.isSome_parse?_append`
-/

------------------------------------------------------------
-- Paths Behind URLs
------------------------------------------------------------

namespace KsqlBatch

namespace Url

/- A start of a text is the start of longer texts. -/
theorem after?_append
    {start cs rest : List Char}
    (hAfter : after? start cs = some rest)
    (more : List Char) :
    after? start (cs ++ more) = some (rest ++ more) := by
  unfold after? at hAfter ⊢
  split at hAfter
  · rename_i hStart
    have hLength : start.length ≤ cs.length := by
      have hSame := congrArg List.length hStart
      rw [List.length_map, List.length_take] at hSame
      omega
    rw [List.take_append_of_le_length hLength,
      List.drop_append_of_le_length hLength, if_pos hStart,
      Option.some.inj hAfter]
  · cases hAfter

/- A text with one scheme does not have the other one. -/
theorem after?_http_of_after?_https
    {cs rest : List Char}
    (hSecure : after? "https:".toList cs = some rest) :
    after? "http:".toList cs = none := by
  unfold after? at hSecure ⊢
  split at hSecure
  · rename_i hStart
    have hShorter :
        (cs.take 5).map lowerLetter = "https".toList := by
      have hTake := congrArg (List.take 5) hStart
      rw [← List.map_take, List.take_take] at hTake
      exact hTake
    rw [if_neg]
    intro hPlain
    have hBoth : "https".toList = "http:".toList :=
      hShorter.symm.trans hPlain
    exact absurd hBoth (by decide)
  · cases hSecure

theorem scheme?_append
    {cs rest : List Char}
    {secure : Bool}
    (hScheme : scheme? cs = some (secure, rest))
    (more : List Char) :
    scheme? (cs ++ more) = some (secure, rest ++ more) := by
  unfold scheme? at hScheme ⊢
  cases hPlain : after? "http:".toList cs with
  | some found =>
      rw [hPlain] at hScheme
      cases hScheme
      rw [after?_append hPlain]
  | none =>
      rw [hPlain] at hScheme
      rcases Option.map_eq_some_iff.mp hScheme with
        ⟨found, hSecure, hFound⟩
      cases hFound
      have hLonger := after?_append hSecure more
      rw [after?_http_of_after?_https hLonger, hLonger]
      rfl

/- A path does not belong to the authority in front of it. -/
theorem takeWhile_append_slash
    (cs more : List Char) :
    (cs ++ '/' :: more).takeWhile (! endsAuthority ·) =
      cs.takeWhile (! endsAuthority ·) := by
  induction cs with
  | nil => rfl
  | cons c cs ih =>
      rw [List.cons_append, List.takeWhile_cons,
        List.takeWhile_cons, ih]

/- A path is not among the slashes before an authority. -/
theorem dropWhile_append_slash
    {behind : List Char}
    (hAuthority :
      isAuthority
          ((behind.dropWhile (· == '/')).takeWhile
            (! endsAuthority ·)) =
        true)
    (more : List Char) :
    (behind ++ '/' :: more).dropWhile (· == '/') =
      behind.dropWhile (· == '/') ++ '/' :: more := by
  have hSome : behind.dropWhile (· == '/') ≠ [] := by
    intro hNone
    rw [hNone] at hAuthority
    exact absurd hAuthority (by decide)
  rw [List.dropWhile_append, if_neg]
  rw [List.isEmpty_iff]
  exact hSome

/- A path behind a URL changes nothing but the target. -/
theorem exists_parse?_append
    {text path : String}
    {url : Url}
    (hParse : parse? text = some url)
    (hPath : path.toList.head? = some '/') :
    ∃ target,
      parse? (text ++ path) = some { url with target } := by
  rcases List.head?_eq_some_iff.mp hPath with ⟨more, hMore⟩
  unfold parse? at hParse ⊢
  rw [String.toList_append, hMore]
  rcases Option.bind_eq_some_iff.mp hParse with
    ⟨⟨secure, behind⟩, hScheme, hBehind⟩
  dsimp only at hBehind
  split at hBehind
  · rename_i hAuthority
    cases hBehind
    rw [scheme?_append hScheme]
    simp only [Option.bind_eq_bind, Option.bind_some,
      dropWhile_append_slash hAuthority,
      takeWhile_append_slash]
    rw [if_pos hAuthority]
    exact ⟨_, rfl⟩
  · cases hBehind

/- A valid URL stays valid with a path behind it. -/
theorem isSome_parse?_append
    {url path : String}
    (hValid : (parse? url).isSome = true)
    (hPath : path.toList.head? = some '/') :
    (parse? (url ++ path)).isSome = true := by
  rcases Option.isSome_iff_exists.mp hValid with
    ⟨found, hFound⟩
  rcases exists_parse?_append hFound hPath with
    ⟨target, hParse⟩
  rw [hParse]
  rfl

end Url

end KsqlBatch
