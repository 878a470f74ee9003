import KsqlBatch.Proofs.Batch.Run

/-
  This file shows that the first failure ends a run. Up to
  it the run is the same as one without this failure; behind
  it nothing is called and nothing is handed on.

  Key theorems include:
    * `BatchRun.Failed.exists_served_eq_append`
    * `BatchRun.Failed.eq_take`
    * `batchRun_calls_of_unresolved`
    * `batchRun_first_failure`
-/

------------------------------------------------------------
-- Failing Calls
------------------------------------------------------------

namespace KsqlBatch

namespace Exchange

/- Every exchange is two events. -/
theorem length_events
    (exchanges : List Exchange) :
    (exchanges.flatMap Exchange.events).length =
      2 * exchanges.length := by
  induction exchanges with
  | nil => rfl
  | cons exchange exchanges ih =>
      rw [List.flatMap_cons, List.length_append, ih,
        List.length_cons]
      simp only [events, List.length_cons, List.length_nil]
      omega

/- Exchanges that succeed are the same if their replies are. -/
theorem eq_of_map_ok_eq
    {exchanges others : List Exchange}
    (hReplies :
      (exchanges.map .ok : List (Except RunError Exchange)) =
        others.map .ok) :
    exchanges = others := by
  refine (List.map_inj_right ?_).mp hReplies
  intro first second hOk
  exact Except.ok.inj hOk

end Exchange

namespace BatchRun

variable {σ τ : Type}
variable {machine : Machine σ}
variable {healthy : Machine τ}
variable {plan : Plan (List FileReport)}
variable {policy : ListingPolicy}
variable {s : σ}
variable {t : τ}
variable {failing : BatchRun σ}
variable {whole : BatchRun τ}
variable {exchanges served : List Exchange}
variable {call : Call}
variable {unmade : List Call}
variable {error : RunError}

/-
  A run in which the same calls succeed, and all others too,
  goes on with the call that fails.
-/
theorem Failed.exists_served_eq_append
    (hFailed :
      failing.Failed machine plan policy s exchanges call
        unmade error)
    (hServed : whole.Served healthy plan policy t served)
    (hSame :
      (healthy.replies whole.calls t).take
          exchanges.length =
        (machine.replies failing.calls s).take
          exchanges.length) :
    ∃ answered later,
      served = exchanges ++ answered :: later ∧
      answered.call = call := by
  have hTake : served.take exchanges.length = exchanges := by
    rw [hServed.calls_eq, hServed.replies_eq,
      hFailed.calls_eq, hFailed.replies_eq,
      ← List.map_take] at hSame
    refine Exchange.eq_of_map_ok_eq ?_
    rw [hSame, List.take_left' (List.length_map _)]
  have hMap :
      served.map Exchange.call =
        exchanges.map Exchange.call ++ call :: unmade := by
    rw [hServed.map_call, hFailed.plan_eq]
  rcases List.map_eq_append_iff.mp hMap with
    ⟨first, rest, hSplit, hFirst, hRest⟩
  rcases List.map_eq_cons_iff.mp hRest with
    ⟨answered, later, hCons, hCall, _⟩
  refine ⟨answered, later, ?_, hCall⟩
  have hLength : first.length = exchanges.length := by
    have hLengths := congrArg List.length hFirst
    simpa using hLengths
  have hExchanges : first = exchanges := by
    rw [← hTake, hSplit, ← hLength, List.take_left]
  rw [hSplit, hCons, hExchanges]

/-
  Then the run that fails is the other one in front of the
  callback for the call that fails.
-/
theorem Failed.eq_take
    (hFailed :
      failing.Failed machine plan policy s exchanges call
        unmade error)
    (hServed : whole.Served healthy plan policy t served)
    (hSame :
      (healthy.replies whole.calls t).take
          exchanges.length =
        (machine.replies failing.calls s).take
          exchanges.length) :
    failing.calls =
        whole.calls.take (exchanges.length + 1) ∧
      failing.callbacks =
        whole.callbacks.take exchanges.length ∧
      failing.events =
        whole.events.take (2 * exchanges.length + 1) := by
  rcases hFailed.exists_served_eq_append hServed hSame with
    ⟨answered, later, hSplit, hCall⟩
  have hCalls :
      whole.calls =
        failing.calls ++ later.map Exchange.call := by
    rw [hServed.calls_eq, ← hServed.map_call, hSplit,
      hFailed.calls_eq, ← hCall]
    simp
  have hCallbacks :
      whole.callbacks =
        failing.callbacks ++
          (answered :: later).map Exchange.callback := by
    rw [hServed.callbacks_eq, hFailed.callbacks_eq, hSplit,
      List.map_append]
  have hEvents :
      whole.events =
        failing.events ++
          answered.callback ::
            later.flatMap Exchange.events := by
    rw [hServed.events_eq, hFailed.events_eq, hSplit, ← hCall]
    simp [Exchange.events]
  refine ⟨?_, ?_, ?_⟩
  · rw [hCalls]
    refine (List.take_left' ?_).symm
    rw [hFailed.calls_eq, List.length_append,
      List.length_map, List.length_singleton]
  · rw [hCallbacks]
    refine (List.take_left' ?_).symm
    rw [hFailed.callbacks_eq, List.length_map]
  · rw [hEvents]
    refine (List.take_left' ?_).symm
    rw [hFailed.events_eq, List.length_append,
      Exchange.length_events, List.length_singleton]

end BatchRun

end KsqlBatch

------------------------------------------------------------
-- Failing Inputs
------------------------------------------------------------

namespace KsqlBatch

variable {σ : Type}
variable {machine : Machine σ}
variable {disk : FileSystem Id}
variable {policy : ListingPolicy}
variable {input : BatchInput}
variable {s : σ}
variable {error : RunError}

/- An input that is not resolved leaves the listing alone. -/
theorem batchRun_calls_of_unresolved
    (hResolve : Id.run (input.resolve disk) = .error error) :
    (machine.batchRun disk policy input s).calls =
      policy.callsBefore := by
  have hPlan :
      (planInput disk input).batchCalls policy =
        policy.callsBefore := by
    rw [planInput_of_error hResolve]
    simp [Plan.batchCalls]
  rcases machine.batchRun_served_or_failed disk policy input
    s with ⟨exchanges, hServed⟩ |
      ⟨exchanges, call, unmade, found, hFailed⟩
  · rw [hServed.calls_eq, hPlan]
  · have hSplit := hFailed.plan_eq
    rw [hPlan] at hSplit
    -- At most one call was planned, and one was made.
    have hUnmade : unmade = [] := by
      have hLength := congrArg List.length hSplit
      have hAtMostOne := policy.length_callsBefore_le
      simp only [List.length_append, List.length_cons]
        at hLength
      refine List.eq_nil_of_length_eq_zero ?_
      omega
    rw [hFailed.calls_eq, hSplit, hUnmade]

/- A plan that fails ends a run whose calls succeed. -/
theorem batchRun_of_failing_plan
    (hEnding : (planInput disk input).ending = .error error)
    (hSucceed :
      ∀ reply ∈
        machine.replies
          (machine.batchRun disk policy input s).calls s,
        reply.isOk) :
    (machine.batchRun disk policy input s).calls =
        policy.callsBefore ++ (planInput disk input).calls ∧
      (machine.batchRun disk policy input s).result =
        .error error := by
  rcases Machine.batchRun_served hSucceed with
    ⟨exchanges, hServed⟩
  constructor
  · rw [hServed.calls_eq]
    unfold Plan.batchCalls
    rw [hEnding]
    exact List.append_nil _
  · rw [hServed.result_eq]
    unfold Plan.conclude
    rw [hEnding]
    rfl

end KsqlBatch

------------------------------------------------------------
-- The First Failure
------------------------------------------------------------

namespace KsqlBatch

/-
  What ends a run. If the call with some number is the first
  to fail, counting from zero, then it is the last one, it is
  not handed on, and up to it the run is that of any executor
  with the same answers before, whose calls all succeed. If
  the input is not resolved, at most the streams have been
  listed. If a file is not read, those before it have been
  run and nothing else.
-/
theorem batchRun_first_failure
    {σ τ : Type}
    (machine : Machine σ)
    (healthy : Machine τ)
    (disk : FileSystem Id)
    (policy : ListingPolicy)
    (input : BatchInput)
    (s : σ)
    (t : τ) :
    let run := machine.batchRun disk policy input s
    let whole := healthy.batchRun disk policy input t
    let replies := machine.replies run.calls s
    let others := healthy.replies whole.calls t
    (∀ k error,
      replies[k]? = some (.error error) →
      run.calls.length = k + 1 ∧
      run.callbacks.length = k ∧
      run.final = machine.stateAfter run.calls s ∧
      run.result = .error error ∧
      (others.take k = replies.take k →
        (∀ reply ∈ others, reply.isOk) →
        run.calls = whole.calls.take (k + 1) ∧
        run.callbacks = whole.callbacks.take k ∧
        run.events = whole.events.take (2 * k + 1))) ∧
    (∀ error,
      Id.run (input.resolve disk) = .error error →
      run.calls = policy.callsBefore ∧
      ((∀ reply ∈ replies, reply.isOk) →
        run.result = .error error)) ∧
    (∀ before path after (contents : List String) fault,
      Id.run (input.resolve disk) =
        .ok (before ++ path :: after) →
      before.map (fun path => Id.run (disk.readText path)) =
        contents.map .ok →
      Id.run (disk.readText path) = .error fault →
      (∀ reply ∈ replies, reply.isOk) →
      run.calls =
          policy.callsBefore ++ contents.flatMap scriptCalls ∧
        run.result = .error (.file path fault)) := by
  intro run whole replies others
  refine ⟨?_, ?_, ?_⟩
  -- A call of the executor fails.
  · intro k error hError
    rcases Machine.batchRun_failed hError with
      ⟨exchanges, call, unmade, hFailed, hLength⟩
    have hCalls := hFailed.calls_eq
    have hCallbacks := hFailed.callbacks_eq
    refine ⟨?_, ?_, ?_, hFailed.result_eq, ?_⟩
    · rw [hCalls, List.length_append, List.length_map, hLength]
      rfl
    · rw [hCallbacks, List.length_map, hLength]
    · rw [hFailed.final_eq, hCalls]
    · intro hSame hSucceed
      rcases Machine.batchRun_served hSucceed with
        ⟨served, hServed⟩
      rw [← hLength] at hSame ⊢
      exact hFailed.eq_take hServed hSame
  -- The input is not resolved.
  · intro error hResolve
    refine ⟨batchRun_calls_of_unresolved hResolve, ?_⟩
    intro hSucceed
    have hEnding :
        (planInput disk input).ending = .error error := by
      rw [planInput_of_error hResolve]
    exact (batchRun_of_failing_plan hEnding hSucceed).2
  -- A file behind others is not read.
  · intro before path after contents fault hResolve hBefore
      hFault hSucceed
    have hPlan :
        planInput disk input =
          { calls := contents.flatMap scriptCalls
            ending := .error (.file path fault) } := by
      rw [planInput_of_ok hResolve, planFiles_append hBefore,
        planFiles_cons_of_fault hFault]
      simp [Except.map]
    have hEnding :
        (planInput disk input).ending =
          .error (.file path fault) := by
      rw [hPlan]
    have hRun := batchRun_of_failing_plan hEnding hSucceed
    rw [hPlan] at hRun
    exact hRun

/-
  A statement that is rejected, a directory that is missing
  and a script that is no text, each as the first failure.
-/
theorem batchRun_of_three_failures :
    let healthy :=
      Scripted.machine
        { streams := []
          rejections := []
          failingListing := none }
    let rejecting :=
      Scripted.machine
        { streams := []
          rejections :=
            [{ text := "SELECT 2;"
               status := 400
               message := "unknown" }]
          failingListing := none }
    let disk :=
      FileSystem.ofScripts "scripts"
        [("a.ksql", .ok "SELECT 1;\nSELECT 2;\nSELECT 3;"),
          ("b.ksql", .error .notUtf8)]
    let run :=
      rejecting.batchRun disk .both (.directory "scripts") 0
    let whole :=
      healthy.batchRun disk .both (.directory "scripts") 0
    let unresolved :=
      healthy.batchRun disk .both (.directory "missing") 0
    (run.calls.length = 3 ∧
      run.callbacks.length = 2 ∧
      run.result =
        .error (.rejected "SELECT 2;" 400 "unknown") ∧
      run.calls = whole.calls.take 3 ∧
      run.events = whole.events.take 5) ∧
    (unresolved.calls = [.listStreams] ∧
      unresolved.result =
        .error (.file "missing" .notFound)) ∧
    (whole.calls =
        .listStreams ::
          scriptCalls "SELECT 1;\nSELECT 2;\nSELECT 3;" ∧
      whole.result =
        .error (.file "scripts/b.ksql" .notUtf8)) := by
  intro healthy rejecting disk run whole unresolved
  have hRejected :=
    (batchRun_first_failure rejecting healthy disk .both
      (.directory "scripts") 0 0).1 2
      (.rejected "SELECT 2;" 400 "unknown") (by rfl)
  have hMissing :=
    (batchRun_first_failure healthy healthy disk .both
      (.directory "missing") 0 0).2.1
      (.file "missing" .notFound) (by rfl)
  have hUnread :=
    (batchRun_first_failure healthy healthy disk .both
      (.directory "scripts") 0 0).2.2
      ["scripts/a.ksql"] "scripts/b.ksql" []
      ["SELECT 1;\nSELECT 2;\nSELECT 3;"] .notUtf8
      (by rfl) (by rfl) (by rfl) (by decide +kernel)
  rcases hRejected with
    ⟨hCalls, hCallbacks, _, hResult, hWhole⟩
  have hPrefix := hWhole (by rfl) (by decide +kernel)
  refine ⟨?_, ?_, ?_⟩
  · exact
      ⟨hCalls, hCallbacks, hResult, hPrefix.1, hPrefix.2.2⟩
  · exact ⟨hMissing.1, hMissing.2 (by decide +kernel)⟩
  · rw [List.flatMap_singleton] at hUnread
    exact hUnread

end KsqlBatch
