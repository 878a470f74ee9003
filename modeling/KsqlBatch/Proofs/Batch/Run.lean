import KsqlBatch.Proofs.Batch.Plan

/-
  This file runs batches over machines and says what can be
  seen of a run: every planned call is served, or the run
  fails at its last call.

  Key definitions include:
    * `BatchRun`
    * `Machine.batchRun`
    * `BatchRun.Served`
    * `BatchRun.Failed`

  Key theorems include:
    * `Machine.batchRun_served_or_failed`
-/

------------------------------------------------------------
-- Runs
------------------------------------------------------------

namespace KsqlBatch

/-
  What comes of a run: its result, the state of the executor,
  and the calls and callbacks in order.
-/
structure BatchRun (σ : Type) where
  result : Except RunError BatchReport
  final : σ
  events : List Event

namespace BatchRun

variable {σ : Type}

/- The calls that the executor receives. -/
def calls
    (run : BatchRun σ) : List Call :=
  run.events.filterMap Event.call?

/- The events that hand results on. -/
def callbacks
    (run : BatchRun σ) : List Event :=
  run.events.filter Event.isCallback

end BatchRun

/-
  A disk with one directory, which holds scripts under their
  names. Some of them may not be readable.
-/
def FileSystem.ofScripts
    (directory : String)
    (scripts : List (String × Except FileFault String)) :
    FileSystem Id where
  readBytes path :=
    match scripts.find? fun (name, _) =>
        Path.join directory name = path with
    | some (_, script) => script.map String.toUTF8
    | none => .error .notFound
  isRegularFile path :=
    scripts.any fun (name, _) =>
      Path.join directory name = path
  listDirectory path :=
    if path = directory then
      .ok
        (scripts.map fun (name, _) =>
          { name, isDirectory := false })
    else .error (.directory .notFound)

/- Run a batch over a machine that is in a state. -/
def Machine.batchRun
    {σ : Type}
    (machine : Machine σ)
    (disk : FileSystem Id)
    (policy : ListingPolicy)
    (input : BatchInput)
    (s : σ) : BatchRun σ :=
  match ((Runner.traced machine.toExecutor disk policy).run
      input).run s with
  | (result, final, events) =>
      { result
        final
        events := events.filter Event.isOutward }

namespace Exchange

/- The calls among the events of exchanges. -/
theorem filterMap_call?_events
    (exchanges : List Exchange) :
    (exchanges.flatMap Exchange.events).filterMap
        Event.call? =
      exchanges.map Exchange.call := by
  induction exchanges with
  | nil => rfl
  | cons exchange exchanges ih =>
      rw [List.flatMap_cons, List.filterMap_append, ih]
      simp [events]

/- The callbacks among the events of exchanges. -/
theorem filter_isCallback_events
    (exchanges : List Exchange) :
    (exchanges.flatMap Exchange.events).filter
        Event.isCallback =
      exchanges.map Exchange.callback := by
  induction exchanges with
  | nil => rfl
  | cons exchange exchanges ih =>
      rw [List.flatMap_cons, List.filter_append, ih]
      simp [events]

end Exchange

end KsqlBatch

------------------------------------------------------------
-- Courses of Runs
------------------------------------------------------------

namespace KsqlBatch

namespace BatchRun

variable {σ : Type}

/- Every planned call is served, and then the run ends. -/
structure Served
    (machine : Machine σ)
    (plan : Plan (List FileReport))
    (policy : ListingPolicy)
    (s : σ)
    (run : BatchRun σ)
    (exchanges : List Exchange) : Prop where
  replies_eq :
    machine.replies (plan.batchCalls policy) s =
      exchanges.map .ok
  result_eq : run.result = plan.conclude policy exchanges
  final_eq :
    run.final =
      machine.stateAfter (plan.batchCalls policy) s
  events_eq :
    run.events = exchanges.flatMap Exchange.events

/-
  Some of the planned calls are served, the one behind them
  fails, and the others are never made.
-/
structure Failed
    (machine : Machine σ)
    (plan : Plan (List FileReport))
    (policy : ListingPolicy)
    (s : σ)
    (run : BatchRun σ)
    (exchanges : List Exchange)
    (call : Call)
    (unmade : List Call)
    (error : RunError) : Prop where
  plan_eq :
    plan.batchCalls policy =
      exchanges.map Exchange.call ++ call :: unmade
  replies_eq :
    machine.replies
        (exchanges.map Exchange.call ++ [call]) s =
      exchanges.map .ok ++ [.error error]
  result_eq : run.result = .error error
  final_eq :
    run.final =
      machine.stateAfter
        (exchanges.map Exchange.call ++ [call]) s
  events_eq :
    run.events =
      exchanges.flatMap Exchange.events ++ [call.event]

variable {machine : Machine σ}
variable {plan : Plan (List FileReport)}
variable {policy : ListingPolicy}
variable {s : σ}
variable {run : BatchRun σ}
variable {exchanges : List Exchange}
variable {call : Call}
variable {unmade : List Call}
variable {error : RunError}

/- The calls that are served are the planned ones. -/
theorem Served.map_call
    (hServed : run.Served machine plan policy s exchanges) :
    exchanges.map Exchange.call = plan.batchCalls policy :=
  Machine.calls_of_replies_eq_ok hServed.replies_eq

theorem Served.calls_eq
    (hServed : run.Served machine plan policy s exchanges) :
    run.calls = plan.batchCalls policy := by
  unfold calls
  rw [hServed.events_eq, Exchange.filterMap_call?_events,
    hServed.map_call]

theorem Served.callbacks_eq
    (hServed : run.Served machine plan policy s exchanges) :
    run.callbacks = exchanges.map Exchange.callback := by
  unfold callbacks
  rw [hServed.events_eq, Exchange.filter_isCallback_events]

theorem Failed.calls_eq
    (hFailed :
      run.Failed machine plan policy s exchanges call unmade
        error) :
    run.calls = exchanges.map Exchange.call ++ [call] := by
  unfold calls
  rw [hFailed.events_eq, List.filterMap_append,
    Exchange.filterMap_call?_events]
  simp

/- The call that fails is not handed on. -/
theorem Failed.callbacks_eq
    (hFailed :
      run.Failed machine plan policy s exchanges call unmade
        error) :
    run.callbacks = exchanges.map Exchange.callback := by
  unfold callbacks
  rw [hFailed.events_eq, List.filter_append,
    Exchange.filter_isCallback_events]
  simp

end BatchRun

namespace Machine

variable {σ : Type}

/- A run takes one of these two courses. -/
theorem batchRun_served_or_failed
    (machine : Machine σ)
    (disk : FileSystem Id)
    (policy : ListingPolicy)
    (input : BatchInput)
    (s : σ) :
    (∃ exchanges,
      (machine.batchRun disk policy input s).Served machine
        (planInput disk input) policy s exchanges) ∨
    (∃ exchanges call unmade error,
      (machine.batchRun disk policy input s).Failed machine
        (planInput disk input) policy s exchanges call
        unmade error) := by
  have hAppears :=
    Runner.run_appearsAs machine.toExecutor disk policy input
  unfold Session.AppearsAs at hAppears
  have hRun :
      machine.batchRun disk policy input s =
        match ((machine.dispatch
              ((planInput disk input).batchCalls policy) >>=
            fun exchanges =>
              ExceptT.mk
                (pure
                  ((planInput disk input).conclude policy
                    exchanges))).run).run s with
        | (result, final, events) =>
            { result, final, events } := by
    rw [← hAppears]
    rfl
  have hCourse :=
    machine.course_dispatch
      ((planInput disk input).batchCalls policy) s
  generalize hOutcome :
    (machine.dispatch
      ((planInput disk input).batchCalls policy)).run.run
        s = outcome at hCourse
  cases hCourse with
  | served exchanges hReplies =>
      rw [Attempt.run_bind_of_ok hOutcome] at hRun
      refine Or.inl ⟨exchanges, ?_⟩
      exact
        { replies_eq := hReplies
          result_eq := by rw [hRun]; rfl
          final_eq := by rw [hRun]; rfl
          events_eq := by
            rw [hRun]
            exact List.append_nil _ }
  | failed exchanges call unmade error hCalls hReplies =>
      rw [Attempt.run_bind_of_error hOutcome] at hRun
      refine Or.inr ⟨exchanges, call, unmade, error, ?_⟩
      exact
        { plan_eq := hCalls
          replies_eq := hReplies
          result_eq := by rw [hRun]
          final_eq := by rw [hRun]
          events_eq := by rw [hRun] }

variable {machine : Machine σ}
variable {disk : FileSystem Id}
variable {policy : ListingPolicy}
variable {input : BatchInput}
variable {s : σ}

/- A run is served if no call that it makes fails. -/
theorem batchRun_served
    (hSucceed :
      ∀ reply ∈
        machine.replies
          (machine.batchRun disk policy input s).calls s,
        reply.isOk) :
    ∃ exchanges,
      (machine.batchRun disk policy input s).Served machine
        (planInput disk input) policy s exchanges := by
  rcases machine.batchRun_served_or_failed disk policy input
    s with hServed | ⟨exchanges, call, unmade, error, hFailed⟩
  · exact hServed
  · rw [hFailed.calls_eq, hFailed.replies_eq] at hSucceed
    have hOk := hSucceed (.error error) (by simp)
    exact absurd hOk Bool.false_ne_true

/- A run fails at the call that fails. -/
theorem batchRun_failed
    {k : Nat}
    {error : RunError}
    (hError :
      (machine.replies
        (machine.batchRun disk policy input s).calls s)[k]? =
          some (.error error)) :
    ∃ exchanges call unmade,
      (machine.batchRun disk policy input s).Failed machine
        (planInput disk input) policy s exchanges call
        unmade error ∧
      exchanges.length = k := by
  rcases machine.batchRun_served_or_failed disk policy input
    s with ⟨exchanges, hServed⟩ |
      ⟨exchanges, call, unmade, found, hFailed⟩
  · rw [hServed.calls_eq, hServed.replies_eq,
      List.getElem?_map] at hError
    cases hExchange : exchanges[k]? <;>
      simp [hExchange] at hError
  · rw [hFailed.calls_eq, hFailed.replies_eq] at hError
    -- All replies in front of the last one are successes.
    have hLast :
        exchanges.length = k ∧ found = error := by
      rw [List.getElem?_append, List.length_map] at hError
      split at hError
      · cases hExchange : exchanges[k]? <;>
          simp [hExchange] at hError
      · rw [List.getElem?_singleton] at hError
        split at hError
        · refine ⟨by omega, ?_⟩
          simpa using hError
        · simp at hError
    rw [← hLast.2]
    exact ⟨exchanges, call, unmade, hFailed, hLast.1⟩

end Machine

end KsqlBatch
