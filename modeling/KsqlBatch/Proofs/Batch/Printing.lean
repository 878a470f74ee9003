import KsqlBatch.CommandLine.Program
import KsqlBatch.Proofs.Batch.Related
import KsqlBatch.Proofs.Batch.Run

/-
  This file shows what a run prints: the results of the calls
  that succeed, in the order of the calls.

  Key definitions include:
    * `Exchange.display`
    * `Runner.plain`
    * `Machine.successes`

  Key theorems include:
    * `Machine.callbacks_batchRun`
    * `Machine.run_plain`
-/

------------------------------------------------------------
-- Lines of Events
------------------------------------------------------------

namespace KsqlBatch

/- The lines in which the result of a call is shown. -/
def Exchange.display : Exchange → List String
| .executed _ _ result => [result.display]
| .listed streams => streams.map StreamInfo.display

namespace Event

@[simp]
theorem lines_callback
    (exchange : Exchange) :
    exchange.callback.lines = exchange.display := by
  cases exchange <;> rfl

/- Only what is handed on is printed. -/
theorem lines_of_not_isCallback
    {event : Event}
    (hInner : event.isCallback = false) :
    event.lines = [] := by
  cases event with
  | result statement result => cases hInner
  | streams found => cases hInner
  | log record => rfl
  | execute statement properties => rfl
  | listStreams => rfl
  | preview statement properties => rfl

/- Events that print nothing may be left out. -/
theorem flatMap_lines_filter
    {p : Event → Bool}
    (hKept : ∀ event, event.isCallback = true → p event)
    (events : List Event) :
    (events.filter p).flatMap lines =
      events.flatMap lines := by
  induction events with
  | nil => rfl
  | cons event events ih =>
      rw [List.flatMap_cons, List.filter_cons]
      split
      · rw [List.flatMap_cons, ih]
      · rename_i hDropped
        have hInner : event.isCallback = false := by
          refine Bool.eq_false_iff.mpr ?_
          intro hCallback
          exact hDropped (hKept event hCallback)
        rw [lines_of_not_isCallback hInner, ih,
          List.nil_append]

/- What is handed on is seen from outside. -/
theorem isOutward_of_isCallback
    (event : Event)
    (hCallback : event.isCallback = true) :
    event.isOutward = true := by
  cases event with
  | result statement result => rfl
  | streams found => rfl
  | log record => cases hCallback
  | preview statement properties => cases hCallback
  | execute statement properties => rfl
  | listStreams => rfl

end Event

/- Nothing is printed that is not seen. -/
theorem Session.lines_outward
    {σ α : Type}
    (session : Session σ α)
    (s : σ) :
    (session.outward.run s).2.2.flatMap Event.lines =
      (session.run s).2.2.flatMap Event.lines :=
  Event.flatMap_lines_filter Event.isOutward_of_isCallback _

end KsqlBatch

------------------------------------------------------------
-- Runs without Reported Calls
------------------------------------------------------------

namespace KsqlBatch

namespace Runner

variable {σ : Type}
variable (executor : Executor (Session σ))
variable (disk : FileSystem Id)
variable (policy : ListingPolicy)

/- The runner over an executor whose calls go unreported. -/
def plain : Runner (Session σ) where
  executor
  files := disk.lift
  report := Session.report
  policy

/- Reported calls are all that tells two runners apart. -/
theorem related_plain :
    Related
      (Session.seenAlike σ
        (Option.guard Event.isCallback)
        (Option.guard Event.isCallback))
      (traced executor disk policy)
      (plain executor disk policy) where
  execute statement properties := by
    intro s
    exact ⟨rfl, rfl, rfl⟩
  streams := by
    intro s
    exact ⟨rfl, rfl, rfl⟩
  readBytes path := by
    intro s
    exact ⟨rfl, rfl, rfl⟩
  listDirectory path := by
    intro s
    exact ⟨rfl, rfl, rfl⟩
  report_log record := by
    intro s
    exact ⟨rfl, rfl, rfl⟩
  report_result statement result := by
    intro s
    exact ⟨rfl, rfl, rfl⟩
  report_streams streams := by
    intro s
    exact ⟨rfl, rfl, rfl⟩
  policy_eq := rfl

end Runner

namespace Machine

variable {σ : Type}
variable (machine : Machine σ)
variable (disk : FileSystem Id)
variable (policy : ListingPolicy)
variable (input : BatchInput)
variable (s : σ)

/- The calls that succeed, with their results. -/
def successes
    (calls : List Call)
    (s : σ) : List Exchange :=
  (machine.replies calls s).filterMap Except.toOption

/- Replies that are successes are all taken. -/
theorem filterMap_toOption_map_ok
    (exchanges : List Exchange) :
    (exchanges.map .ok :
        List (Except RunError Exchange)).filterMap
        Except.toOption = exchanges := by
  rw [List.filterMap_map]
  exact List.filterMap_some

/- The results of the calls that succeed are handed on. -/
theorem callbacks_batchRun :
    (machine.batchRun disk policy input s).callbacks =
      (machine.successes
        (machine.batchRun disk policy input s).calls
        s).map Exchange.callback := by
  unfold successes
  rcases machine.batchRun_served_or_failed disk policy input
    s with ⟨exchanges, hServed⟩ |
      ⟨exchanges, call, unmade, error, hFailed⟩
  · rw [hServed.callbacks_eq, hServed.calls_eq,
      hServed.replies_eq, filterMap_toOption_map_ok]
  · rw [hFailed.callbacks_eq, hFailed.calls_eq,
      hFailed.replies_eq, List.filterMap_append,
      filterMap_toOption_map_ok]
    simp [Except.toOption]

/-
  A run comes to the same if its calls are not reported, and
  it prints what is handed on.
-/
theorem run_plain :
    let run := machine.batchRun disk policy input s
    let plain :=
      ((Runner.plain machine.toExecutor disk policy).run
        input).run s
    plain.1 = run.result ∧
      plain.2.1 = run.final ∧
      plain.2.2.flatMap Event.lines =
        run.callbacks.flatMap Event.lines := by
  intro run plain
  rcases
    (Runner.related_plain machine.toExecutor disk
      policy).run input s with
    ⟨hResult, hFinal, hEvents⟩
  rw [List.filterMap_eq_filter] at hEvents
  refine ⟨hResult.symm, hFinal.symm, ?_⟩
  have hCallbacks :
      run.callbacks = plain.2.2.filter Event.isCallback := by
    rw [← hEvents]
    unfold run BatchRun.callbacks batchRun
    rw [List.filter_filter]
    refine List.filter_congr ?_
    intro event _
    cases event <;> rfl
  rw [hCallbacks]
  exact
    (Event.flatMap_lines_filter (fun _ hKept => hKept) _).symm

/- The results of the calls that succeed are printed. -/
theorem lines_run_plain :
    (((Runner.plain machine.toExecutor disk policy).run
        input).run s).2.2.flatMap Event.lines =
      (machine.successes
        (machine.batchRun disk policy input s).calls
        s).flatMap Exchange.display := by
  rw [(machine.run_plain disk policy input s).2.2,
    callbacks_batchRun, List.flatMap_map]
  simp only [Event.lines_callback]

end Machine

end KsqlBatch
