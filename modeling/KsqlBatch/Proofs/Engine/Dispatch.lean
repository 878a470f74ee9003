import KsqlBatch.Engine.Scripted
import KsqlBatch.Proofs.Engine.Exchange

/-
  This file gives calls to an executor one after the other
  and says what comes of it: either every call succeeds, or
  the first one that fails is the last.

  Key definitions include:
    * `Executor.answer`
    * `Executor.ask`
    * `Executor.dispatch`
    * `Machine`
    * `Machine.replies`
    * `Machine.Course`

  Key theorems include:
    * `Executor.appearsAs_ask_bind`
    * `Executor.dispatch_bind_congr`
    * `Machine.course_dispatch`
-/

------------------------------------------------------------
-- Dispatching Calls
------------------------------------------------------------

namespace KsqlBatch

namespace Executor

variable {σ : Type}

/- Give a call to an executor. -/
def answer
    (executor : Executor (Session σ)) :
    Call → Session σ (Except RunError Exchange)
| .execute statement properties => do
    let result ← executor.execute statement properties
    return result.map (.executed statement properties)
| .listStreams => do
    let streams ← executor.listStreams
    return streams.map .listed

theorem answer_execute
    (executor : Executor (Session σ))
    (statement : Statement)
    (properties : PropertyMap) :
    executor.answer (.execute statement properties) = (do
      let result ← executor.execute statement properties
      return result.map (.executed statement properties)) :=
  rfl

theorem answer_listStreams
    (executor : Executor (Session σ)) :
    executor.answer .listStreams = (do
      let streams ← executor.listStreams
      return streams.map .listed) :=
  rfl

/- A call is answered with an exchange of this call. -/
theorem exists_answer_eq
    (executor : Executor (Session σ))
    (call : Call) :
    ∃ (β : Type) (answer : Session σ (Except RunError β))
      (exchange : β → Exchange),
      executor.answer call = (do
          let result ← answer
          return result.map exchange) ∧
        ∀ b, (exchange b).call = call := by
  cases call with
  | execute statement properties =>
      exact
        ⟨_, _, _,
          executor.answer_execute statement properties,
          fun _ => rfl⟩
  | listStreams =>
      exact ⟨_, _, _, executor.answer_listStreams, fun _ => rfl⟩

/-
  Report a call, give it to the executor, and hand its result
  on. What the executor notes itself is left out.
-/
def ask
    (executor : Executor (Session σ))
    (call : Call) : Attempt σ Exchange :=
  ExceptT.mk do
    Session.report call.event
    match ← (executor.answer call).outward with
    | .error error => return .error error
    | .ok exchange =>
        Session.report exchange.callback
        return .ok exchange

/- What happens when more follows a call. -/
theorem run_ask_bind
    {α : Type}
    (executor : Executor (Session σ))
    (call : Call)
    (next : Exchange → Attempt σ α) :
    (executor.ask call >>= next).run = (do
      Session.report call.event
      match ← (executor.answer call).outward with
      | .error error => return .error error
      | .ok exchange =>
          Session.report exchange.callback
          (next exchange).run) := by
  simp only [ask, ExceptT.run_bind, ExceptT.run_mk,
    bind_assoc]
  refine bind_congr ?_
  intro _
  refine bind_congr ?_
  intro answer
  cases answer with
  | error error => rw [pure_bind]
  | ok exchange => simp only [bind_assoc, pure_bind]

/-
  A session looks like a call if it reports the call, gets
  the answer and hands a success on.
-/
theorem appearsAs_ask_bind
    {α β : Type}
    {executor : Executor (Session σ)}
    {call : Call}
    {answer : Session σ (Except RunError β)}
    {exchange : β → Exchange}
    {next :
      Except RunError β → Session σ (Except RunError α)}
    {rest : Exchange → Attempt σ α}
    (hAnswer :
      executor.answer call = do
        let result ← answer
        return result.map exchange)
    (hError :
      ∀ error,
        (next (.error error)).outward = pure (.error error))
    (hOk :
      ∀ b,
        (next (.ok b)).outward = (do
          Session.report (exchange b).callback
          (rest (exchange b)).run)) :
    Session.AppearsAs
      ((do
          Session.report call.event
          answer) >>= next)
      (executor.ask call >>= rest) := by
  unfold Session.AppearsAs
  rw [run_ask_bind, hAnswer]
  simp only [Session.outward_bind, Session.outward_pure,
    bind_assoc, pure_bind]
  rw [Session.outward_report_of_isOutward
    (Event.isOutward_event call)]
  refine bind_congr ?_
  intro _
  refine bind_congr ?_
  intro result
  cases result with
  | error error => exact hError error
  | ok b => exact hOk b

/- Give calls to an executor as long as they succeed. -/
def dispatch
    (executor : Executor (Session σ))
    (calls : List Call) : Attempt σ (List Exchange) :=
  calls.mapM executor.ask

variable {executor : Executor (Session σ)}

@[simp]
theorem dispatch_nil :
    executor.dispatch [] = pure [] :=
  List.mapM_nil

theorem dispatch_cons
    (call : Call)
    (calls : List Call) :
    executor.dispatch (call :: calls) = (do
      let exchange ← executor.ask call
      let exchanges ← executor.dispatch calls
      return exchange :: exchanges) :=
  List.mapM_cons

theorem dispatch_append
    (calls later : List Call) :
    executor.dispatch (calls ++ later) = (do
      let exchanges ← executor.dispatch calls
      let others ← executor.dispatch later
      return exchanges ++ others) :=
  List.mapM_append

/- What follows an answer may count on its call. -/
theorem answer_bind_congr
    {α : Type}
    {call : Call}
    {next other : Except RunError Exchange → Session σ α}
    (hError :
      ∀ error, next (.error error) = other (.error error))
    (hOk :
      ∀ exchange, exchange.call = call →
        next (.ok exchange) = other (.ok exchange)) :
    (executor.answer call).outward >>= next =
      (executor.answer call).outward >>= other := by
  rcases executor.exists_answer_eq call with
    ⟨β, answer, exchange, hAnswer, hCall⟩
  rw [hAnswer]
  simp only [Session.outward_bind, Session.outward_pure,
    bind_assoc, pure_bind]
  refine bind_congr ?_
  intro result
  cases result with
  | error error => exact hError error
  | ok b => exact hOk (exchange b) (hCall b)

/- A call succeeds with an exchange of this call. -/
theorem ask_bind_congr
    {α : Type}
    {call : Call}
    {next other : Exchange → Attempt σ α}
    (hNext :
      ∀ exchange, exchange.call = call →
        next exchange = other exchange) :
    executor.ask call >>= next =
      executor.ask call >>= other := by
  apply ExceptT.ext
  rw [run_ask_bind, run_ask_bind]
  refine bind_congr ?_
  intro _
  refine answer_bind_congr ?_ ?_
  · intro error
    rfl
  · intro exchange hCall
    simp only [hNext exchange hCall]

/- What calls answer are exchanges with these calls. -/
theorem dispatch_bind_congr
    {α : Type}
    {calls : List Call}
    {next other : List Exchange → Attempt σ α}
    (hNext :
      ∀ exchanges, exchanges.map Exchange.call = calls →
        next exchanges = other exchanges) :
    executor.dispatch calls >>= next =
      executor.dispatch calls >>= other := by
  induction calls generalizing next other with
  | nil =>
      simp only [dispatch_nil, pure_bind]
      exact hNext [] rfl
  | cons call calls ih =>
      simp only [dispatch_cons, bind_assoc, pure_bind]
      refine ask_bind_congr ?_
      intro exchange hCall
      refine ih ?_
      intro exchanges hCalls
      refine hNext (exchange :: exchanges) ?_
      rw [List.map_cons, hCall, hCalls]

end Executor

end KsqlBatch

------------------------------------------------------------
-- Machines
------------------------------------------------------------

namespace KsqlBatch

/-
  An executor with a state. Calls and the results that are
  handed on are not its to report: what it notes itself is
  not seen from outside.
-/
structure Machine (σ : Type) extends
    Executor (Session σ) where
  inward :
    ∀ call s,
      ∀ event ∈ ((toExecutor.answer call).run s).2.2,
        event.isOutward = false

namespace Machine

variable {σ : Type}

/- What a machine makes of a call in a state. -/
def reply
    (machine : Machine σ)
    (call : Call)
    (s : σ) : Except RunError Exchange × σ :=
  match (machine.answer call).run s with
  | (answer, s, _) => (answer, s)

/- The replies to calls, errors or not, one after another. -/
def replies
    (machine : Machine σ) :
    List Call → σ → List (Except RunError Exchange)
| [], _ => []
| call :: calls, s =>
    match machine.reply call s with
    | (answer, s) => answer :: machine.replies calls s

/- The state after calls. -/
def stateAfter
    (machine : Machine σ) :
    List Call → σ → σ
| [], s => s
| call :: calls, s =>
    machine.stateAfter calls (machine.reply call s).2

/- Replies are successes if each call is one in any state. -/
theorem isOk_of_mem_replies
    {machine : Machine σ}
    {calls : List Call}
    (hOk :
      ∀ call ∈ calls, ∀ s,
        (machine.reply call s).1.isOk = true)
    (s : σ) :
    ∀ reply ∈ machine.replies calls s,
      reply.isOk = true := by
  induction calls generalizing s with
  | nil =>
      intro reply hReply
      cases hReply
  | cons call calls ih =>
      rw [List.forall_mem_cons] at hOk
      rw [replies, List.forall_mem_cons]
      exact ⟨hOk.1 s, ih hOk.2 _⟩

/- What a machine notes itself is not seen. -/
theorem run_outward_answer
    (machine : Machine σ)
    (call : Call)
    (s : σ) :
    (machine.answer call).outward.run s =
      ((machine.reply call s).1, (machine.reply call s).2,
        []) := by
  have hFilter :
      ((machine.answer call).run s).2.2.filter
        Event.isOutward = [] := by
    rw [List.filter_eq_nil_iff]
    intro event hEvent
    rw [machine.inward call s event hEvent]
    exact Bool.false_ne_true
  rw [Session.run_outward, hFilter]
  rfl

/- A call that succeeds is seen with its result. -/
theorem run_ask_of_ok
    {machine : Machine σ}
    {call : Call}
    {s : σ}
    {exchange : Exchange}
    (hReply : (machine.reply call s).1 = .ok exchange) :
    (machine.ask call).run.run s =
      (.ok exchange, (machine.reply call s).2,
        [call.event, exchange.callback]) := by
  simp [Executor.ask, Session.run_bind, run_outward_answer,
    hReply]

/- A call that fails is seen alone. -/
theorem run_ask_of_error
    {machine : Machine σ}
    {call : Call}
    {s : σ}
    {error : RunError}
    (hReply : (machine.reply call s).1 = .error error) :
    (machine.ask call).run.run s =
      (.error error, (machine.reply call s).2,
        [call.event]) := by
  simp [Executor.ask, Session.run_bind, run_outward_answer,
    hReply]

/- A success is an exchange of the call. -/
theorem call_of_reply_eq_ok
    {machine : Machine σ}
    {call : Call}
    {s : σ}
    {exchange : Exchange}
    (hReply : (machine.reply call s).1 = .ok exchange) :
    exchange.call = call := by
  rcases machine.exists_answer_eq call with
    ⟨β, answer, found, hAnswer, hCall⟩
  simp only [reply, hAnswer, Session.run_bind,
    Session.run_pure] at hReply
  cases hResult : (answer.run s).1 with
  | error error => simp [hResult, Except.map] at hReply
  | ok b =>
      simp only [hResult, Except.map, Except.ok.injEq]
        at hReply
      rw [← hReply]
      exact hCall b

/- Successes are exchanges of the calls. -/
theorem calls_of_replies_eq_ok
    {machine : Machine σ}
    {calls : List Call}
    {s : σ}
    {exchanges : List Exchange}
    (hReplies :
      machine.replies calls s = exchanges.map .ok) :
    exchanges.map Exchange.call = calls := by
  induction calls generalizing s exchanges with
  | nil =>
      cases exchanges with
      | nil => rfl
      | cons exchange exchanges => simp [replies] at hReplies
  | cons call calls ih =>
      cases exchanges with
      | nil => simp [replies] at hReplies
      | cons exchange exchanges =>
          simp only [replies, List.map_cons,
            List.cons.injEq] at hReplies
          rw [List.map_cons, ih hReplies.2,
            call_of_reply_eq_ok hReplies.1]

/-
  What becomes of calls that are dispatched in a state: all
  of them succeed, or one fails behind those that succeed and
  in front of those that are never made.
-/
inductive Course
    (machine : Machine σ)
    (calls : List Call)
    (s : σ) :
    Except RunError (List Exchange) × σ × List Event → Prop
| served
    (exchanges : List Exchange)
    (hReplies :
      machine.replies calls s = exchanges.map .ok) :
    Course machine calls s
      (.ok exchanges, machine.stateAfter calls s,
        exchanges.flatMap Exchange.events)
| failed
    (exchanges : List Exchange)
    (call : Call)
    (unmade : List Call)
    (error : RunError)
    (hCalls :
      calls =
        exchanges.map Exchange.call ++ call :: unmade)
    (hReplies :
      machine.replies
          (exchanges.map Exchange.call ++ [call]) s =
        exchanges.map .ok ++ [.error error]) :
    Course machine calls s
      (.error error,
        machine.stateAfter
          (exchanges.map Exchange.call ++ [call]) s,
        exchanges.flatMap Exchange.events ++ [call.event])

/- Calls take one of these courses. -/
theorem course_dispatch
    (machine : Machine σ)
    (calls : List Call)
    (s : σ) :
    machine.Course calls s
      ((machine.dispatch calls).run.run s) := by
  -- The first call decides whether the others are made.
  induction calls generalizing s with
  | nil => exact Course.served [] rfl
  | cons call calls ih =>
      rw [Executor.dispatch_cons]
      cases hReply : (machine.reply call s).1 with
      | error error =>
          rw [Attempt.run_bind_of_error
            (run_ask_of_error hReply)]
          refine Course.failed [] call calls error rfl ?_
          simp [replies, hReply]
      | ok exchange =>
          have hCall : exchange.call = call :=
            call_of_reply_eq_ok hReply
          rw [Attempt.run_bind_of_ok (run_ask_of_ok hReply)]
          have hCourse := ih (machine.reply call s).2
          generalize hOutcome :
            (machine.dispatch calls).run.run
              (machine.reply call s).2 = outcome at hCourse
          cases hCourse with
          | served exchanges hReplies =>
              rw [Attempt.run_bind_of_ok hOutcome]
              have hAll :
                  machine.replies (call :: calls) s =
                    (exchange :: exchanges).map .ok := by
                simp [replies, hReply, hReplies]
              have hServed :=
                Course.served (exchange :: exchanges) hAll
              simpa [stateAfter, Exchange.events, hCall]
                using hServed
          | failed exchanges last unmade error hCalls
              hReplies =>
              rw [Attempt.run_bind_of_error hOutcome]
              have hAll :
                  machine.replies
                      ((exchange :: exchanges).map
                        Exchange.call ++ [last]) s =
                    (exchange :: exchanges).map .ok ++
                      [.error error] := by
                simp [replies, hCall, hReply, hReplies]
              have hSplit :
                  call :: calls =
                    (exchange :: exchanges).map
                      Exchange.call ++ last :: unmade := by
                rw [hCalls, List.map_cons, hCall]
                rfl
              have hFailed :=
                Course.failed (exchange :: exchanges) last
                  unmade error hSplit hAll
              simpa [stateAfter, Exchange.events, hCall]
                using hFailed

end Machine

end KsqlBatch

------------------------------------------------------------
-- Scripted Executors
------------------------------------------------------------

namespace KsqlBatch

/- An executor that answers as told before is a machine. -/
def Scripted.machine
    (script : Scripted) : Machine Nat where
  toExecutor := script.executor
  inward := by
    intro call s event hEvent
    cases call <;> cases hEvent

end KsqlBatch
