import KsqlBatch.Engine.Session

/-
  This file defines what an executor is asked and answers,
  and the view of a session that only leaves these exchanges
  to be seen.

  Key definitions include:
    * `Call`
    * `Exchange`
    * `Event.isOutward`
    * `Session.outward`
    * `Attempt`
    * `Session.AppearsAs`
-/

------------------------------------------------------------
-- Calls and Exchanges
------------------------------------------------------------

namespace KsqlBatch

/- What an executor may be asked. -/
inductive Call where
| execute (statement : Statement) (properties : PropertyMap)
| listStreams
deriving DecidableEq, Inhabited

namespace Call

/- The event that reports a call. -/
def event : Call → Event
| .execute statement properties =>
    .execute statement properties
| .listStreams => .listStreams

/- The call that executes a statement of a script. -/
def ofParsed
    (parsed : ParsedStatement) : Call :=
  .execute parsed.statement parsed.properties

/- The call executes a statement. -/
def isExecute : Call → Bool
| .execute _ _ => true
| .listStreams => false

end Call

/- A call that has succeeded, with its result. -/
inductive Exchange where
| executed
    (statement : Statement)
    (properties : PropertyMap)
    (result : ExecutionResult)
| listed (streams : List StreamInfo)

namespace Exchange

/- The call of an exchange. -/
def call : Exchange → Call
| .executed statement properties _ =>
    .execute statement properties
| .listed _ => .listStreams

/- The event that hands the result on. -/
def callback : Exchange → Event
| .executed statement _ result => .result statement result
| .listed streams => .streams streams

/- The call, and at once the result that is handed on. -/
def events
    (exchange : Exchange) : List Event :=
  [exchange.call.event, exchange.callback]

/- The streams that a call has listed. -/
def streams : Exchange → List StreamInfo
| .executed _ _ _ => []
| .listed found => found

end Exchange

namespace Event

/- The call that an event reports. -/
def call? : Event → Option Call
| .execute statement properties =>
    some (.execute statement properties)
| .listStreams => some .listStreams
| _ => none

/- The streams that an event hands on. -/
def streams? : Event → Option (List StreamInfo)
| .streams found => some found
| _ => none

/- The event hands a result on. -/
def isCallback : Event → Bool
| .result _ _ => true
| .streams _ => true
| _ => false

/-
  The event is a call or hands a result on. Log records and
  the notes of the preview are not.
-/
def isOutward : Event → Bool
| .log _ => false
| .preview _ _ => false
| _ => true

@[simp]
theorem call?_event
    (call : Call) :
    call.event.call? = some call := by
  cases call <;> rfl

@[simp]
theorem isCallback_event
    (call : Call) :
    call.event.isCallback = false := by
  cases call <;> rfl

@[simp]
theorem isOutward_event
    (call : Call) :
    call.event.isOutward = true := by
  cases call <;> rfl

@[simp]
theorem call?_callback
    (exchange : Exchange) :
    exchange.callback.call? = none := by
  cases exchange <;> rfl

@[simp]
theorem isCallback_callback
    (exchange : Exchange) :
    exchange.callback.isCallback = true := by
  cases exchange <;> rfl

/- All calls are outward. -/
theorem filterMap_call?_outward
    (events : List Event) :
    (events.filter isOutward).filterMap call? =
      events.filterMap call? := by
  rw [List.filterMap_filter]
  refine congrArg (fun f => events.filterMap f) ?_
  funext event
  cases event <;> rfl

end Event

end KsqlBatch

------------------------------------------------------------
-- The Outward View
------------------------------------------------------------

namespace KsqlBatch

namespace Session

variable {σ : Type}

instance : LawfulMonad (Session σ) :=
  LawfulMonad.mk' (Session σ)
    (by
      intro α session
      funext s
      simp [Functor.map, Session.bind, Session.pure])
    (by
      intro α β a next
      funext s
      simp [bind, pure, Session.bind, Session.pure])
    (by
      intro α β γ first second third
      funext s
      simp [bind, Session.bind, List.append_assoc])

@[simp]
theorem run_pure
    {α : Type}
    (a : α)
    (s : σ) :
    (pure a : Session σ α).run s = (a, s, []) :=
  rfl

@[simp]
theorem run_report
    (event : Event)
    (s : σ) :
    (report event).run s = ((), s, [event]) :=
  rfl

theorem run_bind
    {α β : Type}
    (first : Session σ α)
    (next : α → Session σ β)
    (s : σ) :
    (first >>= next).run s =
      (((next (first.run s).1).run (first.run s).2.1).1,
        ((next (first.run s).1).run (first.run s).2.1).2.1,
        (first.run s).2.2 ++
          ((next (first.run s).1).run
            (first.run s).2.1).2.2) :=
  rfl

@[simp]
theorem run_map
    {α β : Type}
    (f : α → β)
    (session : Session σ α)
    (s : σ) :
    (f <$> session).run s =
      (f (session.run s).1, (session.run s).2.1,
        (session.run s).2.2) := by
  rw [← bind_pure_comp, run_bind]
  simp

/- The session with its outward events alone. -/
def outward
    {α : Type}
    (session : Session σ α) : Session σ α :=
  fun s =>
    match session s with
    | (a, s, events) =>
        (a, s, events.filter Event.isOutward)

theorem run_outward
    {α : Type}
    (session : Session σ α)
    (s : σ) :
    session.outward.run s =
      ((session.run s).1, (session.run s).2.1,
        (session.run s).2.2.filter Event.isOutward) :=
  rfl

@[simp]
theorem outward_pure
    {α : Type}
    (a : α) :
    outward (pure a : Session σ α) = pure a := by
  funext s
  rfl

@[simp]
theorem outward_bind
    {α β : Type}
    (first : Session σ α)
    (next : α → Session σ β) :
    outward (first >>= next) =
      outward first >>= fun a => outward (next a) := by
  funext s
  simp [outward, bind, Session.bind, List.filter_append]

theorem outward_report_of_isOutward
    {event : Event}
    (hOutward : event.isOutward = true) :
    outward (report event : Session σ Unit) =
      report event := by
  funext s
  simp [outward, report, hOutward]

/- What is not outward leaves no trace. -/
theorem outward_report_of_not_isOutward
    {event : Event}
    (hInward : event.isOutward = false) :
    outward (report event : Session σ Unit) = pure () := by
  funext s
  simp [outward, report, hInward, pure, Session.pure]

end Session

end KsqlBatch

------------------------------------------------------------
-- Attempts
------------------------------------------------------------

namespace KsqlBatch

/- A computation over sessions that an error ends. -/
abbrev Attempt (σ α : Type) :=
  ExceptT RunError (Session σ) α

namespace Attempt

variable {σ α β : Type}
variable {first : Attempt σ α}
variable {next : α → Attempt σ β}
variable {s later : σ}
variable {events : List Event}

@[simp]
theorem mk_ok_bind
    (a : α) :
    (ExceptT.mk (pure (.ok a)) >>= next : Attempt σ β) =
      next a := by
  apply ExceptT.ext
  rw [ExceptT.run_bind, ExceptT.run_mk, pure_bind]

@[simp]
theorem mk_error_bind
    (error : RunError) :
    (ExceptT.mk (pure (.error error)) >>= next :
        Attempt σ β) =
      ExceptT.mk (pure (.error error)) := by
  apply ExceptT.ext
  rw [ExceptT.run_bind, ExceptT.run_mk, pure_bind]
  rfl

/- Behind a success it goes on. -/
theorem run_bind_of_ok
    {a : α}
    (hFirst : first.run.run s = (.ok a, later, events)) :
    (first >>= next).run.run s =
      (((next a).run.run later).1,
        ((next a).run.run later).2.1,
        events ++ ((next a).run.run later).2.2) := by
  rw [ExceptT.run_bind, Session.run_bind, hFirst]

/- Behind an error nothing happens any more. -/
theorem run_bind_of_error
    {error : RunError}
    (hFirst :
      first.run.run s = (.error error, later, events)) :
    (first >>= next).run.run s =
      (.error error, later, events) := by
  rw [ExceptT.run_bind, Session.run_bind, hFirst]
  simp

end Attempt

namespace Session

variable {σ : Type}

/- From outside, the session looks like an attempt. -/
def AppearsAs
    {α : Type}
    (session : Session σ (Except RunError α))
    (attempt : Attempt σ α) : Prop :=
  session.outward = attempt.run

namespace AppearsAs

variable {α β : Type}

theorem pure_ok
    (a : α) :
    AppearsAs (pure (.ok a)) (pure a : Attempt σ α) := by
  unfold AppearsAs
  exact outward_pure (Except.ok a)

theorem pure_except
    (answer : Except RunError α) :
    AppearsAs (pure answer)
      (ExceptT.mk (pure answer) : Attempt σ α) := by
  unfold AppearsAs
  exact outward_pure answer

/- Nothing is seen of what happens inwardly before. -/
theorem behind
    {first : Session σ Unit}
    {session : Session σ (Except RunError α)}
    {attempt : Attempt σ α}
    (hInward : first.outward = pure ())
    (hSession : session.AppearsAs attempt) :
    AppearsAs (first >>= fun _ => session) attempt := by
  unfold AppearsAs
  rw [outward_bind, hInward, pure_bind]
  exact hSession

/- An error ends the one as it ends the other. -/
theorem bind
    {first : Session σ (Except RunError α)}
    {next :
      Except RunError α → Session σ (Except RunError β)}
    {attempt : Attempt σ α}
    {rest : α → Attempt σ β}
    (hFirst : first.AppearsAs attempt)
    (hError :
      ∀ error, next (.error error) = pure (.error error))
    (hOk : ∀ a, (next (.ok a)).AppearsAs (rest a)) :
    AppearsAs (first >>= next) (attempt >>= rest) := by
  unfold AppearsAs
  rw [outward_bind, ExceptT.run_bind, hFirst]
  refine bind_congr ?_
  intro answer
  cases answer with
  | error error =>
      rw [hError error]
      exact outward_pure (Except.error error)
  | ok a => exact hOk a

end AppearsAs

end Session

end KsqlBatch
