import KsqlBatch.Engine.Executor

/-
  This file defines computations that keep a state and note
  events in order.

  Key definitions include:
    * `Session`
    * `Session.report`
    * `Session.read`
    * `Session.write`
-/

------------------------------------------------------------
-- Sessions
------------------------------------------------------------

namespace KsqlBatch

/- A computation with a state that notes events. -/
def Session (σ α : Type) :=
  σ → α × σ × List Event

namespace Session

variable {σ : Type}

/- A result without any effect. -/
protected def pure
    {α : Type}
    (a : α) : Session σ α :=
  fun s => (a, s, [])

/- One computation after another. -/
protected def bind
    {α β : Type}
    (first : Session σ α)
    (next : α → Session σ β) : Session σ β :=
  fun s =>
    match first s with
    | (a, s, events) =>
        match next a s with
        | (b, s, later) => (b, s, events ++ later)

instance : Monad (Session σ) where
  pure := Session.pure
  bind := Session.bind

/- Note an event. -/
def report
    (event : Event) : Session σ Unit :=
  fun s => ((), s, [event])

/- The state. -/
def read : Session σ σ :=
  fun s => (s, s, [])

/- Change the state. -/
def write
    (s : σ) : Session σ Unit :=
  fun _ => ((), s, [])

/- Run a computation: its result, the state and the events. -/
def run
    {α : Type}
    (session : Session σ α)
    (s : σ) : α × σ × List Event :=
  session s

end Session

end KsqlBatch
