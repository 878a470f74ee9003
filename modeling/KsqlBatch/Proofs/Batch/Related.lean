import KsqlBatch.Batch.Runner
import KsqlBatch.Engine.Session

/-
  This file compares runs of two runners. The runner does not
  look into what its executor and its files do, so whatever
  relates the parts of two runners relates their runs.

  Key definitions include:
    * `MonadRelation`
    * `Runner.Related`
    * `Session.seenAlike`

  The main result is `Runner.Related.run`.
-/

------------------------------------------------------------
-- Relations
------------------------------------------------------------

namespace KsqlBatch

/-
  A relation between computations of two kinds, with results
  of any type, that is kept if they follow one another.
-/
structure MonadRelation
    (m n : Type → Type)
    [Monad m] [Monad n] where
  Holds : {α : Type} → m α → n α → Prop
  holds_pure :
    ∀ {α : Type} (a : α),
      Holds (pure a : m α) (pure a : n α)
  holds_bind :
    ∀ {α β : Type} {first : m α} {other : n α}
      {next : α → m β} {later : α → n β},
      Holds first other →
      (∀ a, Holds (next a) (later a)) →
      Holds (first >>= next) (other >>= later)

/-
  Two sessions come to the same, and what is seen of their
  events is alike.
-/
def Session.seenAlike
    {γ : Type}
    (σ : Type)
    (see seen : Event → Option γ) :
    MonadRelation (Session σ) (Session σ) where
  Holds session other :=
    ∀ s,
      (session.run s).1 = (other.run s).1 ∧
      (session.run s).2.1 = (other.run s).2.1 ∧
      (session.run s).2.2.filterMap see =
        (other.run s).2.2.filterMap seen
  holds_pure := by
    intro α a s
    exact ⟨rfl, rfl, rfl⟩
  holds_bind := by
    intro α β first other next later hFirst hNext s
    rcases hFirst s with ⟨hResult, hState, hEvents⟩
    rcases
      hNext (other.run s).1 (other.run s).2.1 with
      ⟨hLastResult, hLastState, hLastEvents⟩
    have hRun :
        (first >>= next).run s =
          (((next (first.run s).1).run
              (first.run s).2.1).1,
            ((next (first.run s).1).run
              (first.run s).2.1).2.1,
            (first.run s).2.2 ++
              ((next (first.run s).1).run
                (first.run s).2.1).2.2) := rfl
    have hOther :
        (other >>= later).run s =
          (((later (other.run s).1).run
              (other.run s).2.1).1,
            ((later (other.run s).1).run
              (other.run s).2.1).2.1,
            (other.run s).2.2 ++
              ((later (other.run s).1).run
                (other.run s).2.1).2.2) := rfl
    rw [hRun, hOther, hResult, hState]
    refine ⟨hLastResult, hLastState, ?_⟩
    rw [List.filterMap_append, List.filterMap_append,
      hEvents, hLastEvents]

end KsqlBatch

------------------------------------------------------------
-- Runners
------------------------------------------------------------

namespace KsqlBatch

namespace Runner

variable {m n : Type → Type}
variable [Monad m] [Monad n]

/- What two runners are made of is related. -/
structure Related
    (relation : MonadRelation m n)
    (runner : Runner m)
    (other : Runner n) : Prop where
  execute :
    ∀ statement properties,
      relation.Holds
        (runner.executor.execute statement properties)
        (other.executor.execute statement properties)
  streams :
    relation.Holds
      runner.executor.listStreams
      other.executor.listStreams
  readBytes :
    ∀ path,
      relation.Holds
        (runner.files.readBytes path)
        (other.files.readBytes path)
  listDirectory :
    ∀ path,
      relation.Holds
        (runner.files.listDirectory path)
        (other.files.listDirectory path)
  report_log :
    ∀ record,
      relation.Holds
        (runner.report (.log record))
        (other.report (.log record))
  report_result :
    ∀ statement result,
      relation.Holds
        (runner.report (.result statement result))
        (other.report (.result statement result))
  report_streams :
    ∀ streams,
      relation.Holds
        (runner.report (.streams streams))
        (other.report (.streams streams))
  policy_eq : runner.policy = other.policy

namespace Related

variable {relation : MonadRelation m n}
variable {runner : Runner m}
variable {other : Runner n}

theorem reportAll
    (hRelated : Related relation runner other)
    (log : List LogRecord) :
    relation.Holds
      (runner.reportAll log) (other.reportAll log) := by
  induction log with
  | nil => exact relation.holds_pure ()
  | cons record log ih =>
      apply relation.holds_bind (hRelated.report_log record)
      intro _
      exact ih

theorem note
    (hRelated : Related relation runner other)
    (level : LogLevel)
    (message : String) :
    relation.Holds
      (runner.note level message)
      (other.note level message) :=
  hRelated.report_log _

theorem listStreams
    (hRelated : Related relation runner other) :
    relation.Holds
      runner.listStreams other.listStreams := by
  unfold Runner.listStreams
  apply relation.holds_bind hRelated.streams
  intro answer
  cases answer with
  | error error => exact relation.holds_pure _
  | ok streams =>
      apply relation.holds_bind (hRelated.note _ _)
      intro _
      apply relation.holds_bind
        (hRelated.report_streams streams)
      intro _
      exact relation.holds_pure _

/- The calls of the parser do not depend on the executor. -/
theorem runStatements
    (hRelated : Related relation runner other)
    (path : String)
    (parser : Parser)
    (executed fuel : Nat) :
    relation.Holds
      (runner.runStatements path parser executed fuel)
      (other.runStatements path parser executed fuel) := by
  induction fuel generalizing parser executed with
  | zero => exact relation.holds_pure _
  | succ fuel ih =>
      unfold Runner.runStatements
      rcases parser.next with ⟨found, reached, log⟩
      cases found with
      | none =>
          apply relation.holds_bind (hRelated.reportAll log)
          intro _
          exact relation.holds_pure _
      | some found =>
          cases found with
          | error incomplete =>
              apply relation.holds_bind
                (hRelated.reportAll log)
              intro _
              exact relation.holds_pure _
          | ok parsed =>
              apply relation.holds_bind
                (hRelated.reportAll log)
              intro _
              apply relation.holds_bind
                (hRelated.execute parsed.statement
                  parsed.properties)
              intro answer
              cases answer with
              | error error =>
                  apply relation.holds_bind
                    (hRelated.note _ _)
                  intro _
                  exact relation.holds_pure _
              | ok result =>
                  apply relation.holds_bind
                    (hRelated.report_result _ result)
                  intro _
                  exact ih reached (executed + 1)

theorem runBuffer
    (hRelated : Related relation runner other)
    (path content : String) :
    relation.Holds
      (runner.runBuffer path content)
      (other.runBuffer path content) := by
  unfold Runner.runBuffer
  apply relation.holds_bind
    (hRelated.runStatements path _ 0 _)
  intro answer
  rcases answer with error | ⟨executed, reached⟩
  · exact relation.holds_pure _
  · simp only
    split
    · apply relation.holds_bind (hRelated.note _ _)
      intro _
      exact relation.holds_pure _
    · exact relation.holds_pure _

theorem readScript
    (hRelated : Related relation runner other)
    (path : String) :
    relation.Holds
      (BatchInput.readScript runner.files path)
      (BatchInput.readScript other.files path) := by
  unfold BatchInput.readScript FileSystem.readText
  apply relation.holds_bind
  · apply relation.holds_bind (hRelated.readBytes path)
    intro bytes
    cases bytes with
    | error fault => exact relation.holds_pure _
    | ok bytes => exact relation.holds_pure _
  · intro text
    cases text with
    | error fault => exact relation.holds_pure _
    | ok text => exact relation.holds_pure _

theorem runFile
    (hRelated : Related relation runner other)
    (path : String) :
    relation.Holds
      (runner.runFile path) (other.runFile path) := by
  unfold Runner.runFile
  apply relation.holds_bind (hRelated.note _ _)
  intro _
  apply relation.holds_bind (hRelated.readScript path)
  intro answer
  cases answer with
  | error error => exact relation.holds_pure _
  | ok content => exact hRelated.runBuffer path content

theorem runFiles
    (hRelated : Related relation runner other)
    (paths : List String) :
    relation.Holds
      (runner.runFiles paths) (other.runFiles paths) := by
  induction paths with
  | nil => exact relation.holds_pure _
  | cons path paths ih =>
      unfold Runner.runFiles
      apply relation.holds_bind (hRelated.runFile path)
      intro answer
      cases answer with
      | error error => exact relation.holds_pure _
      | ok report =>
          apply relation.holds_bind ih
          intro later
          cases later with
          | error error => exact relation.holds_pure _
          | ok reports => exact relation.holds_pure _

theorem listIf
    (hRelated : Related relation runner other)
    (due : Bool) :
    relation.Holds
      (runner.listIf due) (other.listIf due) := by
  cases due with
  | false => exact relation.holds_pure _
  | true => exact hRelated.listStreams

theorem resolve
    (hRelated : Related relation runner other)
    (input : BatchInput) :
    relation.Holds
      (input.resolve runner.files)
      (input.resolve other.files) := by
  cases input with
  | file path => exact relation.holds_pure _
  | directory path =>
      apply relation.holds_bind (hRelated.listDirectory path)
      intro answer
      cases answer with
      | error fault => exact relation.holds_pure _
      | ok entries => exact relation.holds_pure _

theorem runInput
    (hRelated : Related relation runner other)
    (input : BatchInput) :
    relation.Holds
      (runner.runInput input) (other.runInput input) := by
  unfold Runner.runInput
  apply relation.holds_bind (hRelated.resolve input)
  intro answer
  cases answer with
  | error error => exact relation.holds_pure _
  | ok paths => exact hRelated.runFiles paths

/- Runs of related runners are related. -/
theorem run
    (hRelated : Related relation runner other)
    (input : BatchInput) :
    relation.Holds (runner.run input) (other.run input) := by
  unfold Runner.run
  rw [hRelated.policy_eq]
  apply relation.holds_bind (hRelated.listIf _)
  intro before
  cases before with
  | error error => exact relation.holds_pure _
  | ok streamsBefore =>
      apply relation.holds_bind (hRelated.runInput input)
      intro ran
      cases ran with
      | error error => exact relation.holds_pure _
      | ok files =>
          apply relation.holds_bind (hRelated.listIf _)
          intro after
          cases after with
          | error error => exact relation.holds_pure _
          | ok streamsAfter =>
              apply relation.holds_bind (hRelated.note _ _)
              intro _
              exact relation.holds_pure _

end Related

end Runner

end KsqlBatch
