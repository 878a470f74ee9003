import KsqlBatch.Proofs.Batch.Plan
import KsqlBatch.Proofs.Batch.Related
import KsqlBatch.Settings.Loader

/-
  This file shows that loading settings amounts to a value if
  the disk does not change, and what this value is.

  Key definitions include:
    * `MonadRelation.settled`

  Key theorems include:
    * `Loader.load_lift`
    * `Loader.run_load`
-/

------------------------------------------------------------
-- Settled Computations
------------------------------------------------------------

namespace KsqlBatch

/- A computation has no effect, and the value is known. -/
def MonadRelation.settled
    (m : Type → Type)
    [Monad m] [LawfulMonad m] : MonadRelation m Id where
  Holds computation value := computation = pure (Id.run value)
  holds_pure := by
    intro α a
    rfl
  holds_bind := by
    intro α β first value next later hFirst hNext
    rw [hFirst, pure_bind]
    exact hNext (Id.run value)

end KsqlBatch

------------------------------------------------------------
-- Settings on a Disk
------------------------------------------------------------

namespace KsqlBatch

variable (m : Type → Type)
variable [Monad m] [LawfulMonad m]
variable (disk : FileSystem Id)

open MonadRelation

namespace Loader

/- The file that a path means is found on the disk. -/
theorem settled_findFile?
    (path : String) :
    (settled m).Holds
      (findFile? disk.lift path)
      (findFile? disk path) := by
  have hRegular (path : String) :
      (settled m).Holds
        (disk.lift.isRegularFile path)
        (disk.isRegularFile path) := rfl
  have hOther (other : String) :
      (settled m).Holds
        (do
          if ← disk.lift.isRegularFile other then
            return some other
          else return none)
        (do
          if ← disk.isRegularFile other then
            return some other
          else return none) := by
    refine (settled m).holds_bind (hRegular other) ?_
    intro isRegular
    split <;> exact (settled m).holds_pure _
  unfold findFile?
  by_cases hPath : path = ""
  · simp only [hPath, ne_eq, not_true_eq_false, if_false]
    cases Path.withExtension? "" ".ini" with
    | none => exact (settled m).holds_pure _
    | some other => exact hOther other
  · simp only [hPath, ne_eq, not_false_eq_true, if_true]
    refine (settled m).holds_bind (hRegular path) ?_
    intro isRegular
    cases isRegular with
    | true => exact (settled m).holds_pure _
    | false =>
        cases Path.withExtension? path ".ini" with
        | none => exact (settled m).holds_pure _
        | some other => exact hOther other

/- The settings in a file are those on the disk. -/
theorem settled_ofFile
    (path : String) :
    (settled m).Holds
      (ofFile disk.lift path) (ofFile disk path) := by
  unfold ofFile
  refine (settled m).holds_bind
    (settled_findFile? m disk path) ?_
  intro found
  cases found with
  | none => exact (settled m).holds_pure _
  | some found =>
      refine (settled m).holds_bind
        (disk.readText_lift found) ?_
      intro answer
      split <;> exact (settled m).holds_pure _

variable (environment : List (String × String))

theorem settled_source
    (layer : Layer) :
    (settled m).Holds
      (source disk.lift environment layer)
      (source disk environment layer) := by
  cases layer with
  | properties text => exact (settled m).holds_pure _
  | file path => exact settled_ofFile m disk path
  | environment => exact (settled m).holds_pure _
  | override key value => exact (settled m).holds_pure _

theorem settled_sources
    (layers : List Layer) :
    (settled m).Holds
      (sources disk.lift environment layers)
      (sources disk environment layers) := by
  induction layers with
  | nil => exact (settled m).holds_pure _
  | cons layer layers ih =>
      unfold sources
      refine (settled m).holds_bind
        (settled_source m disk environment layer) ?_
      intro values
      cases values with
      | error fault => exact (settled m).holds_pure _
      | ok values =>
          refine (settled m).holds_bind ih ?_
          intro rest
          cases rest with
          | error fault => exact (settled m).holds_pure _
          | ok rest => exact (settled m).holds_pure _

/- The connection is the one that the disk describes. -/
theorem load_lift
    (layers : List Layer) :
    load (disk.lift : FileSystem m) environment layers =
      pure (Id.run (load disk environment layers)) := by
  show (settled m).Holds _ _
  unfold load
  cases overrides layers with
  | error fault => exact (settled m).holds_pure _
  | ok overrides =>
      refine (settled m).holds_bind
        (settled_sources m disk environment layers) ?_
      intro sources
      cases sources with
      | error fault => exact (settled m).holds_pure _
      | ok sources => exact (settled m).holds_pure _

end Loader

end KsqlBatch

------------------------------------------------------------
-- The Loaded Value
------------------------------------------------------------

namespace KsqlBatch

namespace Loader

variable (disk : FileSystem Id)
variable (environment : List (String × String))

/- The sources are read one after the other. -/
theorem run_sources_cons
    (layer : Layer)
    (layers : List Layer) :
    Id.run (sources disk environment (layer :: layers)) =
      match Id.run (source disk environment layer) with
      | .error fault => .error fault
      | .ok values =>
          (Id.run (sources disk environment layers)).map
            (values :: ·) := by
  rw [sources]
  cases hSource :
      Id.run (source disk environment layer) with
  | error fault =>
      simp only [Id.run_bind, hSource]
      rfl
  | ok values =>
      cases hSources :
          Id.run (sources disk environment layers) with
      | error fault =>
          simp only [Id.run_bind, hSource, hSources]
          rfl
      | ok sources =>
          simp only [Id.run_bind, hSource, hSources]
          rfl

/- The keys of overrides and the sources come first. -/
theorem run_load
    (layers : List Layer) :
    Id.run (load disk environment layers) =
      match overrides layers with
      | .error fault => (.error (.config fault), [])
      | .ok overrides =>
          match Id.run (sources disk environment layers) with
          | .error fault => (.error (.config fault), [])
          | .ok sources =>
              build (gather sources overrides) := by
  unfold load
  cases overrides layers with
  | error fault => rfl
  | ok overrides =>
      cases hSources :
          Id.run (sources disk environment layers) with
      | error fault =>
          simp only [Id.run_bind, hSources]
          rfl
      | ok sources =>
          simp only [Id.run_bind, hSources]
          rfl

end Loader

end KsqlBatch
