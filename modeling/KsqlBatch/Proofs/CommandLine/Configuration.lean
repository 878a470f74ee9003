import KsqlBatch.Proofs.CommandLine.Projection

/-
  This file says what the configuration of an invocation has
  to do with its outcome. A faulty one ends the program in
  front of everything else. A preview does not depend on it
  beyond that.

  Key definitions include:
    * `RunError.IsConfiguration`

  Key theorems include:
    * `Loader.isConfiguration_of_load`
    * `Program.complete_of_error`
    * `Program.complete_of_dryRun`

  The main result is `Program.complete_configuration`.
-/

------------------------------------------------------------
-- Faults
------------------------------------------------------------

namespace KsqlBatch

/- An error that says what is wrong with a configuration. -/
inductive RunError.IsConfiguration : RunError → Prop
| config
    (fault : ConfigFault) :
    IsConfiguration (.config fault)
| invalid
    (setting : InvalidSetting) :
    IsConfiguration (.invalidConfig setting)

namespace Loader

variable {error : RunError}

/- A connection is refused for a setting. -/
theorem isConfiguration_of_connect
    {settings : RawSettings}
    (hError : connect settings = .error error) :
    error.IsConfiguration := by
  unfold connect at hError
  dsimp only at hError
  split at hError
  · cases hError
    exact .invalid _
  · split at hError
    · cases hError
      exact .invalid _
    · cases hError

theorem isConfiguration_of_build
    {tree : Setting}
    (hError : (build tree).1 = .error error) :
    error.IsConfiguration := by
  unfold build at hError
  split at hError
  · cases hError
    exact .config _
  · dsimp only at hError
    exact isConfiguration_of_connect hError

/- Settings that cannot be loaded are at fault themselves. -/
theorem isConfiguration_of_load
    {disk : FileSystem Id}
    {environment : List (String × String)}
    {layers : List Layer}
    (hError :
      (Id.run (load disk environment layers)).1 =
        .error error) :
    error.IsConfiguration := by
  rw [run_load] at hError
  split at hError
  · cases hError
    exact .config _
  · split at hError
    · cases hError
      exact .config _
    · exact isConfiguration_of_build hError

end Loader

end KsqlBatch

------------------------------------------------------------
-- Outcomes
------------------------------------------------------------

namespace KsqlBatch

namespace Program

open Session

variable {disk : FileSystem Id}
variable {environment : List (String × String)}
variable {arguments : List String}
variable {invocation : Invocation}
variable {connection : Option Connection}
variable {error : RunError}

/- With a faulty configuration nothing is carried out. -/
theorem outward_run_of_error
    (hAccepted :
      Command.parse arguments = .ok (.run invocation))
    (hLoaded :
      loaded disk environment invocation = .error error) :
    (run (host disk environment) arguments).outward =
      pure (ending (.error error)) := by
  have hExecute :
      (execute (host disk environment) invocation).outward =
        pure (.error error) := by
    unfold execute
    rw [outward_bind, outward_configure, hLoaded, pure_bind]
    exact outward_pure _
  unfold run
  simp only [hAccepted]
  unfold conclude
  rw [outward_bind, hExecute, pure_bind]
  exact outward_pure _

/- A faulty configuration is all that is shown. -/
theorem complete_of_error
    (hAccepted :
      Command.parse arguments = .ok (.run invocation))
    (hLoaded :
      loaded disk environment invocation = .error error)
    (server : Server) :
    complete disk environment server arguments =
      { exitCode := 1
        output := ""
        errorOutput := "Error: " ++ error.message ++ "\n"
        final := server } := by
  rw [complete_eq_outward,
    outward_run_of_error hAccepted hLoaded]
  rfl

/-
  Once its configuration is loaded, a preview shows what
  becomes of its input, and nothing else matters.
-/
theorem complete_of_dryRun
    (hAccepted :
      Command.parse arguments = .ok (.run invocation))
    (hLoaded :
      loaded disk environment invocation = .ok connection)
    (hDry : invocation.dryRun = true)
    (server : Server) :
    let machine := Preview.machineOver Server
    let run :=
      machine.batchRun disk invocation.policy
        invocation.input server
    complete disk environment server arguments =
      { exitCode := (ending run.result).exitCode
        output :=
          printed
            ((machine.successes run.calls server).flatMap
              Exchange.display)
        errorOutput := (ending run.result).errorOutput
        final := run.final } :=
  complete_eq hAccepted hLoaded (if_pos hDry) server

/- Without a configuration nothing is loaded. -/
theorem loaded_of_config_eq_none
    (hConfig : invocation.config = none)
    (disk : FileSystem Id)
    (environment : List (String × String)) :
    loaded disk environment invocation = .ok none := by
  unfold loaded
  rw [hConfig]

end Program

end KsqlBatch

------------------------------------------------------------
-- Configurations
------------------------------------------------------------

namespace KsqlBatch

namespace Program

/-
  What a configuration does to an accepted invocation. If it
  cannot be loaded, its fault is all that comes of the
  invocation, whatever is asked for: nothing is printed and
  no request is sent. A preview without a configuration does
  not depend on the environment. A preview whose
  configuration is loaded comes out like the one without it.
-/
theorem complete_configuration
    (disk : FileSystem Id)
    (environment : List (String × String))
    (server : Server)
    {arguments : List String}
    {invocation : Invocation}
    (hAccepted :
      Command.parse arguments = .ok (.run invocation)) :
    let shown := complete disk environment server arguments
    (∀ path error,
      invocation.config = some path →
        (Id.run
          (Loader.load disk environment
            (layers path invocation.endpoint))).1 =
              .error error →
          error.IsConfiguration ∧
          shown.exitCode = 1 ∧
          shown.output = "" ∧
          shown.errorOutput =
            "Error: " ++ error.message ++ "\n" ∧
          shown.final = server) ∧
    (invocation.dryRun = true →
      invocation.config = none →
        ∀ others,
          complete disk others server arguments = shown) ∧
    ∀ path connection,
      invocation.dryRun = true →
        invocation.config = some path →
          (Id.run
            (Loader.load disk environment
              (layers path invocation.endpoint))).1 =
                .ok connection →
            Command.parse
                (Arguments.withoutConnection arguments) =
              .ok (.run invocation.withoutConnection) ∧
            ∀ others,
              Command.parse others =
                  .ok (.run invocation.withoutConnection) →
                complete disk environment server others =
                  shown := by
  intro shown
  refine ⟨?_, ?_, ?_⟩
  · intro path error hConfig hLoad
    have hLoaded :
        loaded disk environment invocation =
          .error error := by
      unfold loaded
      rw [hConfig]
      dsimp only
      rw [hLoad]
      rfl
    have hShown : shown = _ :=
      complete_of_error hAccepted hLoaded server
    rw [hShown]
    exact
      ⟨Loader.isConfiguration_of_load hLoad, rfl, rfl, rfl,
        rfl⟩
  · intro hDry hConfig others
    have hLoaded := loaded_of_config_eq_none hConfig disk
    exact
      (complete_of_dryRun hAccepted (hLoaded others) hDry
        server).trans
        (complete_of_dryRun hAccepted (hLoaded environment)
          hDry server).symm
  · intro path connection hDry hConfig hLoad
    have hLoaded :
        loaded disk environment invocation =
          .ok (some connection) := by
      unfold loaded
      rw [hConfig]
      dsimp only
      rw [hLoad]
      rfl
    refine
      ⟨Command.parse_withoutConnection hAccepted hDry, ?_⟩
    intro others hOthers
    have hNothing :
        loaded disk environment
            invocation.withoutConnection = .ok none :=
      loaded_of_config_eq_none rfl disk environment
    exact
      (complete_of_dryRun hOthers hNothing hDry server).trans
        (complete_of_dryRun hAccepted hLoaded hDry
          server).symm

/-
  A number that the environment spoils, next to an input that
  is missing; a preview that does not look at it; and a
  preview with a configuration.
-/
theorem complete_configuration_of_three_invocations :
    let disk :=
      FileSystem.ofScripts "scripts"
        [("ksql.ini", .ok "ksqldb.endpoint = localhost\n"),
          ("a.ksql", .ok "SELECT 1;\n")]
    let environment := [("KSQL_RUNNER__KSQLDB__PORT", "all")]
    let server :=
      Server.prepared [{ status := 200, body := "[]".toUTF8 }]
    let failing :=
      complete disk environment server
        ["-cscripts/ksql.ini", "--endpoint=e", "-d", "missing"]
    let preview := ["--dry-run", "-d", "scripts"]
    (failing.exitCode = 1 ∧
      failing.output = "" ∧
      failing.errorOutput =
        "Error: configuration error: invalid type: string " ++
          "\"all\", expected an integer for key " ++
          "`ksqldb.port` in the environment\n" ∧
      failing.final = server) ∧
    complete disk environment server preview =
      complete disk [] server preview ∧
    complete disk [] server
        ["-c", "scripts/ksql.ini", "--dry-run", "--endpoint",
          "e", "-d", "scripts"] =
      complete disk [] server preview := by
  intro disk environment server failing preview
  have hPreview :
      Command.parse ["--dry-run", "-d", "scripts"] =
        .ok
          (.run
            { config := none
              endpoint := none
              input := .directory "scripts"
              policy := .before
              dryRun := true }) := by
    decide +kernel
  refine ⟨?_, ?_, ?_⟩
  · have hFailing :
        Command.parse
            ["-cscripts/ksql.ini", "--endpoint=e", "-d",
              "missing"] =
          .ok
            (.run
              { config := some "scripts/ksql.ini"
                endpoint := some "e"
                input := .directory "missing"
                policy := .before
                dryRun := false }) := by
      decide +kernel
    rcases
      (complete_configuration disk environment server
        hFailing).1
        "scripts/ksql.ini"
        (.config
          (.conversion
            { found := .text "all"
              expected := "an integer"
              place := [.name "ksqldb", .name "port"]
              origin := some "the environment" }))
        rfl (by decide +kernel) with
      ⟨_, hCode, hOutput, hError, hFinal⟩
    exact
      ⟨hCode, hOutput, hError.trans (by decide +kernel),
        hFinal⟩
  · exact
      (complete_configuration disk [] server hPreview).2.1
        rfl rfl environment
  · have hConfigured :
        Command.parse
            ["-c", "scripts/ksql.ini", "--dry-run",
              "--endpoint", "e", "-d", "scripts"] =
          .ok
            (.run
              { config := some "scripts/ksql.ini"
                endpoint := some "e"
                input := .directory "scripts"
                policy := .before
                dryRun := true }) := by
      decide +kernel
    rcases
      (complete_configuration disk [] server hConfigured).2.2
        "scripts/ksql.ini"
        { endpoint := "e"
          port := 443
          useTls := true
          timeoutSecs := 30
          credentials := none }
        rfl rfl (by decide +kernel) with
      ⟨_, hSame⟩
    exact (hSame preview hPreview).symm

end Program

end KsqlBatch
