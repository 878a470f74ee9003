import KsqlBatch.Proofs.Batch.Run

/-
  This file shows what a batch does whose calls succeed: it
  executes the statements of all files in order, each with
  its own properties, lists the streams where this is due,
  and reports exactly that.

  Key theorems include:
    * `planInput_of_read`
    * `batchRun_trace`
-/

------------------------------------------------------------
-- Scripts
------------------------------------------------------------

namespace KsqlBatch

/- The calls for a script execute statements. -/
theorem isExecute_of_mem_scriptCalls
    {content : String}
    {call : Call}
    (hCall : call ∈ scriptCalls content) :
    call.isExecute = true := by
  rcases List.mem_map.mp hCall with ⟨parsed, _, hParsed⟩
  rw [← hParsed]
  rfl

/- The report says why reading the script stopped. -/
theorem some_termination_scriptReport
    (path content : String) :
    some (scriptReport path content).termination =
      (parseStatements content).termination := by
  unfold scriptReport
  rw [termination_parseStatements]
  rfl

/- A script is clean if reading it stops at its end. -/
theorem isClean_scriptReport_iff
    (path content : String) :
    (scriptReport path content).isClean = true ↔
      (parseStatements content).termination =
        some .exhausted := by
  rw [← some_termination_scriptReport path content,
    Option.some.injEq]
  unfold FileReport.isClean
  cases (scriptReport path content).termination <;>
    simp [Termination.isClean]

/- As many statements are reported as scripts call for. -/
theorem statementsExecuted_scriptReports
    {paths contents : List String}
    (hLength : paths.length = contents.length)
    (streamsBefore streamsAfter : List StreamInfo) :
    BatchReport.statementsExecuted
        { files := List.zipWith scriptReport paths contents
          streamsBefore
          streamsAfter } =
      (contents.flatMap scriptCalls).length := by
  unfold BatchReport.statementsExecuted
  induction paths generalizing contents with
  | nil =>
      cases contents with
      | nil => rfl
      | cons content contents => simp at hLength
  | cons path paths ih =>
      cases contents with
      | nil => simp at hLength
      | cons content contents =>
          have hRest := ih (Nat.succ.inj hLength)
          rw [List.zipWith_cons_cons, List.foldr_cons, hRest,
            List.flatMap_cons, List.length_append]
          simp [scriptReport, scriptCalls]

/- A batch is clean if all of its scripts are. -/
theorem isClean_scriptReports_iff
    {paths contents : List String}
    (hLength : paths.length = contents.length)
    (streamsBefore streamsAfter : List StreamInfo) :
    BatchReport.isClean
        { files := List.zipWith scriptReport paths contents
          streamsBefore
          streamsAfter } = true ↔
      ∀ content ∈ contents,
        (parseStatements content).termination =
          some .exhausted := by
  unfold BatchReport.isClean
  induction paths generalizing contents with
  | nil =>
      cases contents with
      | nil => simp
      | cons content contents => simp at hLength
  | cons path paths ih =>
      cases contents with
      | nil => simp at hLength
      | cons content contents =>
          have hRest := ih (Nat.succ.inj hLength)
          rw [List.zipWith_cons_cons, List.all_cons,
            Bool.and_eq_true, hRest, isClean_scriptReport_iff,
            List.forall_mem_cons]

end KsqlBatch

------------------------------------------------------------
-- Listings
------------------------------------------------------------

namespace KsqlBatch

namespace Exchange

/- A listing that is due hands its streams on. -/
theorem filterMap_streams?_of_listingCalls
    {due : Bool}
    {exchanges : List Exchange}
    (hCalls : exchanges.map Exchange.call = listingCalls due) :
    (exchanges.flatMap Exchange.events).filterMap
        Event.streams? =
      if due then [exchanges.flatMap Exchange.streams]
      else [] := by
  cases due with
  | false =>
      have hEmpty : exchanges = [] :=
        List.map_eq_nil_iff.mp hCalls
      rw [hEmpty]
      rfl
  | true =>
      unfold listingCalls at hCalls
      rcases List.map_eq_singleton_iff.mp hCalls with
        ⟨exchange, hExchanges, hCall⟩
      rw [hExchanges]
      cases exchange with
      | executed statement properties result =>
          simp [call] at hCall
      | listed streams =>
          rw [List.flatMap_singleton, List.flatMap_singleton]
          rfl

/- A listing that is not due lists nothing. -/
theorem streams_of_listingCalls
    {due : Bool}
    {exchanges : List Exchange}
    (hCalls : exchanges.map Exchange.call = listingCalls due)
    (hDue : due = false) :
    exchanges.flatMap Exchange.streams = [] := by
  rw [hDue] at hCalls
  have hEmpty : exchanges = [] :=
    List.map_eq_nil_iff.mp hCalls
  rw [hEmpty]
  rfl

/- A statement that is executed hands no streams on. -/
theorem filterMap_streams?_of_isExecute
    {exchanges : List Exchange}
    (hCalls :
      ∀ call ∈ exchanges.map Exchange.call,
        call.isExecute = true) :
    (exchanges.flatMap Exchange.events).filterMap
      Event.streams? = [] := by
  induction exchanges with
  | nil => rfl
  | cons exchange exchanges ih =>
      rw [List.map_cons, List.forall_mem_cons] at hCalls
      rw [List.flatMap_cons, List.filterMap_append,
        ih hCalls.2]
      cases exchange with
      | executed statement properties result => rfl
      | listed streams => simp [call, Call.isExecute] at hCalls

/- The calls between the listings have to be left out. -/
theorem exists_listings
    {policy : ListingPolicy}
    {calls : List Call}
    {exchanges : List Exchange}
    (hCalls :
      exchanges.map Exchange.call =
        policy.callsBefore ++ calls ++ policy.callsAfter) :
    ∃ before between after,
      exchanges = before ++ between ++ after ∧
      before.map Exchange.call = policy.callsBefore ∧
      between.map Exchange.call = calls ∧
      after.map Exchange.call = policy.callsAfter ∧
      exchanges.take policy.callsBefore.length = before ∧
      exchanges.drop (policy.callsBefore ++ calls).length =
        after := by
  rcases List.map_eq_append_iff.mp hCalls with
    ⟨first, after, hExchanges, hFirst, hAfter⟩
  rcases List.map_eq_append_iff.mp hFirst with
    ⟨before, between, hSplit, hBefore, hBetween⟩
  rw [hSplit] at hExchanges
  refine
    ⟨before, between, after, hExchanges, hBefore, hBetween,
      hAfter, ?_, ?_⟩
  · rw [hExchanges, ← hBefore, List.length_map,
      List.append_assoc, List.take_left]
  · rw [hExchanges, ← hBefore, ← hBetween,
      ← List.map_append, List.length_map, List.drop_left]

end Exchange

/- Listings execute nothing. -/
theorem filter_isExecute_listingCalls
    (due : Bool) :
    (listingCalls due).filter Call.isExecute = [] := by
  cases due <;> rfl

end KsqlBatch

------------------------------------------------------------
-- Runs whose Calls Succeed
------------------------------------------------------------

namespace KsqlBatch

variable {disk : FileSystem Id}
variable {policy : ListingPolicy}
variable {input : BatchInput}
variable {paths contents : List String}

/- The plan for an input whose files are all read. -/
theorem planInput_of_read
    (hResolve : Id.run (input.resolve disk) = .ok paths)
    (hRead :
      paths.map (fun path => Id.run (disk.readText path)) =
        contents.map .ok) :
    planInput disk input =
      { calls := contents.flatMap scriptCalls
        ending :=
          .ok (List.zipWith scriptReport paths contents) } := by
  have hPlan := planFiles_append hRead []
  rw [List.append_nil] at hPlan
  rw [planInput_of_ok hResolve, hPlan]
  simp [planFiles, Except.map]

/-
  The run of a batch whose calls succeed. Each call is at
  once followed by its callback; the calls are those of the
  files in order, each read as if it were the only one,
  between the listings that are due.
-/
theorem batchRun_trace
    {σ : Type}
    (machine : Machine σ)
    (disk : FileSystem Id)
    (policy : ListingPolicy)
    (input : BatchInput)
    (s : σ)
    (paths contents : List String)
    (hResolve : Id.run (input.resolve disk) = .ok paths)
    (hRead :
      paths.map (fun path => Id.run (disk.readText path)) =
        contents.map .ok)
    (hSucceed :
      ∀ reply ∈
        machine.replies
          (machine.batchRun disk policy input s).calls s,
        reply.isOk) :
    let run := machine.batchRun disk policy input s
    ∃ (exchanges : List Exchange) (report : BatchReport),
      run.events = exchanges.flatMap Exchange.events ∧
      machine.replies run.calls s = exchanges.map .ok ∧
      run.calls =
        policy.callsBefore ++ contents.flatMap scriptCalls ++
          policy.callsAfter ∧
      run.final = machine.stateAfter run.calls s ∧
      run.result = .ok report ∧
      report.files.map
          (fun file =>
            (file.path, file.executed,
              some file.termination)) =
        (paths.zip contents).map
          (fun (path, content) =>
            (path, (parseStatements content).statements.length,
              (parseStatements content).termination)) ∧
      run.events.filterMap Event.streams? =
        (if policy.includesBefore then [report.streamsBefore]
          else []) ++
        (if policy.includesAfter then [report.streamsAfter]
          else []) ∧
      (policy.includesBefore = false →
        report.streamsBefore = []) ∧
      (policy.includesAfter = false →
        report.streamsAfter = []) ∧
      report.statementsExecuted =
        (run.calls.filter Call.isExecute).length ∧
      (report.isClean = true ↔
        ∀ content ∈ contents,
          (parseStatements content).termination =
            some .exhausted) := by
  intro run
  have hPlan := planInput_of_read hResolve hRead
  have hLength : paths.length = contents.length := by
    simpa using congrArg List.length hRead
  rcases Machine.batchRun_served hSucceed with
    ⟨exchanges, hServed⟩
  have hReplies := hServed.replies_eq
  have hFinal := hServed.final_eq
  have hResult := hServed.result_eq
  have hSplit := hServed.map_call
  rw [← hServed.calls_eq] at hReplies hFinal
  have hCalls :
      run.calls =
        policy.callsBefore ++ contents.flatMap scriptCalls ++
          policy.callsAfter := by
    rw [hServed.calls_eq, hPlan]
    rfl
  have hExecute :
      ∀ call ∈ contents.flatMap scriptCalls,
        call.isExecute = true := by
    intro call hCall
    rcases List.mem_flatMap.mp hCall with ⟨content, _, hScript⟩
    exact isExecute_of_mem_scriptCalls hScript
  rw [hPlan] at hResult hSplit
  simp only [Plan.conclude, Except.map] at hResult
  rcases Exchange.exists_listings hSplit with
    ⟨before, between, after, hExchanges, hBefore, hBetween,
      hAfter, hTake, hDrop⟩
  rw [hTake, hDrop] at hResult
  refine
    ⟨exchanges, _, hServed.events_eq, hReplies, hCalls,
      hFinal, hResult, ?_, ?_, ?_, ?_, ?_, ?_⟩
  · rw [List.map_zipWith, List.zip, List.map_zipWith]
    simp only [some_termination_scriptReport]
    rfl
  · rw [hServed.events_eq, hExchanges, List.flatMap_append,
      List.flatMap_append, List.filterMap_append,
      List.filterMap_append,
      Exchange.filterMap_streams?_of_listingCalls hBefore,
      Exchange.filterMap_streams?_of_listingCalls hAfter,
      Exchange.filterMap_streams?_of_isExecute
        (hBetween ▸ hExecute),
      List.append_nil]
  · exact Exchange.streams_of_listingCalls hBefore
  · exact Exchange.streams_of_listingCalls hAfter
  · rw [statementsExecuted_scriptReports hLength, hCalls,
      List.filter_append, List.filter_append]
    unfold ListingPolicy.callsBefore ListingPolicy.callsAfter
    rw [filter_isExecute_listingCalls,
      filter_isExecute_listingCalls, List.nil_append,
      List.append_nil, List.filter_eq_self.mpr hExecute]
  · exact isClean_scriptReports_iff hLength _ _

/-
  Two scripts of a directory are run in the order of their
  names, and the property of the first one does not reach the
  second one, which is not read to its end.
-/
theorem batchRun_of_two_scripts :
    let machine :=
      Scripted.machine
        { streams := []
          rejections := []
          failingListing := none }
    let disk :=
      FileSystem.ofScripts "scripts"
        [("b.ksql", .ok "SELECT 2;\nSELECT"),
          ("a.ksql", .ok "SET 'k' = 'v';\nSELECT 1;\n")]
    let run :=
      machine.batchRun disk .after (.directory "scripts") 0
    run.calls =
        [.execute
            { text := "SELECT 1;", startLine := 2, endLine := 2 }
            (PropertyMap.empty.insert "k" "v"),
          .execute
            { text := "SELECT 2;", startLine := 1, endLine := 1 }
            PropertyMap.empty,
          .listStreams] ∧
      ∃ report,
        run.result = .ok report ∧
        report.statementsExecuted = 2 ∧
        report.isClean = false := by
  intro machine disk run
  rcases batchRun_trace machine disk .after
    (.directory "scripts") 0
    ["scripts/a.ksql", "scripts/b.ksql"]
    ["SET 'k' = 'v';\nSELECT 1;\n", "SELECT 2;\nSELECT"]
    (by rfl) (by rfl) (by decide +kernel) with
    ⟨exchanges, report, _, _, hCalls, _, hResult, _, _, _, _,
      hExecuted, hClean⟩
  refine ⟨?_, report, hResult, ?_, ?_⟩
  · rw [hCalls]
    decide +kernel
  · rw [hExecuted, hCalls]
    decide +kernel
  · cases hFlag : report.isClean with
    | false => rfl
    | true =>
        exact absurd (hClean.mp hFlag) (by decide +kernel)

end KsqlBatch
