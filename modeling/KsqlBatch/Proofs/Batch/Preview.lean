import KsqlBatch.Engine.Preview
import KsqlBatch.Proofs.Batch.Related
import KsqlBatch.Proofs.Batch.Trace
import KsqlBatch.Proofs.Engine.Body
import KsqlBatch.Proofs.Engine.Client

/-
  This file compares the preview of a batch with the run that
  it previews: both report the same of the files, and the
  engine is sent just the statements that the preview notes,
  between the listings that are due.

  Key definitions include:
    * `PreviewRun`
    * `Preview.batchRun`
    * `Preview.machine`
    * `Preview.machineOver`

  Key theorems include:
    * `Preview.result_batchRun`
    * `Preview.executed_batchRun`
    * `Preview.final_batchRun`

  The main result is `batchRun_previewed`.
-/

------------------------------------------------------------
-- Previews
------------------------------------------------------------

namespace KsqlBatch

/- The statement that a call executes. -/
def Call.parsed? : Call → Option ParsedStatement
| .execute statement properties =>
    some { statement, properties }
| .listStreams => none

/- The statement that an event reports as executed. -/
def Event.executed?
    (event : Event) : Option ParsedStatement :=
  event.call?.bind Call.parsed?

/- What comes of a preview: its result, and what it notes. -/
structure PreviewRun where
  result : Except RunError BatchReport
  executed : List ParsedStatement

namespace Preview

/- The runner of a preview. -/
def runner
    (disk : FileSystem Id)
    (policy : ListingPolicy) : Runner (Session Unit) where
  executor := executor Session.report
  files := disk.lift
  report := Session.report
  policy

/- Preview a batch. -/
def batchRun
    (disk : FileSystem Id)
    (policy : ListingPolicy)
    (input : BatchInput) : PreviewRun :=
  match ((runner disk policy).run input).run () with
  | (result, _, events) =>
      { result
        executed := events.filterMap Event.preview? }

/- What the preview notes is not seen from outside. -/
theorem isOutward_of_mem_answer
    {σ : Type}
    {call : Call}
    {s : σ}
    {event : Event}
    (hEvent :
      event ∈
        (((executor Session.report).answer call).run
          s).2.2) :
    event.isOutward = false := by
  cases call with
  | execute statement properties =>
      rcases List.mem_cons.mp hEvent with rfl | hEvent
      · rfl
      · rcases List.mem_cons.mp hEvent with rfl | hEvent
        · rfl
        · cases hEvent
  | listStreams => cases hEvent

/- The preview is a machine without a state. -/
def machine : Machine Unit where
  toExecutor := executor Session.report
  inward := by
    intro call s event hEvent
    exact isOutward_of_mem_answer hEvent

variable (disk : FileSystem Id)
variable (policy : ListingPolicy)

/-
  What is reported as executed over the preview is what the
  preview notes.
-/
theorem related_traced :
    Runner.Related
      (Session.seenAlike Unit Event.executed? Event.preview?)
      (Runner.traced machine.toExecutor disk policy)
      (runner disk policy) where
  execute statement properties := by
    intro s
    exact ⟨rfl, rfl, rfl⟩
  streams := by
    intro s
    exact ⟨rfl, rfl, rfl⟩
  readBytes path := by
    intro s
    exact ⟨rfl, rfl, rfl⟩
  listDirectory path := by
    intro s
    exact ⟨rfl, rfl, rfl⟩
  report_log record := by
    intro s
    exact ⟨rfl, rfl, rfl⟩
  report_result statement result := by
    intro s
    exact ⟨rfl, rfl, rfl⟩
  report_streams streams := by
    intro s
    exact ⟨rfl, rfl, rfl⟩
  policy_eq := rfl

variable {disk : FileSystem Id}
variable {policy : ListingPolicy}
variable {input : BatchInput}

theorem result_batchRun :
    (batchRun disk policy input).result =
      (machine.batchRun disk policy input ()).result := by
  have hAlike := (related_traced disk policy).run input ()
  exact hAlike.1.symm

/- What is reported as executed is among the calls. -/
theorem filterMap_executed?
    (events : List Event) :
    events.filterMap Event.executed? =
      ((events.filter Event.isOutward).filterMap
        Event.call?).filterMap Call.parsed? := by
  rw [Event.filterMap_call?_outward, List.filterMap_filterMap]
  refine congrArg (fun f => events.filterMap f) ?_
  funext event
  cases event <;> rfl

theorem executed_batchRun :
    (batchRun disk policy input).executed =
      (machine.batchRun disk policy input ()).calls.filterMap
        Call.parsed? := by
  have hAlike := (related_traced disk policy).run input ()
  rw [filterMap_executed?] at hAlike
  exact hAlike.2.2.symm

/- No call of a preview fails. -/
theorem isOk_of_mem_replies
    (calls : List Call) :
    ∀ reply ∈ machine.replies calls (), reply.isOk = true := by
  apply Machine.isOk_of_mem_replies
  intro call _ s
  cases call with
  | execute statement properties => rfl
  | listStreams => rfl

end Preview

end KsqlBatch

------------------------------------------------------------
-- Previews beside a State
------------------------------------------------------------

namespace KsqlBatch

namespace Preview

/- The preview beside a state, which it leaves alone. -/
def machineOver
    (σ : Type) : Machine σ where
  toExecutor := executor Session.report
  inward := by
    intro call s event hEvent
    exact isOutward_of_mem_answer hEvent

/- What the preview answers to a call. -/
def exchange : Call → Exchange
| .execute statement properties =>
    .executed statement properties result
| .listStreams => .listed []

variable {σ : Type}

/- The preview answers every call and changes nothing. -/
theorem reply_machineOver
    (call : Call)
    (s : σ) :
    (machineOver σ).reply call s = (.ok (exchange call), s) := by
  cases call <;> rfl

theorem replies_machineOver
    (calls : List Call)
    (s : σ) :
    (machineOver σ).replies calls s =
      (calls.map exchange).map .ok := by
  induction calls with
  | nil => rfl
  | cons call calls ih =>
      rw [Machine.replies, reply_machineOver]
      simp only [ih, List.map_cons]

theorem stateAfter_machineOver
    (calls : List Call)
    (s : σ) :
    (machineOver σ).stateAfter calls s = s := by
  induction calls with
  | nil => rfl
  | cons call calls ih =>
      rw [Machine.stateAfter, reply_machineOver]
      exact ih

/- A preview changes nothing. -/
theorem final_batchRun
    (disk : FileSystem Id)
    (policy : ListingPolicy)
    (input : BatchInput)
    (s : σ) :
    ((machineOver σ).batchRun disk policy input s).final =
      s := by
  rcases (machineOver σ).batchRun_served_or_failed disk
    policy input s with ⟨exchanges, hServed⟩ |
      ⟨exchanges, call, unmade, error, hFailed⟩
  · rw [hServed.final_eq, stateAfter_machineOver]
  · rw [hFailed.final_eq, stateAfter_machineOver]

end Preview

end KsqlBatch

------------------------------------------------------------
-- Statements of Calls
------------------------------------------------------------

namespace KsqlBatch

/- The calls for scripts execute their statements. -/
theorem filterMap_parsed?_scriptCalls
    (contents : List String) :
    (contents.flatMap scriptCalls).filterMap Call.parsed? =
      contents.flatMap fun content =>
        (parseStatements content).statements := by
  induction contents with
  | nil => rfl
  | cons content contents ih =>
      have hHere :
          (scriptCalls content).filterMap Call.parsed? =
            (parseStatements content).statements := by
        unfold scriptCalls
        rw [List.filterMap_map]
        exact List.filterMap_some
      rw [List.flatMap_cons, List.filterMap_append, hHere,
        ih, List.flatMap_cons]

/- Listings execute nothing. -/
theorem filterMap_parsed?_listingCalls
    (due : Bool) :
    (listingCalls due).filterMap Call.parsed? = [] := by
  cases due <;> rfl

/- A batch executes the statements of its scripts. -/
theorem filterMap_parsed?_batchCalls
    {plan : Plan (List FileReport)}
    {contents : List String}
    (hCalls : plan.calls = contents.flatMap scriptCalls)
    (policy : ListingPolicy) :
    (plan.batchCalls policy).filterMap Call.parsed? =
      contents.flatMap fun content =>
        (parseStatements content).statements := by
  have hBefore :
      policy.callsBefore.filterMap Call.parsed? = [] :=
    filterMap_parsed?_listingCalls _
  have hAfter :
      policy.callsAfter.filterMap Call.parsed? = [] :=
    filterMap_parsed?_listingCalls _
  unfold Plan.batchCalls
  rw [List.filterMap_append, List.filterMap_append, hBefore,
    hCalls, filterMap_parsed?_scriptCalls, List.nil_append]
  cases plan.ending with
  | error error => exact List.append_nil _
  | ok files =>
      simp only [hAfter]
      exact List.append_nil _

namespace Client

variable (client : Client)

/- A request is read back as what the call submits. -/
theorem decode?_callRequest
    (call : Call) :
    Request.decode? (client.callRequest call).body =
      some (callText call, callProperties call) :=
  Request.decode?_body client.baseUrl client.credentials
    (callText call) (callProperties call)

/- The requests of listings submit the listing statement. -/
theorem map_decode?_listingCalls
    (due : Bool) :
    ((listingCalls due).map client.callRequest).map
        (fun request => Request.decode? request.body) =
      if due then
        [some (listingStatement, PropertyMap.empty)]
      else [] := by
  cases due with
  | false => rfl
  | true =>
      exact
        congrArg (fun found => [found])
          (client.decode?_callRequest .listStreams)

/- The requests for scripts submit their statements. -/
theorem map_decode?_scriptCalls
    (contents : List String) :
    ((contents.flatMap scriptCalls).map
        client.callRequest).map
        (fun request => Request.decode? request.body) =
      (contents.flatMap fun content =>
        (parseStatements content).statements).map
        fun parsed =>
          some (parsed.statement.text, parsed.properties) := by
  rw [List.map_map, List.map_flatMap, List.map_flatMap]
  refine congrArg (fun f => contents.flatMap f) ?_
  funext content
  unfold scriptCalls
  rw [List.map_map]
  apply List.map_congr_left
  intro parsed _
  exact client.decode?_callRequest (Call.ofParsed parsed)

end Client

end KsqlBatch

------------------------------------------------------------
-- Previews and Runs
------------------------------------------------------------

namespace KsqlBatch

/-
  A preview shows what a run does whose responses are good:
  it reports the same of the files, and the requests that the
  engine receives between the listings submit the statements
  that the preview notes, with their properties, in order.
-/
theorem batchRun_previewed
    (connection : Connection)
    (disk : FileSystem Id)
    (policy : ListingPolicy)
    (input : BatchInput)
    (responses : List Response)
    (paths contents : List String)
    (hUrl :
      (Url.parse? connection.baseUrl).isSome = true)
    (hResolve : Id.run (input.resolve disk) = .ok paths)
    (hRead :
      paths.map (fun path => Id.run (disk.readText path)) =
        contents.map .ok)
    (hEnough :
      ((Client.ofConnection connection).machine.batchRun
        disk policy input
        (Server.prepared responses)).calls.length ≤
      responses.length)
    (hMet :
      ∀ pair ∈
          ((Client.ofConnection connection).machine.batchRun
            disk policy input
            (Server.prepared responses)).calls.zip responses,
        pair.1.IsMetBy (Server.delivered pair.2)) :
    let run :=
      (Client.ofConnection connection).machine.batchRun
        disk policy input (Server.prepared responses)
    let preview := Preview.batchRun disk policy input
    (∃ report previewed,
      run.result = .ok report ∧
      preview.result = .ok previewed ∧
      report.files = previewed.files) ∧
    (∃ before posts after,
      run.final.received = before ++ posts ++ after ∧
      before.map
          (fun request => Request.decode? request.body) =
        (if policy.includesBefore then
          [some (Client.listingStatement, PropertyMap.empty)]
        else []) ∧
      posts.map
          (fun request => Request.decode? request.body) =
        preview.executed.map
          (fun parsed =>
            some
              (parsed.statement.text, parsed.properties)) ∧
      after.map
          (fun request => Request.decode? request.body) =
        (if policy.includesAfter then
          [some (Client.listingStatement, PropertyMap.empty)]
        else [])) ∧
    ∀ request ∈ run.final.received,
      request.url = connection.baseUrl ++ "/ksql" := by
  intro run preview
  have hPlan := planInput_of_read hResolve hRead
  have hUsable :
      (Client.ofConnection connection).IsUsable :=
    Client.isUsable_of_isSome_parse? hUrl
  have hSucceed :
      ∀ reply ∈
        (Client.ofConnection connection).machine.replies
          run.calls (Server.prepared responses),
        reply.isOk = true :=
    Client.isOk_of_mem_replies hUsable rfl rfl hEnough hMet
  rcases Machine.batchRun_served hSucceed with
    ⟨exchanges, hServed⟩
  rcases
    Machine.batchRun_served
      (Preview.isOk_of_mem_replies
        (Preview.machine.batchRun disk policy input
          ()).calls) with
    ⟨previews, hPreviewed⟩
  have hResult := hServed.result_eq
  have hFinal := hServed.final_eq
  have hPreviewResult := hPreviewed.result_eq
  have hPreviewCalls := hPreviewed.calls_eq
  rw [hPlan] at hResult hFinal
  rw [hPlan] at hPreviewResult hPreviewCalls
  have hReceived :
      run.final.received =
        (policy.callsBefore ++ contents.flatMap scriptCalls ++
          policy.callsAfter).map
          (Client.ofConnection connection).callRequest := by
    rw [hFinal]
    exact Client.received_stateAfter hUsable rfl _
  have hExecuted :
      preview.executed =
        contents.flatMap fun content =>
          (parseStatements content).statements := by
    unfold preview
    rw [Preview.executed_batchRun, hPreviewCalls]
    unfold Plan.batchCalls ListingPolicy.callsBefore
      ListingPolicy.callsAfter
    rw [List.filterMap_append, List.filterMap_append,
      filterMap_parsed?_listingCalls,
      filterMap_parsed?_listingCalls,
      filterMap_parsed?_scriptCalls, List.nil_append,
      List.append_nil]
  refine ⟨?_, ?_, ?_⟩
  · have hSame :=
      Preview.result_batchRun.trans hPreviewResult
    exact ⟨_, _, hResult, hSame, rfl⟩
  · rw [List.map_append, List.map_append] at hReceived
    refine ⟨_, _, _, hReceived, ?_, ?_, ?_⟩
    · exact Client.map_decode?_listingCalls _ _
    · rw [hExecuted]
      exact Client.map_decode?_scriptCalls _ _
    · exact Client.map_decode?_listingCalls _ _
  · intro request hRequest
    rw [hReceived] at hRequest
    rcases List.mem_map.mp hRequest with ⟨call, _, rfl⟩
    rfl

/-
  The engine is sent what the preview of two scripts notes,
  in the order of their names, between two listings.
-/
theorem batchRun_previewed_of_two_scripts :
    let connection : Connection :=
      { endpoint := "localhost"
        port := 8088
        useTls := false
        timeoutSecs := 30
        credentials := none }
    let disk :=
      FileSystem.ofScripts "scripts"
        [("b.ksql", .ok "SELECT 2;\nSELECT"),
          ("a.ksql", .ok "SET 'k' = '\"';\nSELECT\n1;\n")]
    let listing : Response :=
      { status := 200
        body :=
          ("[\x7b\"@type\":\"streams\"," ++
            "\"streams\":[]\x7d]").toUTF8 }
    let run :=
      (Client.ofConnection connection).machine.batchRun disk
        .both (.directory "scripts")
        (Server.prepared (List.replicate 4 listing))
    run.final.received.map
        (fun request => Request.decode? request.body) =
      [some ("LIST STREAMS;", PropertyMap.empty),
        some
          ("SELECT\n1;", PropertyMap.empty.insert "k" "\""),
        some ("SELECT 2;", PropertyMap.empty),
        some ("LIST STREAMS;", PropertyMap.empty)] := by
  intro connection disk listing run
  rcases
    batchRun_previewed connection disk .both
      (.directory "scripts") (List.replicate 4 listing)
      ["scripts/a.ksql", "scripts/b.ksql"]
      ["SET 'k' = '\"';\nSELECT\n1;\n", "SELECT 2;\nSELECT"]
      (by decide +kernel) (by rfl) (by rfl)
      (by decide +kernel) (by decide +kernel) with
    ⟨_, ⟨before, posts, after, hReceived, hBefore, hPosts,
      hAfter⟩, _⟩
  have hExecuted :
      (Preview.batchRun disk .both
        (.directory "scripts")).executed =
        [{ statement :=
            { text := "SELECT\n1;", startLine := 2, endLine := 3 }
           properties := PropertyMap.empty.insert "k" "\"" },
          { statement :=
            { text := "SELECT 2;", startLine := 1, endLine := 1 }
            properties := PropertyMap.empty }] := by
    decide +kernel
  rw [hReceived, List.map_append, List.map_append, hBefore,
    hPosts, hAfter, hExecuted]
  rfl

end KsqlBatch
