import MiniAgent.Evaluation.LaneRuns
import MiniAgent.Evaluation.QwenBaseline

/-! # Runs of a harness

A harness is used over and over: lanes and baselines run one after the other on the state that the
ones before have left. Whatever came before and whatever the environment answers, a lane accounts
for its cases, and it fails within bounds unless a Trace reaches the last instant that can be named.
-/

namespace MiniAgent.Evaluation

open MiniAgent.Core MiniAgent.Application ContractModel Coroutine

/-- The events of the lanes and baselines that a new harness ran, and the state that they left. -/
inductive OfflineEvalHarness.History (harness : OfflineEvalHarness) :
    List HarnessEvent → HarnessState → Prop
  | start : History harness [] {}
  | runLane {events more : List HarnessEvent} {state final : HarnessState} {request : LaneRequest}
      {outcome : Except EvalException EvalLaneRunOutcome} (history : History harness events state)
      (ran : (runLane harness request state).Runs more (outcome, final)) :
        History harness (events ++ more) final
  | runQwenBaseline {events more : List HarnessEvent} {state final : HarnessState}
      {request : QwenRequest}
      {outcome : Except EvalException EvalLaneRunOutcome} (history : History harness events state)
      (ran : (runQwenBaseline harness request state).Runs more (outcome, final)) :
      History harness (events ++ more) final

/-- The states that a harness can be in. -/
def OfflineEvalHarness.Reachable (harness : OfflineEvalHarness) (state : HarnessState) : Prop :=
  ∃ events, harness.History events state

theorem OfflineEvalHarness.Reachable.initial {harness : OfflineEvalHarness} :
    harness.Reachable {} := ⟨[], .start⟩

theorem OfflineEvalHarness.Reachable.cacheGood {harness : OfflineEvalHarness} {state : HarnessState}
    (reachable : harness.Reachable state) : CacheGood harness state := by
  obtain ⟨events, history⟩ := reachable
  induction history with
  | start => exact List.forall_mem_nil _
  | runLane _ ran good => exact ((meets_runLane _ _).ensures _ good _ _ _ ran).1
  | runQwenBaseline _ ran good => exact ((meets_runQwenBaseline _ _).ensures _ good _ _ _ ran).1

/-- A selection for the offline lane: some distinct executable cases of it, of the pair both or
neither, and scripts for selected cases only. -/
structure LaneRequest.Selects (request : LaneRequest) (harness : OfflineEvalHarness)
    (laneArtifact : EvalLaneArtifact) : Prop where
  found : harness.artifacts.laneByName "offline_gate" = .ok laneArtifact
  distinct : (request.selectedIds laneArtifact).Nodup
  ofLane : request.selectedIds laneArtifact ⊆ laneArtifact.caseRefs
  executable : ∀ caseId ∈ request.selectedIds laneArtifact, ∀ evalCase,
    harness.artifacts.caseById caseId = .ok evalCase →
      evalCase.lifecycleStatus ∈ executableCaseLifecycleStatuses
  pair : (∃ caseId ∈ pairIds, caseId ∈ request.selectedIds laneArtifact) →
    pairIds ⊆ request.selectedIds laneArtifact
  scripts : ∀ script ∈ request.scriptRefByCase, script.1 ∈ request.selectedIds laneArtifact

theorem LaneRequest.Selects.accepted {request : LaneRequest} {harness : OfflineEvalHarness}
    {laneArtifact : EvalLaneArtifact} (selects : request.Selects harness laneArtifact)
    (authenticated : harness.artifacts.Authenticated) (lane : request.lane = "offline_gate")
    (attempt : 1 ≤ request.attempt) (some_ : request.selectedIds laneArtifact ≠ []) :
    request.Accepted harness false laneArtifact := by
  have named (caseId : String) (selected : caseId ∈ request.selectedIds laneArtifact) : caseId ≠
      "" := by
    have member := (LoadedE2E01Artifacts.laneByName_mem selects.found).1
    obtain ⟨evalCase, known, rfl⟩ :=
      List.mem_map.mp ((authenticated.caseRefs _ member).2 (selects.ofLane selected))
    exact authenticated.named evalCase known
  refine ⟨lane, attempt, lane ▸ selects.found, ?_⟩
  simp only [selectionIsValid, Bool.and_eq_true, Bool.not_eq_true', List.isEmpty_eq_false_iff,
    allDistinct_iff, List.all_eq_true, decide_eq_true_eq, bne_iff_ne]
  exact ⟨⟨⟨⟨some_, named⟩, selects.distinct⟩, selects.ofLane⟩, selects.scripts⟩

/-- No case of such a selection is refused. -/
theorem LaneRequest.Selects.passes {request : LaneRequest} {harness : OfflineEvalHarness}
    {laneArtifact : EvalLaneArtifact} (selects : request.Selects harness laneArtifact)
    (authenticated : harness.artifacts.Authenticated) (lane : request.lane = "offline_gate")
    (attempt : 1 ≤ request.attempt) (some_ : request.selectedIds laneArtifact ≠ []) :
    request.Passes harness false laneArtifact where
  toAccepted := selects.accepted authenticated lane attempt some_
  executable := by
    have member := (LoadedE2E01Artifacts.laneByName_mem selects.found).1
    obtain ⟨cases, found⟩ :=
      Except.exists_mapM_eq_ok (f := harness.artifacts.caseById) fun caseId selected =>
      authenticated.caseById ((authenticated.caseRefs _ member).2 (selects.ofLane selected))
    refine ⟨cases, found,
      List.isEmpty_iff.mpr (List.filter_eq_nil_iff.mpr fun evalCase known => ?_)⟩
    obtain ⟨selected, named⟩ := case_of_selection found evalCase known
    simpa using selects.executable _ selected _ named
  pair := by
    rw [Bool.and_eq_false_imp]
    intro some_
    obtain ⟨caseId, inPair, selected⟩ := List.any_eq_true.mp some_
    have both := selects.pair ⟨caseId, inPair, of_decide_eq_true selected⟩
    rw [Bool.not_eq_false', List.all_eq_true]
    exact fun other member => decide_eq_true (both member)

/-- Of an attempt at some cases of the offline lane the outcome accounts for every case; any other
attempt leaves one failure that names no case. -/
theorem runLane_accounts {harness : OfflineEvalHarness}
    (authenticated : harness.artifacts.Authenticated) {state : HarnessState}
    (reachable : harness.Reachable state) (request : LaneRequest) {laneArtifact : EvalLaneArtifact}
    (selects : request.Selects harness laneArtifact) :
    (runLane harness request).Ensures state fun outcome _ events => ∀ told, outcome = .ok told →
      if request.lane = "offline_gate" ∧ 1 ≤ request.attempt ∧
      request.selectedIds laneArtifact ≠ [] then
        request.LaneAccounts (request.run harness false laneArtifact)
        (request.selectedIds laneArtifact) state events told
      else told.results = [] ∧ told.commandPassed = false ∧
        ∃ failure, told.executionFailures = [failure] ∧ failure.caseId = none := by
  intro events outcome final ran told same
  obtain rfl := same
  have tells : request.Tells harness false events told :=
    ((meets_runLane harness request).ensures state reachable.cacheGood _ _ _ ran).2
  split
  · next attempted =>
    obtain ⟨lane, attempt, some_⟩ := attempted
    have passes := selects.passes authenticated lane attempt some_
    obtain ⟨staging, staged⟩ := exists_stagedAs passes ran
    exact {
      accounts := tells.accepted laneArtifact passes.toAccepted ⟨selects.executable, selects.pair⟩
      staged := ⟨staging, staged, fun other also => staged.unique also⟩
      pair := fun other also => also.pairAccounts reachable.cacheGood selects.distinct some_ }
  · next other =>
    refine tells.refused fun found accepted => other ?_
    have lane : request.lane = "offline_gate" := accepted.lane
    obtain rfl : found = laneArtifact :=
      Except.ok.inj ((lane ▸ accepted.found).symm.trans selects.found)
    exact ⟨lane, accepted.attempt, (mem_of_selection accepted.selection).1⟩

namespace SuccessBundle

def texts (values : List String) : Json := .array (values.map ofText)

def eventCount (event : String) (count : ℕ) : Json :=
  .object [("event", ofText event), ("operator", ofText "EQUALS"), ("count", .int count)]

def successCase : EvalCaseArtifact where
  caseId := "E2E01-01"
  lifecycleStatus := "REGRESSION_GATE"
  input :=
    [("messages", .array
      [.object [("role", ofText "user"), ("content", ofText "订单 O-1001 状态怎么样？")]]),
      ("trusted_context_fixture_ref", ofText "session:alice"),
      ("initial_state_fixture_refs", .array []),
      ("environment_fixture_refs", texts ["order:O-1001"]),
      ("model_script_refs", texts ["script:e2e01-01:success"])]
  expectations :=
    [("expected_http_status", .int 200), ("expected_user_outcome", ofText "COMPLETED"),
      ("expected_stop_reason", ofText "GOAL_COMPLETED"),
      ("response_policy", ofText "DETERMINISTIC_ORDER_SUMMARY_V1"),
      ("required_events", texts ["MessageAccepted", "RunStarted", "RequestUnderstandingStarted",
        "ContextManifestRecorded", "NextMoveProposed", "TaskDeltaValidated", "TaskDeltaAccepted",
        "InputBindingRecorded", "TaskStateChanged", "NextMoveRevalidated", "GateDecisionRecorded",
        "ToolCallCreated",
        "ToolCallStarted", "ToolCallSucceeded", "ToolResultNormalized", "ObservationRecorded",
        "PresentationPlanProposed", "ResponseRendered", "RunStopped", "EvalCaseGraded"]),
      ("event_count_assertions",
        .array [eventCount "ContextManifestRecorded" 2, eventCount "TaskStateChanged" 2,
          eventCount "ToolCallCreated" 1, eventCount "ObservationRecorded" 1,
          eventCount "PresentationPlanProposed" 1]),
      ("forbidden_events", texts ["ToolCallFailed", "ToolCallInterrupted"]),
      ("critical_failure_refs",
        texts ["CF-01", "CF-02", "CF-04", "CF-10", "CF-12", "CF-13", "CF-14"])]
  grading :=
    [("graders", texts ["SchemaGrader", "IdentityBoundaryGrader", "RequestUnderstandingGrader",
      "InputBindingGrader", "TaskStateGrader", "ToolCallGrader", "ObservationGrader",
      "DisclosureGrader",
    "RendererFactGrader", "TraceCompletenessGrader", "PersistenceGrader", "ToolsetReplayGrader"])]
  versionManifest :=
    [("dataset_version", ofText "e2e01-thin-dataset-v1"),
      ("fixture_versions", texts ["e2e01-thin-fixture-v1"]),
      ("model_config_version", ofText "BOUND_BY_LANE"),
      ("prompt_version", ofText "e2e01-thin-prompt-v1"),
      ("tool_registry_version", ofText "e2e01-thin-tools-v1"),
      ("runtime_version", ofText "BOUND_AT_EVAL_RUN_FROM_SOURCE_REVISION_OR_BUILD_ID")]

def successScript : ModelScriptArtifact where
  modelScriptRef := "script:e2e01-01:success"
  steps :=
    [[("purpose", ofText "REQUEST_UNDERSTANDING"), ("behavior", ofText "VALID_ORDER_LOOKUP"),
        ("message_order_number", ofText "O-1001"), ("next_move_order_number", ofText "O-1001")],
      [("purpose", ofText "PRESENTATION"), ("behavior", ofText "VALID_ORDER_SUMMARY_PLAN"),
        ("fact_source", ofText "SAFE_ORDER_OBSERVATION")]]
  expectedControlResult :=
    [("run_status", ofText "COMPLETED"), ("stop_reason", ofText "GOAL_COMPLETED"),
      ("user_outcome", ofText "COMPLETED"),
      ("response_policy", ofText "DETERMINISTIC_ORDER_SUMMARY_V1"),
      ("task_terminal_status", ofText "COMPLETED"),
      ("request_unit_terminal_status", ofText "COMPLETED"),
      ("resulting_task_state_version", .int 2), ("resulting_request_unit_state_version", .int 2),
      ("tool_call_terminal_status", ofText "SUCCEEDED"), ("model_calls", .int 2),
      ("tool_calls", .int 1),
      ("order_reads", .int 1), ("observation_records", .int 1),
      ("presentation_model_calls", .int 1)]

def offlineGate : EvalLaneArtifact where
  lane := "offline_gate"
  modelConfigVersion := "scripted-model-provider-config-v1"
  caseRefs := ["E2E01-01"]
  credentialPolicy := [("required_env", .array []), ("when_missing", ofText "NOT_APPLICABLE")]

def qwenBaseline : EvalLaneArtifact where
  lane := "qwen_baseline"
  modelConfigVersion := "qwen-responses-qwen3.7-plus-2026-05-26-v1"
  caseRefs := ["E2E01-01"]
  credentialPolicy := [("required_env", texts ["DASHSCOPE_API_KEY", "DASHSCOPE_BASE_URL"]),
    ("when_missing", ofText "NOT_RUN")]

def artifacts : LoadedE2E01Artifacts where
  candidateVersion := "candidate"
  runtimeVersion := none
  manifest := [("versions", .object
    [("fixture_version", ofText "e2e01-thin-fixture-v1"),
      ("dataset_version", ofText "e2e01-thin-dataset-v1"),
      ("prompt_version", ofText "e2e01-thin-prompt-v1"),
      ("tool_registry_version", ofText "e2e01-thin-tools-v1")])]
  fixture := [("sessions", .array [
    .object [("fixture_ref", ofText "session:alice"), ("trusted_customer_id", ofText "customer-A")],
    .object [("fixture_ref", ofText "session:bob"), ("trusted_customer_id", ofText "customer-B")]])]
  cases := [successCase]
  scripts := [successScript]
  lanes := [offlineGate, qwenBaseline]

def harness : OfflineEvalHarness where
  artifacts
  gradedEventId _ _ _ _ := 7

/-- An identity of version 4. -/
def opaqueIdentity (low : ℕ) : Uuid := 4 * 2 ^ 76 + 2 * 2 ^ 62 + low

/-- The least evidence: an event at the time. -/
def evidenceAt (instant : ℤ) : UnboundEvalEvidence where
  observedOutcome := .completed
  traceRef := 1
  traceEvents :=
    [{ traceEventId := 2, eventType := .messageAccepted, occurredAt := .utc instant, runId := 3 }]

def sutResultAt (instant : ℤ) (executionRef : Uuid) : EvalCaseSutResult where
  executionRef
  evidence := evidenceAt instant
  safeObservable := {
    httpStatus := 200
    userOutcome := .completed
    responsePolicy := "DETERMINISTIC_ORDER_SUMMARY_V1"
    ordinaryTraceShape := ordinaryTraceShape (evidenceAt instant).traceEvents
    modelCalls := 0 }

/-- Everything is closed, the ports take what they get, the grader runner grades as the registry
does, and the system under test reports one event, at the time. Two nonces are issued, and the
graded event is stored behind it. -/
def environment (instant : ℤ) (history : List (Event HarnessAnswer)) :
    (call : HarnessCall) → HarnessAnswer call
  | .nonceFactory => .ok (some (opaqueIdentity history.length))
  | .clock => .ok (some (.utc 0))
  | .executeCase executionInput scriptedProvider _ =>
    (.ok (some (sutResultAt instant executionInput.executionRef)), scriptedProvider.steps.length)
  | .executeQwenCase executionInput => .ok (some (sutResultAt instant executionInput.executionRef))
  | .reloadTrace _ => .ok (some (history.foldl (fun events event => match event with
    | ⟨.appendEvalCaseGraded graded, _⟩ => events ++ [graded]
    | _ => events) (evidenceAt instant).traceEvents))
  | .graderRunner configuredNames evidence expectations =>
    some <$> gradeEvidence configuredNames evidence expectations
  | .appendEvalResult _ => .ok (some .inserted)
  | .loadEvalResult .. => .ok none
  | .appendEvalCaseGraded _ | .appendEvalExecutionFailure _ => .ok ()
  | .singletonStateIsClosed | .restoreSingletonState | .isClosed _ => true

end SuccessBundle

/-- The bundle of the success case passes the checks of the loader. -/
private theorem SuccessBundle.artifacts_authenticated : SuccessBundle.artifacts.Authenticated where
  lanes := by decide
  cases := by decide
  named := by decide
  lifecycle := by decide
  caseRefs := by decide
  graders := List.forall_mem_singleton.mpr ⟨_, rfl, fun inPair => absurd inPair (by decide)⟩
  versions := by
    have built (evalCase : Option EvalCaseArtifact) (lane : Option EvalLaneArtifact)
        (made : (versionManifest SuccessBundle.artifacts evalCase lane).isOk = true) :
        ∃ manifest, versionManifest SuccessBundle.artifacts evalCase lane = .ok manifest :=
          Except.exists_ok_of_isOk made
    intro evalCase member lane known
    apply built
    revert evalCase lane
    decide

/-- A lane that is asked for no case at all does not pass, though no case is left without a result
that passed. -/
theorem runLane_empty_selection : ¬∀ (request : LaneRequest),
    request.Selects SuccessBundle.harness SuccessBundle.offlineGate →
      (runLane SuccessBundle.harness request).Ensures {} fun outcome _ _ =>
      ∀ told, outcome = .ok told →
        (told.commandPassed = true ↔ ∀ caseId ∈ request.selectedIds SuccessBundle.offlineGate,
          ∃ result ∈ told.results, result.caseId = caseId ∧ result.status = .pass) := by
  intro claimed
  let request : LaneRequest := { evalRunId := 9, caseIds := some [] }
  have selects : request.Selects SuccessBundle.harness SuccessBundle.offlineGate := by
    refine ⟨rfl, List.nodup_nil, List.nil_subset _, List.forall_mem_nil _, ?_,
      List.forall_mem_nil _⟩
    rintro ⟨caseId, -, selected⟩
    exact absurd selected List.not_mem_nil
  have ran :=
    Program.runs_simulate (SuccessBundle.environment 0)
      (runLane SuccessBundle.harness request {}) []
  have refused : ((((runLane SuccessBundle.harness request {}).simulate
    (SuccessBundle.environment 0) []).2).1.map
      (·.commandPassed)) = .ok false := by decide
  have holds := claimed request selects _ _ _ ran
  cases outcome : (((runLane SuccessBundle.harness request {}).simulate
      (SuccessBundle.environment 0) []).2).1 with
  | error failure =>
    rw [outcome] at refused
    cases refused
  | ok told =>
    rw [outcome] at refused
    have failed : told.commandPassed = false := Except.ok.inj refused
    exact Bool.false_ne_true (failed.symm.trans ((holds told outcome).mpr (List.forall_mem_nil _)))

/-- A selection of the success case. -/
theorem runLane_accounts_success : SuccessBundle.artifacts.Authenticated ∧
    (runLane SuccessBundle.harness { evalRunId := 9 }).Ensures {} fun outcome _ events =>
    ∀ told, outcome = .ok told → LaneRequest.LaneAccounts { evalRunId := 9 }
        (LaneRequest.run { evalRunId := 9 } SuccessBundle.harness false SuccessBundle.offlineGate)
        ["E2E01-01"] {} events
        told := by
  have selects :
      LaneRequest.Selects { evalRunId := 9 } SuccessBundle.harness SuccessBundle.offlineGate :=
    { found := rfl
      distinct := by decide
      ofLane := List.Subset.refl _
      executable := fun _ _ evalCase found => by
        rw [SuccessBundle.artifacts_authenticated.lifecycle evalCase (mem_of_uniqueMatch found).1]
        decide
      pair := by decide
      scripts := List.forall_mem_nil _ }
  refine ⟨SuccessBundle.artifacts_authenticated, ?_⟩
  refine (runLane_accounts SuccessBundle.artifacts_authenticated .initial { evalRunId := 9 }
    selects).mono ?_
  intro outcome final events accounts told same
  have decided := accounts told same
  rwa [if_pos (by decide)] at decided

theorem expectedModelVisibleToolsetHash_eq :
    expectedModelVisibleToolsetHash = exampleSnapshot.modelVisibleToolsetHash :=
  congrArg (Option.getD · []) exampleToolset_hash

theorem stageSelected_eq_foldlM (run : LaneRun) (selectedIds : List String) (staging : Staging) :
    stageSelected run selectedIds staging = selectedIds.foldlM (fun staging caseId => do
      let evalCase ← Coroutine.ofExcept (run.harness.artifacts.caseById caseId)
      let stage ← stageOrReplay run caseId evalCase
      return staging.add caseId (run.replayKey evalCase caseId) stage) staging := by
  induction selectedIds generalizing staging with
  | nil => rfl
  | cons caseId rest ih => simp only [stageSelected, List.foldlM_cons, bind_assoc, pure_bind, ih]

namespace SuccessBundle

/-- The lane of the success case where the system under test reports an event at an instant. -/
def laneAt (instant : ℤ) : List HarnessEvent × Except EvalException EvalLaneRunOutcome ×
    HarnessState :=
  (runLane harness { evalRunId := 9 } {}).simulate (environment instant) []

private theorem laneAt_runs (instant : ℤ) :
    (runLane harness { evalRunId := 9 } {}).Runs (laneAt instant).1 (laneAt instant).2 :=
  Program.runs_simulate _ _ _

/-- At the last instant there is no later one for the graded event. -/
private theorem laneAt_maxInstant : (laneAt maxInstant).2.1 = .error .overflowError := by
  simp only [laneAt, runLane, runLaneImpl, runSelected, stageSelected_eq_foldlM, stageOrReplay,
    stageCase, setupCase, buildAuthenticatedCaseExpectations, expectedModelVisibleToolsetHash_eq]
  decide +kernel

private theorem laneAt_isOk : (laneAt (maxInstant - 1)).2.1.isOk = true := by
  simp only [laneAt, runLane, runLaneImpl, runSelected, stageSelected_eq_foldlM, stageOrReplay,
    stageCase, setupCase, buildAuthenticatedCaseExpectations, expectedModelVisibleToolsetHash_eq]
  decide +kernel

end SuccessBundle

end MiniAgent.Evaluation
