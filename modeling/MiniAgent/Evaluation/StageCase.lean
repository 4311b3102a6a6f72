import MiniAgent.Evaluation.Harness

/-! # Staging one case

A case is set up, executed once under a fresh identity, and graded twice: the configured graders but
one judge the Trace that the system under test reported, the completeness grader judges the Trace
that was reloaded after the graded event was appended. Every other way out appends one failure.
-/

namespace MiniAgent.Evaluation

open MiniAgent.Core MiniAgent.Application ContractModel

/-- What one execution of a case is about. -/
structure CaseRun where
  harness : OfflineEvalHarness
  evalRunId : Uuid
  laneArtifact : EvalLaneArtifact
  attempt : ℕ
  evalCase : EvalCaseArtifact
  qwenExecution : Bool

/-- A staged case, or the failure that was appended instead. -/
abbrev Staged := Except EvalExecutionFailureRecord StagedCase

/-- `return None, await self._append_failure(...)` -/
def CaseRun.fail (run : CaseRun) (phase : EvalExecutionFailurePhase) (traceRef : Option Uuid)
    (safeErrorCode : Option EvalExecutionSafeErrorCode := none) : Harness Staged := do
  let scope : FailureScope :=
    { evalRunId := run.evalRunId, lane := run.laneArtifact.lane, evalCase := some run.evalCase,
      attempt := run.attempt
      laneArtifact := some run.laneArtifact }
  return .error (← appendFailure run.harness scope phase traceRef safeErrorCode)

/-- `_normalized_selected_script_ref` -/
def normalizedSelectedScriptRef (evalCase : EvalCaseArtifact) (selectedScriptRef : Option String) :
    Except EvalException String := do
  let scriptRefs ← elementsAt evalCase.input "model_script_refs"
  let selected ← match selectedScriptRef, scriptRefs with
    | some selected, _ => pure (ofText selected)
    | none, [only] => pure only
    | none, _ => throw (.artifactContract "multi-script Case requires explicit script selection")
  let some scriptRef :=
    text selected | throw (.artifactContract "selected script is not bound to Case")
  Except.require (decide (selected ∈ scriptRefs))
    (.artifactContract "selected script is not bound to Case")
  return scriptRef

/-- The selected script and the expectations of the case. -/
def setupCase (artifacts : LoadedE2E01Artifacts) (evalCase : EvalCaseArtifact)
    (selectedScriptRef : Option String) :
    Except EvalException (ModelScriptArtifact × EvalCaseExpectations) := do
  let scriptRef ← normalizedSelectedScriptRef evalCase selectedScriptRef
  let script ← artifacts.scriptByRef scriptRef
  let expectations ← buildAuthenticatedCaseExpectations artifacts evalCase script
  return (script, expectations)

/-- `_issue_nonce_pair`; a nonce that cannot be issued is still never issued again. -/
def issueNoncePair : Harness (Option (Uuid × Uuid)) := do
  let values ← caught do
    let first ← Coroutine.ofExcept (← Coroutine.ask HarnessCall.nonceFactory)
    let second ← Coroutine.ofExcept (← Coroutine.ask HarnessCall.nonceFactory)
    return (first, second)
  let some (some first, some second) := values | return none
  let issued := (← Coroutine.read).issuedNonces
  Coroutine.modify fun state => { state with issuedNonces := first :: second :: state.issuedNonces }
  return if isUuidVersion4 first && isUuidVersion4 second && first != second &&
    decide (first ∉ issued) &&
    decide (second ∉ issued) then some (first, second) else none

/-- `_execution_input` -/
def executionInputOf (evalCase : EvalCaseArtifact) (executionRef : Uuid) :
    Except EvalException EvalCaseExecutionInput := do
  let some fixtureRef :=
    (Json.lookup evalCase.input "trusted_context_fixture_ref").bind nonemptyText
    | throw (.artifactContract "Case trusted context fixture reference is invalid")
  let messageContent ← trustedMessageContentForCase evalCase
  return { executionRef, messageContent, trustedContextFixtureRef := fixtureRef }

/-- What an execution left: the result, unless the system under test raised, the case that was
pending then, and the script steps that were consumed. -/
structure Execution where
  sutResult : Option (Option EvalCaseSutResult)
  pendingCase : Option String
  cursor : ℕ

/-- Execute the case once. Its identity is pending for the time of the execution only, however it
ends. -/
def executeOnce (run : CaseRun) (executionRef : Uuid) (executionInput : EvalCaseExecutionInput)
    (provider : Option ScriptedModelProviderV2) : Harness Execution := do
  Coroutine.modify fun state => { state with
    pendingCaseByExecutionRef :=
      (executionRef, run.evalCase.caseId) :: state.pendingCaseByExecutionRef }
  let (reply, cursor) ← match provider with
    | some provider =>
      Coroutine.ask (HarnessCall.executeCase executionInput provider provider.runtimeFault)
    | none => (·, 0) <$> Coroutine.ask (HarnessCall.executeQwenCase executionInput)
  let pendingCase := (← Coroutine.read).pendingCaseByExecutionRef.lookup executionRef
  Coroutine.modify fun state => { state with
    pendingCaseByExecutionRef := state.pendingCaseByExecutionRef.filter (·.1 != executionRef)
    retiredExecutionRefs := executionRef :: state.retiredExecutionRefs }
  let sutResult ← caught (Coroutine.ofExcept reply)
  return { sutResult, pendingCase, cursor }

/-- The value checks of `_canonical_unbound_result`. -/
def unboundResultIsCanonical (result : EvalCaseSutResult) : Bool :=
  let evidence := result.evidence
  let observable := result.safeObservable
  validates result && !evidence.traceEvents.isEmpty && evidence.traceEvents.all (·.caseId.isNone) &&
    evidence.traceEvents.all (·.eventType != .evalCaseGraded) &&
      evidence.observedOutcome == observable.userOutcome &&
    ordinaryTraceShape evidence.traceEvents == observable.ordinaryTraceShape &&
    evidence.contextManifests.length == observable.modelCalls &&
    evidence.agentResult.all (·.outcome == observable.userOutcome)

/-- `_canonical_unbound_result` -/
def canonicalUnboundResult (result : EvalCaseSutResult) : Harness Bool := do
  return (← isClosed (.unboundResult result)) && unboundResultIsCanonical result

/-- `_bind_authenticated_case` -/
def bindAuthenticatedCase (result : EvalCaseSutResult) (caseId : String) : Option EvalEvidence := do
  let safeObservable ← construct
    ({ caseId, httpStatus := result.safeObservable.httpStatus, userOutcome :=
      result.safeObservable.userOutcome
       responsePolicy := result.safeObservable.responsePolicy
       ordinaryTraceShape := result.safeObservable.ordinaryTraceShape
       modelCalls := result.safeObservable.modelCalls } : SafeCaseObservable)
  construct { result.evidence with caseId, safeObservable := some safeObservable }

/-- `_canonical_bound_evidence` -/
def canonicalBoundEvidence (evidence : EvalEvidence) : Harness (Option EvalEvidence) := do
  if ← isClosed (.evidence evidence) then return construct evidence else return none

/-- `_run_verified_grading`: the grader runner may only repeat what the registry says. -/
def runVerifiedGrading (configuredNames : List Json) (evidence : EvalEvidence)
    (expectations : EvalCaseExpectations) :
    Harness GradingOutcome := do
  let canonical ← Coroutine.ofExcept (gradeEvidence configuredNames evidence expectations)
  let incompleteInput := EvalException.gradingConfiguration "grader input is incomplete"
  let incompleteOutput := EvalException.gradingConfiguration "grader output is incomplete"
  let some runnerEvidence ← canonicalBoundEvidence evidence | throw incompleteInput
  let some runnerExpectations ← detached (.expectations expectations) expectations
    | throw incompleteInput
  let reply ← Coroutine.ask
    (HarnessCall.graderRunner configuredNames runnerEvidence runnerExpectations)
  let some reportedRaw ← Coroutine.ofExcept reply | throw incompleteOutput
  let some reported ← detached (.gradingOutcome reportedRaw) reportedRaw | throw incompleteOutput
  if !(← singletonStateIsClosed) then throw incompleteOutput
  if !(← isClosed (.evidence evidence)) then throw incompleteOutput
  if !(← isClosed (.expectations expectations)) then throw incompleteOutput
  Coroutine.ofExcept (validateGradingOutput reported configuredNames expectations)
  if reported != canonical then
    throw (.gradingConfiguration "grader runner output does not match canonical grading")
  return canonical

/-- The last instant a `datetime` can name, in microseconds since 1970-01-01. -/
def maxInstant : ℤ := 253402300799999999

/-- The latest time of the events. -/
def latest (events : List TraceEvent) : Except EvalException ℤ :=
  match events.map (·.occurredAt.instant) with
  | [] => .error .valueError
  | first :: rest => .ok (rest.foldl max first)

/-- The event that says that the case was graded, a microsecond after the last one. -/
def gradedEventOf (run : CaseRun) (evidence : EvalEvidence) : Except EvalException TraceEvent := do
  let last ← latest evidence.traceEvents
  if maxInstant ≤ last then throw .overflowError
  let some first := evidence.traceEvents.head? | throw (.other "IndexError")
  constructed {
    traceEventId :=
      run.harness.gradedEventId run.evalRunId run.evalCase.caseId run.laneArtifact.lane run.attempt
    eventType := .evalCaseGraded
    occurredAt := .utc (last + 1)
    runId := first.runId
    caseId := some run.evalCase.caseId }

/-- The reloaded Trace has the graded event once and names the case nowhere else. -/
def gradedOnce (traceEvents : List TraceEvent) (gradedEvent : TraceEvent)
    (caseId : String) : Bool :=
  traceEvents.filter (·.eventType == .evalCaseGraded) == [gradedEvent] &&
    traceEvents.all fun event =>
      if event.eventType = .evalCaseGraded then event.caseId == some caseId else event.caseId.isNone

/-- The evidence with the reloaded Trace, if that is the evidence's Trace and the graded event. -/
def finalEvidenceOf (run : CaseRun) (evidence : EvalEvidence) (gradedEvent : TraceEvent)
    (reloaded : Option (List TraceEvent)) (sutResult : EvalCaseSutResult) :
    Harness (Option EvalEvidence) := do
  let some traceEvents := reloaded | return none
  if !(← isClosed (.uuid evidence.traceRef)) then return none
  if !(← isClosed (.unboundResult sutResult)) then return none
  let some finalEvidence ← canonicalBoundEvidence (evidence.withTrace traceEvents) | return none
  return if gradedOnce finalEvidence.traceEvents gradedEvent run.evalCase.caseId then
    some finalEvidence else none

/-- The results of both gradings, in the configured order. -/
def resultsInOrder (configuredNames : List Json) (results : List EvalGraderResult) :
    Except EvalException (List EvalGraderResult) :=
  configuredNames.mapM fun name =>
    (Keyed.lastByKey (ofText ·.graderName) results name).elim (.error .keyError) .ok

/-- The result record and the final observable of a case that was graded. -/
def stageResult (run : CaseRun) (expectations : EvalCaseExpectations) (configuredNames : List Json)
    (results : List EvalGraderResult) (finalEvidence : EvalEvidence)
    (safeObservable : SafeCaseObservable) :
    Except EvalException StagedCase := do
  let graderResults ← resultsInOrder configuredNames results
  let grading ← deriveGradingOutcome graderResults expectations
  let result ← constructed {
    schemaVersion := "eval_result_record.p0.v1"
    evalRunId := run.evalRunId
    caseId := run.evalCase.caseId
    lane := run.laneArtifact.lane
    attempt := run.attempt
    status := grading.status
    graderResults := grading.graderResults
    criticalFailures := grading.criticalFailures
    observedOutcome := some finalEvidence.observedOutcome
    traceRef := some finalEvidence.traceRef
    versionManifest :=
      ← versionManifest run.harness.artifacts (some run.evalCase) (some run.laneArtifact)
    completedAt := .utc (← latest finalEvidence.traceEvents) }
  let observable ← constructed { safeObservable with
    caseId := run.evalCase.caseId
    ordinaryTraceShape := ordinaryTraceShape finalEvidence.traceEvents }
  return { evalCase := run.evalCase, expectations, result, safeObservable := observable }

/-- The case is graded on the reported Trace, the graded event is appended, and the reloaded Trace
is graded. -/
def gradeCase (run : CaseRun) (expectations : EvalCaseExpectations) (configuredNames : List Json)
    (sutResult : EvalCaseSutResult) (evidence : EvalEvidence)
    (safeObservable : SafeCaseObservable) :
    Harness Staged := do
  let nonTraceNames := configuredNames.filter (· != ofText "TraceCompletenessGrader")
  if !(← isClosed (.unboundResult sutResult)) then
    return ← run.fail .resultCompleteness evidence.traceRef
  let some initialGrading ← caught (runVerifiedGrading nonTraceNames evidence expectations)
    | run.fail .grading evidence.traceRef
  let gradedEvent ← Coroutine.ofExcept (gradedEventOf run evidence)
  let appended ← do
    if ← isClosed (.traceEvent gradedEvent) then
      caught do Coroutine.ofExcept (← Coroutine.ask (HarnessCall.appendEvalCaseGraded gradedEvent))
    else pure none
  if appended.isNone then
    return ← run.fail .tracePersistence evidence.traceRef (some .tracePersistenceFailed)
  let expectedFinal ← do
    if (← isClosed (.traceEvent gradedEvent)) && (← isClosed (.unboundResult sutResult)) then
      canonicalBoundEvidence (evidence.withTrace (evidence.traceEvents ++ [gradedEvent]))
    else pure none
  if expectedFinal.isNone then return ← run.fail .resultCompleteness evidence.traceRef
  let reloaded ← caught do
    let some traceRef ← detachedClosedUuid evidence.traceRef | throw .valueError
    Coroutine.ofExcept (← Coroutine.ask (HarnessCall.reloadTrace traceRef))
  let some reloaded :=
    reloaded | run.fail .tracePersistence evidence.traceRef (some .traceStoreUnavailable)
  let some finalEvidence ← finalEvidenceOf run evidence gradedEvent reloaded sutResult
    | run.fail .resultCompleteness evidence.traceRef
  let some finalGrading ← caught
      (runVerifiedGrading [ofText "TraceCompletenessGrader"] finalEvidence expectations)
    | run.fail .grading evidence.traceRef
  return .ok (← Coroutine.ofExcept (stageResult run expectations configuredNames
    (initialGrading.graderResults ++ finalGrading.graderResults) finalEvidence safeObservable))

/-- `_stage_case` -/
def stageCase (run : CaseRun) (selectedScriptRef : Option String) : Harness Staged := do
  let .ok (script, expectations) := setupCase run.harness.artifacts run.evalCase selectedScriptRef
    | run.fail .caseSetup none
  let some (executionRef, scriptExecutionRef) ← issueNoncePair | run.fail .resultCompleteness none
  let prepared ← caught do
    let some sutExecutionRef ← detachedClosedUuid executionRef | throw .valueError
    let some providerExecutionRef ← detachedClosedUuid scriptExecutionRef | throw .valueError
    let executionInput ← Coroutine.ofExcept (executionInputOf run.evalCase sutExecutionRef)
    let provider ← if run.qwenExecution then pure none
      else some <$> Coroutine.ofExcept (scriptedModelProvider script providerExecutionRef)
    return (executionInput, provider)
  let some (executionInput, provider) := prepared | run.fail .caseSetup none
  let execution ← executeOnce run executionRef executionInput provider
  let some sutResult := execution.sutResult | run.fail .systemUnderTest none
  let some sutResult := sutResult | run.fail .resultCompleteness none
  if !((← canonicalUnboundResult sutResult) && sutResult.executionRef == executionRef &&
      execution.pendingCase == some run.evalCase.caseId) then
    return ← run.fail .resultCompleteness none
  let some bound := bindAuthenticatedCase sutResult run.evalCase.caseId
    | run.fail .resultCompleteness none
  let some evidence ← canonicalBoundEvidence bound | run.fail .resultCompleteness none
  let some safeObservable := evidence.safeObservable | run.fail .resultCompleteness none
  if !(provider.all (·.isExhausted execution.cursor)) then
    return ← run.fail .systemUnderTest evidence.traceRef
  let configuredNames ← Coroutine.ofExcept (elementsAt run.evalCase.grading "graders")
  if configuredNames.count (ofText "TraceCompletenessGrader") != 1 then
    return ← run.fail .grading evidence.traceRef
  gradeCase run expectations configuredNames sutResult evidence safeObservable

end MiniAgent.Evaluation
