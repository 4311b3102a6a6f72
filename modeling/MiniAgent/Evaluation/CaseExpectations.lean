import MiniAgent.Evaluation.Grading

/-! # The expectations of a case

What a case is graded against is read from the case, the selected model script and the fixture.
Every value that has no place in a closed artifact is an exception; the harness reports them all
alike.
-/

namespace MiniAgent.Evaluation

open MiniAgent.Core MiniAgent.Application ContractModel

/-- `TraceEventType.value` -/
def traceEventTypeValue : TraceEventType → String
  | .messageAccepted => "MessageAccepted"
  | .runStarted => "RunStarted"
  | .requestUnderstandingStarted => "RequestUnderstandingStarted"
  | .contextManifestRecorded => "ContextManifestRecorded"
  | .nextMoveProposed => "NextMoveProposed"
  | .taskDeltaValidated => "TaskDeltaValidated"
  | .taskDeltaAccepted => "TaskDeltaAccepted"
  | .inputBindingRecorded => "InputBindingRecorded"
  | .taskStateChanged => "TaskStateChanged"
  | .nextMoveRevalidated => "NextMoveRevalidated"
  | .gateDecisionRecorded => "GateDecisionRecorded"
  | .toolCallCreated => "ToolCallCreated"
  | .toolCallStarted => "ToolCallStarted"
  | .toolCallSucceeded => "ToolCallSucceeded"
  | .toolCallFailed => "ToolCallFailed"
  | .toolCallTimedOut => "ToolCallTimedOut"
  | .toolCallInterrupted => "ToolCallInterrupted"
  | .toolResultNormalized => "ToolResultNormalized"
  | .observationRecorded => "ObservationRecorded"
  | .presentationPlanProposed => "PresentationPlanProposed"
  | .responseRendered => "ResponseRendered"
  | .runStopped => "RunStopped"
  | .evalCaseGraded => "EvalCaseGraded"

def traceEventTypes : List TraceEventType :=
  .requestUnderstandingStarted :: safetyCriticalTraceTypes

def taskStatuses : List TaskStatus :=
  [.active, .waitingUser, .pendingAction, .actionInProgress, .recovering, .completed, .blocked,
    .cancelled]

def toolCallStatuses : List ToolCallStatus :=
  [.created, .running, .succeeded, .failed, .timedOut, .interrupted]

def gateReasonCodes : List GateReasonCode :=
  [.actionRequiresProposal, .argumentBindingMismatch, .budgetExceeded, .noProgress, .schemaInvalid,
    .snapshotMismatch, .stateVersionMismatch, .toolNotRegistered, .trustedFieldInjection]

def agentOutcomes : List AgentOutcome :=
  [.completed, .askUser, .blocked, .needHuman, .notFoundOrNotAccessible]

def agentRunStatuses : List AgentRunStatus := [.created, .running, .completed, .failed, .incomplete]

def stopReasons : List StopReason :=
  [.goalCompleted, .notFoundOrNotAccessible, .inputInvalid, .gateRejected, .providerProtocolError,
    .orderServiceUnavailable, .presentationPlanRejected, .rendererInvariantFailed,
    .processRestartDetected]

/-- `CF-01` to `CF-14` -/
def criticalFailureValue (code : CriticalFailureCode) : String :=
  "CF-" ++ (if code.val < 9 then "0" else "") ++ toString (code.val + 1)

/-- `Enumeration(value)` -/
def enumOf {α : Type} (members : List α) (spelling : α → String) (value : Json) :
    Except EvalException α :=
  match (text value).bind fun wanted => members.find? (spelling · == wanted) with
  | some member => .ok member
  | none => .error .valueError

/-- `Enumeration(value) if isinstance(value, str) else None` -/
def optionalEnum {α : Type} (members : List α) (spelling : α → String) (value : Option Json) :
    Except EvalException (Option α) :=
  match value.filter (text · |>.isSome) with
  | some value => some <$> enumOf members spelling value
  | none => .ok none

/-- An integer field of a model, which the artifacts spell as an integer. -/
def intField : Json → Except EvalException ℕ
  | .int value => if 0 ≤ value then .ok value.toNat else .error .validationError
  | _ => .error .validationError

def textField (value : Json) : Except EvalException String :=
  (text value).elim (.error .validationError) .ok

/-- Validate the fields of a model. -/
def constructed {Model : Type} [ContractModel Model] (fields : Model) :
    Except EvalException Model :=
  (construct fields).elim (.error .validationError) .ok

theorem constructed_eq_ok_iff {Model : Type} [ContractModel Model] {fields model : Model} :
    constructed fields = .ok model ↔ validates fields = true ∧ model = fields := by
  unfold constructed
  rw [← construct_eq_some]
  cases construct fields <;> simp

def baseTraceVariantByCaseId : String → Option TraceVariant
  | "E2E01-01" => some .success
  | "E2E01-04-A" => some .foreignOrder
  | "E2E01-04-B" => some .nonexistentOrder
  | "E2E01-01+SEC-ARGUMENT-BINDING" => some .argumentBindingRejected
  | _ => none

def traceVariantFromArtifactName : String → Option TraceVariant
  | "PROVIDER_PROTOCOL_BEFORE_CANDIDATE" => some .providerProtocolBeforeCandidate
  | "INPUT_VALIDATION_REJECTED" => some .inputValidationRejected
  | "CONTROL_GATEWAY_REJECTED" => some .unknownToolGatewayRejected
  | "CONTROL_GATEWAY_STALE_STATE_REJECTED" => some .staleStateGatewayRejected
  | "PRESENTATION_PROTOCOL_REJECTED" => some .presentationProtocolRejected
  | _ => none

structure CaseTraceExpectations where
  required : List TraceEventType
  forbidden : List TraceEventType
  counts : List TraceEventCountExpectation
  variant : TraceVariant

/-- The variants that name the script. A frozen mapping is a tuple too, of keys that are no
mappings. -/
def matchingVariants (evalCase : EvalCaseArtifact) (modelScriptRef : String) :
    Except EvalException (List JsonObject) := do
  let variants ← match Json.lookup evalCase.expectations "trace_expectation_variants" with
    | none | some (.object _) => pure []
    | some (.array items) => pure items
    | some _ => throw (.artifactContract "Trace variants are not authenticated tuples")
  (variants.filterMap fun | .object fields => some fields | _ => none).filterM fun item => do
    return decide (ofText modelScriptRef ∈ (← elementsAt item "model_script_refs"))

def traceCountExpectation (item : Json) : Except EvalException TraceEventCountExpectation := do
  let failure := EvalException.artifactContract "Trace count assertion is not closed"
  let .object fields := item | throw failure
  if Json.lookup fields "operator" != some (ofText "EQUALS") then throw failure
  let some (.int count) := Json.lookup fields "count" | throw failure
  let eventType ← enumOf traceEventTypes traceEventTypeValue (← subscript fields "event")
  return { eventType, count := ← intField (.int count) }

/-- `_case_trace_expectations` -/
def caseTraceExpectations (evalCase : EvalCaseArtifact) (modelScriptRef : String) :
    Except EvalException CaseTraceExpectations := do
  let (selected, variant) ← match ← matchingVariants evalCase modelScriptRef with
    | [] => pure (evalCase.expectations, baseTraceVariantByCaseId evalCase.caseId)
    | [only] => match (Json.lookup only "variant").bind text with
      | some artifactVariant => pure (only, traceVariantFromArtifactName artifactVariant)
      | none => throw (.artifactContract "Trace variant identity is invalid")
    | _ => throw (.artifactContract "model script matches multiple Trace variants")
  let some variant := variant | throw (.artifactContract "Case/script Trace variant is not closed")
  let required ← (← elementsAt selected "required_events").mapM
    (enumOf traceEventTypes traceEventTypeValue)
  let forbidden ← (← elementsAt selected "forbidden_events").mapM
    (enumOf traceEventTypes traceEventTypeValue)
  let counts ← (← elementsAt selected "event_count_assertions").mapM traceCountExpectation
  return { required, forbidden, counts, variant }

/-- `_terminal_state_version` -/
def terminalStateVersion (control : JsonObject) (record : String) : Option ℕ :=
  (((Json.lookup control ("resulting_" ++ record ++ "_state_version")).bind (intFrom 1)).or
    ((Json.lookup control ("terminal_" ++ record ++ "_state_version")).bind (intFrom 1))).or
    (((Json.lookup control (record ++ "_state_version_delta")).bind (intFrom 0)).map (1 + ·))

/-- `item.get("fixture_ref") == fixture_ref` -/
def sameFixtureRef (item : JsonObject) (fixtureRef : Option Json) : Bool :=
  (Json.lookup item "fixture_ref").map Json.norm == fixtureRef.map Json.norm

/-- `_trusted_customer_for_case` -/
def trustedCustomerForCase (artifacts : LoadedE2E01Artifacts) (evalCase : EvalCaseArtifact) :
    Except EvalException String := do
  let fixtureRef := Json.lookup evalCase.input "trusted_context_fixture_ref"
  let sessions ← elementsAt artifacts.fixture "sessions"
  let session ← uniqueMatch (sessions.filterMap fun | .object fields => some fields | _ => none)
    (sameFixtureRef · fixtureRef) "Case trusted fixture is not unique"
  let some customerId := (Json.lookup session "trusted_customer_id").bind nonemptyText
    | throw (.artifactContract "trusted customer fixture is invalid")
  return customerId

/-- `_trusted_message_content_for_case` -/
def trustedMessageContentForCase (evalCase : EvalCaseArtifact) : Except EvalException String := do
  let some (.array [.object message]) := Json.lookup evalCase.input "messages"
    | throw (.artifactContract "Case user message is not unique")
  if Json.lookup message "role" != some (ofText "user") then
    throw (.artifactContract "Case user message is not unique")
  let some content := (Json.lookup message "content").bind nonemptyText
    | throw (.artifactContract "Case user message content is invalid")
  return content

def noCanonicalRequestOutput : List String :=
  ["INJECT_ZERO_TARGET_FUNCTION_CALLS", "INJECT_MULTIPLE_TARGET_FUNCTION_CALLS",
    "INJECT_INVALID_REQUEST_UNDERSTANDING_SCHEMA", "INJECT_SOURCE_AUTHORITY_MISMATCH",
    "INJECT_TRUSTED_FIELD_OVERRIDE"]

/-- `behavior not in _NO_CANONICAL_REQUEST_OUTPUT`; a frozen container cannot be hashed. -/
def requestIsRequired : Option Json → Except EvalException Bool
  | some (.array _) | some (.object _) => .error .typeError
  | some behavior => .ok ((text behavior).all (· ∉ noCanonicalRequestOutput))
  | none => .ok true

def expectedModelVisibleToolsetHash : Text :=
  (computeModelVisibleToolsetHash [getOrderToolSpec]).getD []

def buildAuthenticatedCaseExpectations (artifacts : LoadedE2E01Artifacts)
    (evalCase : EvalCaseArtifact) (script : ModelScriptArtifact) :
    Except EvalException EvalCaseExpectations := do
  let control := script.expectedControlResult
  let firstStep := script.steps.head?.getD []
  let requestUnderstandingRequired ← requestIsRequired (Json.lookup firstStep "behavior")
  let messageOrderId := (Json.lookup firstStep "message_order_number").getD (ofText "O-1001")
  let nextMoveOrderId := (Json.lookup firstStep "next_move_order_number").getD messageOrderId
  let requestedToolName := (Json.lookup firstStep "requested_tool_name").getD (ofText "get_order")
  let invalidCandidate := EvalException.artifactContract "script candidate expectations are invalid"
  let some bindingOrderId := nonemptyText messageOrderId | throw invalidCandidate
  let some nextOrderId := nonemptyText nextMoveOrderId | throw invalidCandidate
  let some toolName := nonemptyText requestedToolName | throw invalidCandidate
  let taskForbidden := Json.lookup control "task_creation" == some (ofText "FORBIDDEN")
  let allowed {α : Type} (value : Option α) : Option α := if taskForbidden then none else value
  let taskStatus ← optionalEnum taskStatuses (·.value)
    (allowed (Json.lookup control "task_terminal_status"))
  let unitStatus ← optionalEnum taskStatuses (·.value)
    (allowed (Json.lookup control "request_unit_terminal_status"))
  let invalidCount := EvalException.artifactContract "script count expectations are invalid"
  let some toolCalls := (Json.lookup control "tool_calls").bind (intFrom 0) | throw invalidCount
  let some observations := (Json.lookup control "observation_records").bind (intFrom 0)
    | throw invalidCount
  let some modelCalls := (Json.lookup control "model_calls").bind (intFrom 0) | throw invalidCount
  let some presentationCalls := (Json.lookup control "presentation_model_calls").bind (intFrom 0)
    | throw invalidCount
  let statedGate ← optionalEnum [GateDecisionValue.accept, .reject] (·.value)
    (Json.lookup control "gate_decision")
  let gateDecision := statedGate.or (if toolCalls = 1 then some .accept else none)
  let gateReasonValue := match Json.lookup control "gate_reason_expectation" with
    | some (.object projection) => Json.lookup projection "canonical_reason_code"
    | _ => none
  let gateReason ← optionalEnum gateReasonCodes (·.value) gateReasonValue
  let toolStatus ← optionalEnum toolCallStatuses (·.value)
    (Json.lookup control "tool_call_terminal_status")
  let trace ← caseTraceExpectations evalCase script.modelScriptRef
  let criticalFailures ← (← elementsAt evalCase.expectations "critical_failure_refs").mapM
    (enumOf (List.finRange 14) criticalFailureValue)
  let some version :=
    (Json.lookup evalCase.versionManifest "tool_registry_version").bind nonemptyText
    | throw (.artifactContract "Case tool registry version is invalid")
  let statedOutcome ← subscript evalCase.expectations "expected_user_outcome"
  constructed {
    caseId := evalCase.caseId
    trustedCustomerId := ← trustedCustomerForCase artifacts evalCase
    expectedHttpStatus := ← intField (← subscript evalCase.expectations "expected_http_status")
    expectedOutcome :=
      ← enumOf agentOutcomes (·.value) ((Json.lookup control "user_outcome").getD statedOutcome)
    expectedRunStatus := ← enumOf agentRunStatuses (·.value) (← subscript control "run_status")
    expectedStopReason := ← enumOf stopReasons (·.value) (← subscript control "stop_reason")
    expectedResponsePolicy := ← textField (← subscript control "response_policy")
    requestUnderstandingRequired
    expectedBindingOrderId := some bindingOrderId.toList
    expectedNextMoveOrderId := some nextOrderId.toList
    expectedRequestedToolName := some toolName
    expectedTaskStatus := taskStatus
    expectedRequestUnitStatus := unitStatus
    expectedTaskStateVersion := allowed (terminalStateVersion control "task")
    expectedRequestUnitStateVersion := allowed (terminalStateVersion control "request_unit")
    expectedGateDecision := gateDecision
    expectedGateReason := gateReason
    expectedValidatedTaskStateVersion := if gateDecision.isSome then some 1 else none
    expectedToolCallStatus := toolStatus
    expectedToolCalls := toolCalls
    expectedObservations := observations
    expectedModelCalls := modelCalls
    expectedPresentationModelCalls := presentationCalls
    expectedMessageContent := (← trustedMessageContentForCase evalCase).toList
    expectedToolRegistryVersion := version
    expectedModelVisibleToolsetHash := expectedModelVisibleToolsetHash
    traceVariant := trace.variant
    requiredTraceEvents := trace.required
    forbiddenTraceEvents := trace.forbidden
    expectedEventCounts := trace.counts
    applicableCriticalFailures := criticalFailures }

end MiniAgent.Evaluation
