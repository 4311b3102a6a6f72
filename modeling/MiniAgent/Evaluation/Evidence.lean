import MiniAgent.Evaluation.Artifacts
import MiniAgent.Evaluation.SafeObservables

/-! # What a case is graded on

The evidence that a system under test reports and the expectations that the artifacts supply. The
system under test reports records without the identity of a case; the harness binds them to the case
that it executed.
-/

namespace MiniAgent.Evaluation

open MiniAgent.Core MiniAgent.Application ContractModel

structure TraceEventCountExpectation where
  eventType : TraceEventType
  count : ℕ
deriving DecidableEq, Repr

inductive TraceVariant
  | success
  | foreignOrder
  | nonexistentOrder
  | argumentBindingRejected
  | providerProtocolBeforeCandidate
  | inputValidationRejected
  | unknownToolGatewayRejected
  | staleStateGatewayRejected
  | presentationProtocolRejected
deriving DecidableEq, Repr

/-- Authenticated, artifact-derived assertions supplied by the harness. -/
structure EvalCaseExpectations where
  caseId : String
  trustedCustomerId : String
  expectedHttpStatus : ℕ
  expectedOutcome : AgentOutcome
  expectedRunStatus : AgentRunStatus
  expectedStopReason : StopReason
  expectedResponsePolicy : String
  requestUnderstandingRequired : Bool
  expectedBindingOrderId : Option Text := none
  expectedNextMoveOrderId : Option Text := none
  expectedRequestedToolName : Option String := none
  expectedTaskStatus : Option TaskStatus := none
  expectedRequestUnitStatus : Option TaskStatus := none
  expectedTaskStateVersion : Option ℕ := none
  expectedRequestUnitStateVersion : Option ℕ := none
  expectedGateDecision : Option GateDecisionValue := none
  expectedGateReason : Option GateReasonCode := none
  expectedValidatedTaskStateVersion : Option ℕ := none
  expectedToolCallStatus : Option ToolCallStatus := none
  expectedToolCalls : ℕ
  expectedObservations : ℕ
  expectedModelCalls : ℕ
  expectedPresentationModelCalls : ℕ
  expectedMessageContent : Text
  expectedToolRegistryVersion : String
  expectedModelVisibleToolsetHash : Text
  traceVariant : TraceVariant
  requiredTraceEvents : List TraceEventType
  forbiddenTraceEvents : List TraceEventType := []
  expectedEventCounts : List TraceEventCountExpectation := []
  applicableCriticalFailures : List CriticalFailureCode := []
deriving DecidableEq, Repr

namespace EvalCaseExpectations

variable (expectations : EvalCaseExpectations)

/-- The Task and RequestUnit expectations, which are all there or all absent. -/
def taskShape : List Bool :=
  [expectations.expectedTaskStatus.isNone, expectations.expectedRequestUnitStatus.isNone,
    expectations.expectedTaskStateVersion.isNone,
    expectations.expectedRequestUnitStateVersion.isNone]

def areClosedAndUnambiguous : Bool :=
  allDistinct expectations.requiredTraceEvents && allDistinct expectations.forbiddenTraceEvents &&
  allDistinct (expectations.expectedEventCounts.map (·.eventType)) &&
  allDistinct expectations.applicableCriticalFailures &&
  (expectations.requiredTraceEvents.all (· ∉ expectations.forbiddenTraceEvents)) &&
  (expectations.taskShape.all id || !expectations.taskShape.any id) &&
  (!expectations.requestUnderstandingRequired || (expectations.expectedBindingOrderId.isSome &&
    expectations.expectedNextMoveOrderId.isSome &&
      expectations.expectedRequestedToolName.isSome)) &&
  (if expectations.expectedToolCalls = 0 then expectations.expectedToolCallStatus.isNone
    else expectations.expectedToolCalls == 1 && expectations.expectedToolCallStatus.isSome) &&
  expectations.expectedGateDecision.isNone ==
    expectations.expectedValidatedTaskStateVersion.isNone &&
  decide (expectations.expectedPresentationModelCalls ≤ expectations.expectedModelCalls) &&
  decide (expectations.expectedPresentationModelCalls ≤ 1) &&
  (expectations.expectedPresentationModelCalls == 0 || (expectations.expectedTaskStatus.isSome &&
    expectations.expectedValidatedTaskStateVersion.isSome))

instance : ContractModel EvalCaseExpectations where
  validates expectations := decide (100 ≤ expectations.expectedHttpStatus) &&
    decide (expectations.expectedHttpStatus ≤ 599) &&
    ([expectations.expectedTaskStateVersion, expectations.expectedRequestUnitStateVersion,
      expectations.expectedValidatedTaskStateVersion].all (·.all (1 ≤ ·))) &&
    isToolsetHash expectations.expectedModelVisibleToolsetHash &&
      expectations.areClosedAndUnambiguous

end EvalCaseExpectations

instance : ContractModel SafeTraceShapeEntry where
  validates entry := 1 ≤ entry.count

instance : ContractModel SafeCaseObservable where
  validates observable := decide (100 ≤ observable.httpStatus) &&
    decide (observable.httpStatus ≤ 599) &&
    observable.ordinaryTraceShape.all ContractModel.validates

structure UnboundSafeCaseObservable where
  httpStatus : ℕ
  userOutcome : AgentOutcome
  responsePolicy : String
  ordinaryTraceShape : List SafeTraceShapeEntry
  modelCalls : ℕ
deriving DecidableEq, Repr

/-- The records that a system under test reports. -/
structure UnboundEvalEvidence where
  observedOutcome : AgentOutcome
  traceRef : Uuid
  traceEvents : List TraceEvent
  runRecord : Option AgentRunRecord := none
  agentResult : Option AgentRunResult := none
  conversationRecords : List ConversationRecord := []
  messageRecords : List MessageRecord := []
  inputBindings : List InputBinding := []
  taskRecords : List TaskRecord := []
  requestUnits : List RequestUnitRecord := []
  conversationTaskLinks : List ConversationTaskLinkRecord := []
  runTaskLinks : List RunTaskLinkRecord := []
  gateDecisions : List GateDecision := []
  toolCalls : List ToolCallRecord := []
  toolAttempts : List ToolAttemptRecord := []
  observations : List OrderObservation := []
  contextManifests : List ContextManifest := []
  modelVisibleToolsetArtifacts : List ModelVisibleToolsetArtifact := []
  requestUnderstandingRecordsV2 : List RequestUnderstandingRecordV2 := []
  acceptedTaskDeltasV2 : List AcceptedTaskDeltaV2 := []
  taskStateTransitions : List TaskStateTransition := []
deriving DecidableEq, Repr

/-- The records as evidence about a case. -/
structure EvalEvidence extends UnboundEvalEvidence where
  caseId : String
  safeObservable : Option SafeCaseObservable := none
deriving DecidableEq, Repr

namespace UnboundEvalEvidence

variable (evidence : UnboundEvalEvidence)

def recordsAreValid : Bool :=
  evidence.traceEvents.all validates && evidence.runRecord.all validates &&
    evidence.agentResult.all validates &&
  evidence.conversationRecords.all validates && evidence.messageRecords.all validates &&
  evidence.inputBindings.all validates && evidence.taskRecords.all validates &&
    evidence.requestUnits.all validates &&
  evidence.conversationTaskLinks.all validates && evidence.runTaskLinks.all validates &&
  evidence.gateDecisions.all validates && evidence.toolCalls.all validates &&
    evidence.toolAttempts.all validates &&
  evidence.observations.all validates && evidence.contextManifests.all validates &&
  evidence.modelVisibleToolsetArtifacts.all validates &&
    evidence.requestUnderstandingRecordsV2.all validates &&
  evidence.acceptedTaskDeltasV2.all validates && evidence.taskStateTransitions.all validates

def identitiesAreUnique : Bool :=
  allDistinct (evidence.conversationRecords.map (·.conversationId)) &&
  allDistinct (evidence.messageRecords.map (·.messageId)) &&
  allDistinct (evidence.inputBindings.map (·.bindingId)) &&
    allDistinct (evidence.taskRecords.map (·.taskId)) &&
  allDistinct (evidence.requestUnits.map (·.requestUnitId)) &&
  allDistinct (evidence.conversationTaskLinks.map fun link =>
    (link.conversationId, link.taskId, link.linkedAt.instant)) &&
  allDistinct (evidence.runTaskLinks.map fun link => (link.runId, link.taskId)) &&
  allDistinct (evidence.gateDecisions.map (·.gateDecisionId)) &&
  allDistinct (evidence.toolCalls.map (·.toolCallId)) &&
  allDistinct (evidence.toolAttempts.map fun attempt => (attempt.toolCallId, attempt.attemptNo)) &&
  allDistinct (evidence.observations.map (·.observationId)) &&
  allDistinct (evidence.contextManifests.map (·.contextManifestId)) &&
  allDistinct (evidence.modelVisibleToolsetArtifacts.map (·.modelVisibleToolsetHash)) &&
  allDistinct (evidence.requestUnderstandingRecordsV2.map (·.requestUnderstandingRecordId)) &&
  allDistinct (evidence.acceptedTaskDeltasV2.map (·.acceptedDeltaId)) &&
  allDistinct (evidence.taskStateTransitions.map fun transition =>
    (transition.taskId, transition.requestUnitId, transition.resultStateVersion))

/-- At most one Request Understanding record, whose accepted children and candidates close. -/
def understandingCloses : Bool :=
  match evidence.requestUnderstandingRecordsV2 with
  | [] => evidence.acceptedTaskDeltasV2.isEmpty && evidence.taskStateTransitions.isEmpty
  | [understanding] =>
    sameSet understanding.acceptedDeltaRefs
      (evidence.acceptedTaskDeltasV2.map (·.acceptedDeltaId)) &&
    ((evidence.acceptedTaskDeltasV2.map (·.candidateRef)).all
      (· ∈ understanding.taskDeltaCandidates.map (·.candidateId)))
  | _ => false

end UnboundEvalEvidence

instance : ContractModel EvalEvidence where
  validates evidence := evidence.recordsAreValid && evidence.safeObservable.all validates &&
    evidence.identitiesAreUnique && evidence.understandingCloses

/-- The evidence with another Trace. -/
def EvalEvidence.withTrace (evidence : EvalEvidence) (traceEvents : List TraceEvent) :
    EvalEvidence :=
  { evidence with traceEvents := traceEvents }

end MiniAgent.Evaluation
