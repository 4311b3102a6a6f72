import MiniAgent.Evaluation.Evidence
import MiniAgent.Evaluation.RendererFacts
import MiniAgent.Library.Keyed
import MiniAgent.Library.Outcome

/-! # The graders of typed records

Each grader compares the records of the evidence with the expectations of the case and names why it
fails. All of them first validate the evidence again. Three of them also read the Trace: their parts
that do take the Trace from the evidence, and the grader that reads nothing else is in another
module.
-/

namespace MiniAgent.Evaluation

open MiniAgent.Core MiniAgent.Application

/-- A grader's verdict: its reason is the one of the first assertion that fails. -/
abbrev Verdict := Except EvalGraderReasonCode Unit

/-- `return _failed(self.name, EvalGraderReasonCode.ASSERTION_FAILED)` unless the condition
holds. -/
def asserts (condition : Bool) : Verdict := Except.require condition .assertionFailed

/-- `return _failed(self.name, EvalGraderReasonCode.MISSING_RECORD)` unless the condition holds. -/
def present (condition : Bool) : Verdict := Except.require condition .missingRecord

/-- Fewer items than expected are missing, more are wrong. -/
def closedCount (actual expected : ℕ) : Verdict := do
  present (decide (expected ≤ actual))
  asserts (decide (actual ≤ expected))

section Graders

variable (evidence : EvalEvidence) (expectations : EvalCaseExpectations)

/-- The strict re-validation of the evidence that every grader starts with. -/
def validateGraderInputs : Verdict := asserts (ContractModel.validates evidence)

def schemaGrader : Verdict := do
  match evidence.runRecord, evidence.agentResult, evidence.safeObservable with
  | some runRecord, some agentResult, some safeObservable =>
    asserts (evidence.caseId == expectations.caseId && runRecord.runId == agentResult.runId &&
      runRecord.status == expectations.expectedRunStatus &&
      runRecord.stopReason == some expectations.expectedStopReason &&
      agentResult.outcome == evidence.observedOutcome &&
        evidence.observedOutcome == expectations.expectedOutcome &&
      safeObservable.caseId == evidence.caseId &&
        safeObservable.userOutcome == evidence.observedOutcome)
  | _, _, _ => throw .missingRecord

def identityBoundaryGrader : Verdict := do
  match evidence.conversationRecords, evidence.messageRecords with
  | [], _ | _, [] => throw .missingRecord
  | [conversation], [message] =>
    asserts (conversation.ownerCustomerId == expectations.trustedCustomerId &&
      message.conversationId == conversation.conversationId && message.direction == .user &&
      message.content == expectations.expectedMessageContent)
    if expectations.expectedTaskStatus.isNone then asserts evidence.taskRecords.isEmpty
    else present !evidence.taskRecords.isEmpty
    asserts (evidence.taskRecords.all (·.ownerCustomerId == expectations.trustedCustomerId))
    let some agentResult := evidence.agentResult | throw .missingRecord
    asserts !(decide (expectations.trustedCustomerId.toList <:+: agentResult.message))
  | _, _ => throw .assertionFailed

def v2EvidenceIsActive : Bool :=
  !evidence.requestUnderstandingRecordsV2.isEmpty || !evidence.acceptedTaskDeltasV2.isEmpty ||
    !evidence.taskStateTransitions.isEmpty

def v2SourceSpanIsValid (message : MessageRecord) (sourceRef : Uuid)
    (sourceSpanStart sourceSpanEndExclusive : ℕ) (sourceQuoteSha256 candidateValue : Text) : Bool :=
  sourceRef == message.messageId && decide (sourceSpanStart < sourceSpanEndExclusive) &&
    decide (sourceSpanEndExclusive ≤ message.content.length) &&
    let sourceQuote := (message.content.take sourceSpanEndExclusive).drop sourceSpanStart
    decide (candidateValue <:+: sourceQuote) && sha256Hexdigest sourceQuote == sourceQuoteSha256

def v2SourceProvenance : Verdict :=
  if !v2EvidenceIsActive evidence then pure ()
  else match evidence.requestUnderstandingRecordsV2, evidence.messageRecords with
  | [understanding], [message] => do
    asserts (understanding.messageRef == message.messageId &&
      sameSet understanding.contextualization.sourceMessageRefs [message.messageId])
    asserts ((understanding.contextualization.resolvedReferenceCandidates.all fun item =>
        v2SourceSpanIsValid message item.sourceRef item.sourceSpanStart item.sourceSpanEndExclusive
          item.sourceQuoteSha256 item.candidateValue) &&
      ((understanding.taskDeltaCandidates.flatMap (·.inputCandidates)).all fun item =>
        v2SourceSpanIsValid message item.sourceRef item.sourceSpanStart item.sourceSpanEndExclusive
          item.sourceQuoteSha256 item.candidateValue))
  | _, _ => throw .missingRecord

/-- The transitions of one Task lead from ACTIVE to its status, one version at a time. -/
def v2TaskTransitions (task : TaskRecord) (unit : RequestUnitRecord)
    (transitions : List TaskStateTransition) :
    Verdict := do
  closedCount transitions.length (task.stateVersion - 1)
  asserts (unit.status == task.status && unit.stateVersion == task.stateVersion)
  match transitions with
  | [] => asserts (task.status == .active)
  | first :: rest =>
    asserts (first.fromStatus == .active &&
      decide (task.createdAt.instant ≤ first.changedAt.instant))
    asserts (transitions.zipIdx.all fun (transition, index) =>
      transition.requestUnitId == unit.requestUnitId && transition.baseStateVersion == index + 1 &&
        transition.resultStateVersion == index + 2)
    asserts ((transitions.zip rest).all fun (current, following) =>
      current.toStatus == following.fromStatus &&
        decide (current.changedAt.instant ≤ following.changedAt.instant))
    let last := (first :: rest).getLast (List.cons_ne_nil first rest)
    asserts (last.toStatus == task.status && last.changedAt.instant == task.updatedAt.instant)

def v2TaskTransitionGraph : Verdict :=
  if !v2EvidenceIsActive evidence then pure ()
  else if evidence.taskRecords.isEmpty then
    asserts (evidence.taskStateTransitions.isEmpty && evidence.requestUnits.isEmpty)
  else do
    let taskIds := evidence.taskRecords.map (·.taskId)
    asserts (allDistinct (evidence.requestUnits.map (·.taskId)) &&
      evidence.requestUnits.all (·.taskId ∈ taskIds))
    present (evidence.taskRecords.all (·.taskId ∈ evidence.requestUnits.map (·.taskId)))
    asserts (evidence.taskStateTransitions.all (·.taskId ∈ taskIds))
    evidence.taskRecords.forM fun task => do
      let some unit := evidence.requestUnits.find? (·.taskId == task.taskId) | throw .missingRecord
      v2TaskTransitions task unit (evidence.taskStateTransitions.filter (·.taskId == task.taskId))

/-- The graph of one run with a Task: everything that its single records say about each other. -/
def v2RequestUnderstandingGraph : Verdict := do
  let expectedCount := if expectations.expectedTaskStatus.isSome then 1 else 0
  closedCount evidence.requestUnderstandingRecordsV2.length expectedCount
  closedCount evidence.acceptedTaskDeltasV2.length expectedCount
  closedCount evidence.conversationTaskLinks.length expectedCount
  closedCount evidence.runTaskLinks.length expectedCount
  if expectedCount = 0 then pure ()
  else match evidence.runRecord, evidence.conversationRecords, evidence.messageRecords,
      evidence.inputBindings,
      evidence.taskRecords, evidence.requestUnits, evidence.requestUnderstandingRecordsV2,
      evidence.acceptedTaskDeltasV2, evidence.conversationTaskLinks, evidence.runTaskLinks with
  | some runRecord, [conversation], [message], [binding], [task], [requestUnit], [understanding],
      [acceptedDelta],
      [conversationLink], [runLink] => do
    match understanding.taskDeltaCandidates with
    | [proposedDelta] =>
      match proposedDelta.inputCandidates with
      | [inputCandidate] => do
        v2SourceProvenance evidence
        v2TaskTransitionGraph evidence
        asserts (understanding.schemaVersion == "request_understanding_record.p0.v2" &&
          understanding.modelInputSchemaVersion == "e2e01-thin-v1" &&
          understanding.modelOutputSchemaVersion == "e2e01-thin-v2" &&
            understanding.runId == runRecord.runId &&
          understanding.messageRef == message.messageId &&
            understanding.proposedBaseTaskStateVersion.isNone &&
          understanding.validatedTaskStateVersion ==
            expectations.expectedValidatedTaskStateVersion &&
          understanding.nextMoveCandidateRef.isSome &&
            understanding.candidateValidation.length == 1 &&
          ((understanding.candidateValidation.filter (·.decision == .accept)).map (·.candidateRef)
            == [proposedDelta.candidateId]) &&
          understanding.acceptedDeltaRefs == [acceptedDelta.acceptedDeltaId])
        asserts (acceptedDelta.candidateRef == proposedDelta.candidateId &&
          acceptedDelta.messageRef == understanding.messageRef &&
            acceptedDelta.operation == proposedDelta.operation &&
          acceptedDelta.goalText == proposedDelta.goalPatch &&
            acceptedDelta.inputBindingRefs == [binding.bindingId] &&
          acceptedDelta.acceptedAt.instant == understanding.createdAt.instant &&
            acceptedDelta.taskId == task.taskId &&
          acceptedDelta.baseTaskStateVersion.isNone && acceptedDelta.resultTaskStateVersion == 1)
        asserts (inputCandidate.sourceRef == message.messageId &&
          binding.normalizedValue == inputCandidate.candidateValue &&
            binding.sourceRefs == [message.messageId] &&
          requestUnit.taskId == task.taskId && requestUnit.goalText == acceptedDelta.goalText &&
          requestUnit.goalSourceRefs == [message.messageId] &&
          requestUnit.inputBindingRefs == acceptedDelta.inputBindingRefs)
        asserts (conversationLink.schemaVersion == "conversation_task_link_record.p0.v1" &&
          conversationLink.conversationId == conversation.conversationId &&
            conversationLink.taskId == task.taskId &&
          conversationLink.linkReason != "" && conversationLink.endedAt.isNone &&
          runLink.schemaVersion == "run_task_link_record.p0.v1" &&
            runLink.runId == runRecord.runId &&
          runLink.taskId == task.taskId && runLink.baseTaskStateVersion.isNone &&
          runLink.resultTaskStateVersion == some task.stateVersion)
        asserts ((evidence.observations.filter (·.observationId ∈ requestUnit.observationRefs)).all
          (·.sourceResourceRef == inputCandidate.candidateValue))
      | _ => throw .assertionFailed
    | _ => throw .assertionFailed
  | _, _, _, _, _, _, _, _, _, _ => throw .missingRecord

def requestUnderstandingGrader : Verdict := do
  if !expectations.requestUnderstandingRequired then
    asserts (evidence.requestUnderstandingRecordsV2.isEmpty &&
      evidence.acceptedTaskDeltasV2.isEmpty)
  else match evidence.requestUnderstandingRecordsV2 with
  | [] => throw .missingRecord
  | [understanding] =>
    match understanding.taskDeltaCandidates with
    | [delta] =>
      match delta.inputCandidates with
      | [candidate] => do
        asserts (some candidate.candidateValue == expectations.expectedBindingOrderId &&
          candidate.authority == .userClaim && candidate.sourceRef == understanding.messageRef &&
          ((understanding.candidateValidation.filter (·.decision == .accept)).map (·.candidateRef)
            == [delta.candidateId]) &&
          understanding.proposedBaseTaskStateVersion.isNone &&
          understanding.validatedTaskStateVersion ==
            expectations.expectedValidatedTaskStateVersion &&
          understanding.nextMoveCandidateRef.isSome &&
          sameSet (evidence.inputBindings.map fun binding => some binding.normalizedValue)
            [expectations.expectedBindingOrderId] &&
          (expectations.expectedRequestedToolName.all fun toolName =>
            sameSet (evidence.gateDecisions.map (·.requestedProviderToolName)) [toolName]))
        v2RequestUnderstandingGraph evidence expectations
      | _ => throw .assertionFailed
    | _ => throw .assertionFailed
  | _ => throw .assertionFailed

def inputBindingGrader : Verdict := do
  if expectations.expectedTaskStatus.isNone then asserts evidence.inputBindings.isEmpty
  else match evidence.inputBindings, evidence.requestUnderstandingRecordsV2 with
  | [binding], [understanding] =>
    asserts (some binding.normalizedValue == expectations.expectedBindingOrderId &&
      binding.authority == .userClaim && binding.sourceRefs == [understanding.messageRef] &&
        binding.confirmedByUser &&
      evidence.requestUnits.all (binding.bindingId ∈ ·.inputBindingRefs))
  | _ :: _ :: _, [_] => throw .assertionFailed
  | _, _ => throw .missingRecord

def taskStateGrader : Verdict := do
  if expectations.expectedTaskStatus.isNone then
    asserts (evidence.taskRecords.isEmpty && evidence.requestUnits.isEmpty)
  else match evidence.taskRecords, evidence.requestUnits with
  | [], _ | _, [] => throw .missingRecord
  | [task], [unit] =>
    asserts (unit.taskId == task.taskId && some task.status == expectations.expectedTaskStatus &&
      some unit.status == expectations.expectedRequestUnitStatus &&
      some task.stateVersion == expectations.expectedTaskStateVersion &&
      some unit.stateVersion == expectations.expectedRequestUnitStateVersion &&
        !unit.inputBindingRefs.isEmpty)
  | _, _ => throw .assertionFailed

def conversationGraph : Verdict := do
  closedCount evidence.conversationRecords.length 1
  closedCount evidence.messageRecords.length 1
  match evidence.runRecord, evidence.conversationRecords, evidence.messageRecords with
  | some runRecord, [conversation], [message] => do
    asserts (conversation.schemaVersion == "conversation_record.p0.v1" &&
      conversation.ownerCustomerId == expectations.trustedCustomerId &&
      message.schemaVersion == "message_record.p0.v1" &&
        message.conversationId == conversation.conversationId &&
      message.direction == .user && message.content == expectations.expectedMessageContent &&
      runRecord.conversationId == some conversation.conversationId)
    match evidence.requestUnderstandingRecordsV2 with
    | [understanding] => do
      asserts (understanding.messageRef == message.messageId)
      v2SourceProvenance evidence
    | _ => pure ()
    asserts (evidence.inputBindings.all (·.sourceRefs == [message.messageId]))
    asserts (evidence.requestUnits.all (·.goalSourceRefs == [message.messageId]))
  | _, _, _ => throw .missingRecord

/-- Every `ToolAttemptRecord` of a call, by attempt number. -/
def attemptsOf (toolCallId : Uuid) : List ToolAttemptRecord :=
  (evidence.toolAttempts.filter (·.toolCallId == toolCallId)).insertionSort
    (·.attemptNo ≤ ·.attemptNo)

/-- The outcomes that a finished call may have ended with; `final_outcomes`. -/
def finalOutcomes : ToolCallStatus → List ToolResultOutcome
  | .succeeded => [.success]
  | .failed => [.businessFailure, .systemFailure]
  | .timedOut => [.timeout]
  | .created | .running | .interrupted => []

def attemptIsFinished (attempt : ToolAttemptRecord) : Bool :=
  attempt.finishedAt.isSome && attempt.outcome.isSome

/-- One call and its attempts. -/
def toolAttemptsClose (call : ToolCallRecord) (attempts : List ToolAttemptRecord) : Verdict := do
  asserts (attempts.map (·.attemptNo) == List.range' 1 call.attemptCount)
  asserts ((attempts.all fun attempt =>
    decide (call.startedAt.instant ≤ attempt.startedAt.instant)) &&
    (attempts.zip attempts.tail).all fun (current, following) =>
      decide (current.startedAt.instant ≤ following.startedAt.instant))
  match call.status, attempts.getLast? with
  | .created, _ => pure ()
  | .running, some last =>
    asserts (last.finishedAt.isNone && last.outcome.isNone &&
      attempts.dropLast.all attemptIsFinished)
  | .interrupted, some last =>
    asserts (attempts.dropLast.all attemptIsFinished)
    asserts (last.finishedAt.isNone || (last.outcome == some .interrupted &&
      call.finishedAt.map (·.instant) == last.finishedAt.map (·.instant)))
  | .interrupted, none => pure ()
  | status, some last =>
    asserts (attempts.all attemptIsFinished && last.outcome.any (· ∈ finalOutcomes status) &&
      call.finishedAt.map (·.instant) == last.finishedAt.map (·.instant) &&
        call.failureCode == last.failureCode)
  | _, none => throw .assertionFailed

def attemptTotal (calls : List ToolCallRecord) : ℕ :=
  calls.foldl (fun total call => total + call.attemptCount) 0

def toolAttemptGraph : Verdict := do
  closedCount evidence.toolAttempts.length (attemptTotal evidence.toolCalls)
  asserts (decide (attemptTotal (evidence.toolCalls.filter (·.canonicalToolName == "get_order")) ≤
    1))
  asserts (evidence.toolAttempts.all (·.toolCallId ∈ evidence.toolCalls.map (·.toolCallId)))
  evidence.toolCalls.forM fun call => toolAttemptsClose call (attemptsOf evidence call.toolCallId)

/-- The manifest of the gate's model call is that of the Request Understanding call. -/
def gateManifestIsClosed (runRecord : AgentRunRecord) (understanding : RequestUnderstandingRecordV2)
    (gate : GateDecision) : Bool :=
  (Keyed.lastByKey (·.contextManifestId) evidence.contextManifests gate.contextManifestId).any
      fun manifest =>
    manifest.runId == runRecord.runId && manifest.modelCallId == gate.modelCallId &&
      manifest.selectedMessageRefs == [understanding.messageRef] &&
        manifest.taskStateRefAndVersion.isNone &&
      manifest.observationRefsAndVersions.isEmpty &&
      manifest.modelVisibleToolsetHash == expectations.expectedModelVisibleToolsetHash &&
      manifest.toolRegistryVersion == expectations.expectedToolRegistryVersion

def toolGraphIsClosed : Bool :=
  if expectations.expectedGateDecision.isNone then evidence.gateDecisions.isEmpty &&
    evidence.toolCalls.isEmpty
  else match evidence.gateDecisions, evidence.inputBindings, evidence.taskRecords,
      evidence.requestUnits,
      evidence.runRecord, evidence.requestUnderstandingRecordsV2 with
  | [gate], [binding], [task], [unit], some runRecord, [understanding] =>
    let expectedResolvedName :=
      if expectations.expectedGateReason = some .toolNotRegistered then none else some "get_order"
    gateManifestIsClosed evidence expectations runRecord understanding gate &&
    some gate.decision == expectations.expectedGateDecision &&
      gate.reasonCode == expectations.expectedGateReason &&
    some gate.requestedProviderToolName == expectations.expectedRequestedToolName &&
    gate.resolvedCanonicalToolName == expectedResolvedName &&
      gate.argumentBindingRefs == [binding.bindingId] &&
    gate.validatedTaskStateVersion == expectations.expectedValidatedTaskStateVersion &&
    gate.proposedBaseTaskStateVersion.isNone && unit.taskId == task.taskId &&
    unit.inputBindingRefs == [binding.bindingId] &&
    if expectations.expectedToolCalls = 0 then evidence.toolCalls.isEmpty
    else match evidence.toolCalls with
    | [call] =>
      call.runId == runRecord.runId && call.taskId == task.taskId &&
        call.requestUnitId == unit.requestUnitId &&
      call.gateDecisionId == gate.gateDecisionId && call.modelCallId == gate.modelCallId &&
      call.contextManifestId == gate.contextManifestId &&
        call.providerToolCallId == gate.providerToolCallId &&
      call.canonicalToolName == "get_order" &&
        call.toolRegistryVersion == expectations.expectedToolRegistryVersion &&
      some call.validatedTaskStateVersion == expectations.expectedValidatedTaskStateVersion &&
      call.argumentBindingRefs == gate.argumentBindingRefs && call.effect == .read &&
      some call.status == expectations.expectedToolCallStatus
    | _ => false
  | _, _, _, _, _, _ => false

def toolCallGrader : Verdict := do
  if expectations.expectedGateDecision.isNone then asserts evidence.gateDecisions.isEmpty
  else closedCount evidence.gateDecisions.length 1
  closedCount evidence.toolCalls.length expectations.expectedToolCalls
  toolAttemptGraph evidence
  if expectations.expectedGateDecision.isNone then pure ()
  else
    present (evidence.runRecord.isSome && !evidence.requestUnderstandingRecordsV2.isEmpty &&
      !evidence.inputBindings.isEmpty && !evidence.taskRecords.isEmpty &&
        !evidence.requestUnits.isEmpty &&
      !evidence.contextManifests.isEmpty)
    asserts (evidence.inputBindings.length == 1 && evidence.taskRecords.length == 1 &&
      evidence.requestUnits.length == 1)
    asserts (toolGraphIsClosed evidence expectations)

/-- `_FIXED_MESSAGES` -/
def fixedMessage : String → Option Text
  | "FIXED_NOT_FOUND_OR_NOT_ACCESSIBLE" => some "未找到可访问的订单，请核对订单号后重试。".toList
  | "FIXED_ORDER_SERVICE_UNAVAILABLE" => some "订单服务暂时不可用，请稍后重试。".toList
  | "FIXED_SAFE_PROCESSING_ERROR" => some "当前无法安全处理该请求，请稍后重试。".toList
  | _ => none

def disclosureGrader : Verdict := do
  match evidence.safeObservable, evidence.agentResult with
  | some observable, some result => do
    asserts (observable.httpStatus == expectations.expectedHttpStatus &&
      observable.userOutcome == expectations.expectedOutcome &&
      observable.responsePolicy == expectations.expectedResponsePolicy &&
      observable.modelCalls == expectations.expectedModelCalls)
    asserts ((fixedMessage expectations.expectedResponsePolicy).all (result.message == ·))
    asserts ([expectations.trustedCustomerId, "customer_id", "raw_payload",
        "raw_result"].all fun fragment =>
      !(decide (fragment.toList <:+: result.message)))
    asserts !(expectations.expectedResponsePolicy == "FIXED_NOT_FOUND_OR_NOT_ACCESSIBLE" &&
      expectations.expectedBindingOrderId.any fun orderId => decide (orderId <:+: result.message))
  | _, _ => throw .missingRecord

def rendererFactGrader : Verdict := do
  let some agentResult := evidence.agentResult | throw .missingRecord
  if expectations.expectedResponsePolicy != "DETERMINISTIC_ORDER_SUMMARY_V1" then
    asserts (fixedMessage expectations.expectedResponsePolicy == some agentResult.message)
  else match gradeRenderedFacts evidence.observations agentResult.message with
  | .passed => pure ()
  | .missingRecord => throw .missingRecord
  | .assertionFailed => throw .assertionFailed

def errorMappingGrader : Verdict := do
  match evidence.runRecord, evidence.agentResult, evidence.safeObservable with
  | some runRecord, some agentResult, some safeObservable => do
    asserts (runRecord.stopReason == some expectations.expectedStopReason &&
      agentResult.outcome == expectations.expectedOutcome &&
      safeObservable.responsePolicy == expectations.expectedResponsePolicy)
    asserts ((fixedMessage expectations.expectedResponsePolicy).all (agentResult.message == ·))
  | _, _, _ => throw .missingRecord

end Graders

end MiniAgent.Evaluation
