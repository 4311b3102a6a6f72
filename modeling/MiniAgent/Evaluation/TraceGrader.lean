import MiniAgent.Evaluation.Graders

/-! # The graders that read the Trace

The observation, persistence and toolset graders read the Trace next to the records. The
completeness grader reads the Trace for itself: how many events of each type it has, which event
comes before which, and that every reference of an event names a record.
-/

namespace MiniAgent.Evaluation

open MiniAgent.Core MiniAgent.Application

section Graders

variable (evidence : EvalEvidence) (expectations : EvalCaseExpectations)

/-- The events of one type, in the order of the Trace. -/
def eventsOf (eventType : TraceEventType) : List TraceEvent :=
  evidence.traceEvents.filter (·.eventType == eventType)

def requestUnitObservationGraph : Verdict :=
  match evidence.requestUnits with
  | [] => pure ()
  | [unit] => do
    let authoritativeIds := evidence.observations.map (·.observationId)
    present !(decide (unit.observationRefs.length < authoritativeIds.length) &&
      unit.observationRefs.all (· ∈ authoritativeIds))
    asserts (allDistinct unit.observationRefs && sameSet unit.observationRefs authoritativeIds)
  | _ => throw .assertionFailed

def v2LogicalObservationGraph : Verdict :=
  let unitRefs := evidence.requestUnits.flatMap (·.observationRefs)
  let manifestRefs := evidence.contextManifests.flatMap (·.observationRefsAndVersions)
  let recorded := eventsOf evidence .observationRecorded
  if evidence.observations.isEmpty then
    asserts (unitRefs.isEmpty && manifestRefs.isEmpty && recorded.isEmpty)
  else match evidence.observations, evidence.taskRecords, evidence.requestUnits, evidence.toolCalls,
      evidence.inputBindings with
  | [observation], [task], [unit], [call], [binding] => do
    asserts (unit.taskId == task.taskId && unit.observationRefs == [observation.observationId] &&
      call.taskId == task.taskId && call.requestUnitId == unit.requestUnitId &&
        call.status == .succeeded &&
      call.effect == .read && call.canonicalToolName == observation.sourceTool &&
      observation.sourceResourceRef == binding.normalizedValue)
    present !manifestRefs.isEmpty
    asserts ((manifestRefs.all fun item =>
        item.recordRef == observation.observationId &&
          some item.version == observation.sourceVersion) &&
      sameSet (manifestRefs.map (·.recordRef)) [observation.observationId])
    asserts ((recorded.filter (·.observationRef == some observation.observationId)).length == 1)
  | _, _, _, _, _ => throw .assertionFailed

def observationPersistenceGraph : Verdict := do
  asserts (evidence.observations.all ContractModel.validates)
  v2LogicalObservationGraph evidence

def observationGrader : Verdict := do
  closedCount evidence.observations.length expectations.expectedObservations
  observationPersistenceGraph evidence
  match evidence.observations with
  | [] => pure ()
  | observation :: _ =>
    match evidence.toolCalls with
    | [] => throw .missingRecord
    | [call] =>
      asserts (observation.sourceTool == "get_order" &&
        some observation.sourceResourceRef == expectations.expectedBindingOrderId &&
        some observation.normalizedValue.orderNumber == expectations.expectedBindingOrderId &&
        observation.visibility != .auditOnly && call.status == .succeeded)
    | _ => throw .assertionFailed

def requestUnderstandingPurpose : String := "REQUEST_UNDERSTANDING"

def presentationPurpose : String := "PRESENTATION"

/-- The purposes of the expected model calls. -/
def expectedPurposes : List (Option String) :=
  List.replicate (expectations.expectedModelCalls - expectations.expectedPresentationModelCalls)
      (some requestUnderstandingPurpose) ++
    List.replicate expectations.expectedPresentationModelCalls (some presentationPurpose)

/-- `purpose_by_manifest_id.get(context_manifest_id)` -/
def purposeOfManifest (contextManifestId : Uuid) : Option String :=
  (Keyed.lastByKey (·.contextManifestId) (eventsOf evidence .contextManifestRecorded)
    (some contextManifestId)).bind
    (·.modelCallPurpose)

def gatesUseRequestUnderstanding : Bool :=
  evidence.gateDecisions.all fun gate =>
    purposeOfManifest evidence gate.contextManifestId == some requestUnderstandingPurpose

/-- What the manifest of a model call selected, by the purpose of the call. -/
def manifestSelects (manifest : ContextManifest) (modelCallPurpose : Option String) : Verdict :=
  if modelCallPurpose = some requestUnderstandingPurpose then
    asserts (manifest.taskStateRefAndVersion.isNone && manifest.observationRefsAndVersions.isEmpty)
  else match manifest.taskStateRefAndVersion with
  | none => throw .missingRecord
  | some taskRef => do
    asserts ((evidence.taskRecords.map (·.taskId)).dedup == [taskRef.taskId] &&
      some taskRef.stateVersion == expectations.expectedValidatedTaskStateVersion)
    let expected := evidence.observations.map fun observation =>
      (observation.observationId, observation.sourceVersion)
    let actual := manifest.observationRefsAndVersions.map fun item =>
      (item.recordRef, some item.version)
    present (decide (expected.length ≤ actual.length))
    asserts (actual == expected && actual.all fun (recordRef, version) =>
      (Keyed.lastByKey (·.observationId) evidence.observations recordRef).any
        (·.sourceVersion == version))

/-- The manifest that the event reports, and what it selected. -/
def manifestOfEvent (runRecord : AgentRunRecord) (message : MessageRecord) (event : TraceEvent) :
    Verdict := do
  let some manifest :=
    Keyed.lastByKey (fun manifest => some manifest.contextManifestId) evidence.contextManifests
    event.contextManifestId | throw .assertionFailed
  asserts (manifest.runId == runRecord.runId && some manifest.modelCallId == event.modelCallId &&
    manifest.selectedMessageRefs == [message.messageId] &&
    manifest.toolRegistryVersion == expectations.expectedToolRegistryVersion &&
    manifest.modelVisibleToolsetHash == expectations.expectedModelVisibleToolsetHash &&
    manifest.evidenceRefsAndVersions.isEmpty && manifest.actionRecordRefs.isEmpty)
  manifestSelects evidence expectations manifest event.modelCallPurpose

def contextManifestGraph : Verdict := do
  closedCount evidence.contextManifests.length expectations.expectedModelCalls
  let contextEvents := eventsOf evidence .contextManifestRecorded
  closedCount contextEvents.length expectations.expectedModelCalls
  if evidence.contextManifests.isEmpty then pure ()
  else match evidence.runRecord, evidence.messageRecords with
  | some runRecord, [message] => do
    present (contextEvents.all fun event => event.contextManifestId.isSome &&
      event.modelCallId.isSome &&
      event.modelCallPurpose.isSome && event.toolRegistryVersion.isSome &&
        event.modelVisibleToolsetHash.isSome)
    asserts (allDistinct (contextEvents.map (·.contextManifestId)) &&
      allDistinct (contextEvents.map (·.modelCallId)))
    asserts ((contextEvents.map (·.modelCallPurpose)).isPerm (expectedPurposes expectations))
    asserts (sameSet (contextEvents.map (·.contextManifestId))
      (evidence.contextManifests.map fun manifest => some manifest.contextManifestId))
    asserts (gatesUseRequestUnderstanding evidence)
    contextEvents.forM (manifestOfEvent evidence expectations runRecord message)
  | _, _ => throw .missingRecord

def persistenceGrader : Verdict := do
  let some runRecord := evidence.runRecord | throw .missingRecord
  conversationGraph evidence expectations
  v2RequestUnderstandingGraph evidence expectations
  v2TaskTransitionGraph evidence
  present (expectations.expectedTaskStatus.isNone ||
    (!evidence.taskRecords.isEmpty && !evidence.requestUnits.isEmpty &&
      !evidence.inputBindings.isEmpty))
  asserts (expectations.expectedTaskStatus.isNone || (evidence.taskRecords.length == 1 &&
    evidence.requestUnits.length == 1 && evidence.inputBindings.length == 1))
  closedCount evidence.observations.length expectations.expectedObservations
  requestUnitObservationGraph evidence
  observationPersistenceGraph evidence
  contextManifestGraph evidence expectations
  if expectations.expectedGateDecision.isSome then
    closedCount evidence.gateDecisions.length 1
    asserts (toolGraphIsClosed evidence expectations)
  else asserts (evidence.gateDecisions.isEmpty && evidence.toolCalls.isEmpty)
  toolAttemptGraph evidence
  asserts (evidence.toolCalls.all (·.runId == runRecord.runId) &&
    evidence.contextManifests.all (·.runId == runRecord.runId))
  match evidence.taskRecords, evidence.requestUnits with
  | task :: _, unit :: _ =>
    asserts (unit.taskId == task.taskId &&
      sameSet unit.inputBindingRefs (evidence.inputBindings.map (·.bindingId)) &&
      evidence.toolCalls.all (·.taskId == task.taskId) &&
      evidence.toolCalls.all (·.requestUnitId == unit.requestUnitId))
  | _, _ => pure ()

def toolsetReplayGrader : Verdict := do
  closedCount evidence.contextManifests.length expectations.expectedModelCalls
  if evidence.contextManifests.isEmpty then asserts evidence.modelVisibleToolsetArtifacts.isEmpty
  else match evidence.modelVisibleToolsetArtifacts with
  | [] => throw .missingRecord
  | [artifact] => do
    let some recomputedHash := computeModelVisibleToolsetHash artifact.providerVisibleToolSpecs
      | throw .assertionFailed
    asserts (artifact.modelVisibleToolsetHash == recomputedHash &&
      recomputedHash == expectations.expectedModelVisibleToolsetHash &&
      evidence.contextManifests.all (·.modelVisibleToolsetHash == recomputedHash) &&
      evidence.contextManifests.all
        (·.toolRegistryVersion == expectations.expectedToolRegistryVersion))
    asserts (sameSet
      ((eventsOf evidence .contextManifestRecorded).map fun event =>
        (event.contextManifestId, event.modelVisibleToolsetHash, event.toolRegistryVersion))
      (evidence.contextManifests.map fun manifest =>
        (some manifest.contextManifestId, some manifest.modelVisibleToolsetHash,
          some manifest.toolRegistryVersion)))
  | _ => throw .assertionFailed

end Graders

/-- The `occurrence`-th event of a type, among those with the purpose if one is given. -/
structure TraceNode where
  eventType : TraceEventType
  occurrence : ℕ := 1
  modelCallPurpose : Option String := none
deriving DecidableEq, Repr

abbrev TraceEdge := TraceNode × TraceNode

/-- Each node before the next one. -/
def chain (nodes : List TraceNode) : List TraceEdge := nodes.zip nodes.tail

private def node (eventType : TraceEventType) (occurrence : ℕ := 1) : TraceNode :=
  { eventType, occurrence }

def requestUnderstandingManifest : TraceNode :=
  { eventType := .contextManifestRecorded, modelCallPurpose := some requestUnderstandingPurpose }

def presentationManifest : TraceNode :=
  { eventType := .contextManifestRecorded, modelCallPurpose := some presentationPurpose }

def commonTraceEdges : List TraceEdge :=
  chain [node .messageAccepted, node .runStarted, node .requestUnderstandingStarted,
    requestUnderstandingManifest]

/-- `_CANDIDATE_TRACE_EDGES` without its last edge. -/
def revalidatedTraceEdges : List TraceEdge :=
  chain [requestUnderstandingManifest, node .nextMoveProposed, node .taskDeltaValidated,
    node .taskDeltaAccepted, node .inputBindingRecorded, node .taskStateChanged 1,
    node .nextMoveRevalidated]

def candidateTraceEdges : List TraceEdge :=
  revalidatedTraceEdges ++ [(node .nextMoveRevalidated, node .gateDecisionRecorded)]

def tasklessTerminalEdges : List TraceEdge :=
  chain [requestUnderstandingManifest, node .responseRendered, node .runStopped,
    node .evalCaseGraded]

def gatewayTerminalEdges : List TraceEdge :=
  chain [node .gateDecisionRecorded, node .responseRendered, node .taskStateChanged 2,
    node .runStopped, node .evalCaseGraded]

def failedToolEdges : List TraceEdge :=
  chain [node .gateDecisionRecorded, node .toolCallCreated, node .toolCallStarted,
    node .toolCallFailed, node .toolResultNormalized, node .responseRendered,
    node .taskStateChanged 2, node .runStopped,
    node .evalCaseGraded]

def successToolEdges : List TraceEdge :=
  chain [node .gateDecisionRecorded, node .toolCallCreated, node .toolCallStarted,
    node .toolCallSucceeded, node .toolResultNormalized, node .observationRecorded,
    presentationManifest]

def answeredEdges : List TraceEdge :=
  chain [node .responseRendered, node .taskStateChanged 2, node .runStopped, node .evalCaseGraded]

/-- `_TRACE_EDGES_BY_VARIANT` -/
def traceEdges : TraceVariant → List TraceEdge
  | .success => commonTraceEdges ++ candidateTraceEdges ++ successToolEdges ++
      chain [presentationManifest, node .presentationPlanProposed, node .responseRendered] ++
        answeredEdges
  | .foreignOrder | .nonexistentOrder => commonTraceEdges ++ candidateTraceEdges ++ failedToolEdges
  | .argumentBindingRejected | .unknownToolGatewayRejected =>
      commonTraceEdges ++ candidateTraceEdges ++ gatewayTerminalEdges
  | .providerProtocolBeforeCandidate | .inputValidationRejected =>
    commonTraceEdges ++ tasklessTerminalEdges
  | .staleStateGatewayRejected => commonTraceEdges ++ revalidatedTraceEdges ++
      chain [node .nextMoveRevalidated, node .taskStateChanged 2, node .gateDecisionRecorded,
        node .responseRendered, node .taskStateChanged 3, node .runStopped, node .evalCaseGraded]
  | .presentationProtocolRejected => commonTraceEdges ++ candidateTraceEdges ++ successToolEdges ++
      [(presentationManifest, node .responseRendered),
        (node .observationRecorded, node .responseRendered)] ++
      answeredEdges

/-- Every Trace event type but `REQUEST_UNDERSTANDING_STARTED`, in the order of the enumeration. -/
def safetyCriticalTraceTypes : List TraceEventType :=
  [.messageAccepted, .runStarted, .contextManifestRecorded, .nextMoveProposed, .taskDeltaValidated,
    .taskDeltaAccepted, .inputBindingRecorded, .taskStateChanged, .nextMoveRevalidated,
    .gateDecisionRecorded,
    .toolCallCreated, .toolCallStarted, .toolCallSucceeded, .toolCallFailed, .toolCallTimedOut,
    .toolCallInterrupted,
    .toolResultNormalized, .observationRecorded, .presentationPlanProposed, .responseRendered,
    .runStopped,
    .evalCaseGraded]

/-- How many events of a type the variant has: the last occurrence it names, for each purpose. -/
def expectedSafetyEventCount (variant : TraceVariant) (eventType : TraceEventType) : ℕ :=
  let nodes :=
    ((traceEdges variant).flatMap fun edge => [edge.1, edge.2]).filter (·.eventType == eventType)
  let lastOccurrence (purpose : Option String) : ℕ :=
    ((nodes.filter (·.modelCallPurpose == purpose)).map (·.occurrence)).foldl max 0
  ((nodes.map (·.modelCallPurpose)).dedup.map lastOccurrence).foldl (· + ·) 0

def traceSafetyCardinality (events : List TraceEvent) (variant : TraceVariant) : Verdict := do
  let actual (eventType : TraceEventType) : ℕ := events.countP (·.eventType == eventType)
  Except.require (safetyCriticalTraceTypes.all fun eventType =>
    decide (expectedSafetyEventCount variant eventType ≤ actual eventType)) .traceEventMissing
  asserts (safetyCriticalTraceTypes.all fun eventType =>
    decide (actual eventType ≤ expectedSafetyEventCount variant eventType))

def traceNodeIndex (events : List TraceEvent) (wanted : TraceNode) : Option ℕ :=
  ((events.zipIdx.filter fun (event, _) => event.eventType == wanted.eventType &&
    wanted.modelCallPurpose.all (event.modelCallPurpose == some ·)).map
      (·.2))[wanted.occurrence - 1]?

def tracePrecedence (events : List TraceEvent) (variant : TraceVariant) : Verdict :=
  (traceEdges variant).forM fun (before, after) =>
    match traceNodeIndex events before, traceNodeIndex events after with
    | some beforeIndex, some afterIndex => asserts (decide (beforeIndex < afterIndex))
    | _, _ => throw .traceEventMissing

section Trace

variable (evidence : EvalEvidence) (expectations : EvalCaseExpectations)

/-- The lifecycle events of a call, by its status. -/
def expectedLifecycle (call : ToolCallRecord) : List TraceEventType :=
  match call.status with
  | .created => [.toolCallCreated]
  | .running => [.toolCallCreated, .toolCallStarted]
  | .succeeded => [.toolCallCreated, .toolCallStarted, .toolCallSucceeded]
  | .failed => [.toolCallCreated, .toolCallStarted, .toolCallFailed]
  | .timedOut => [.toolCallCreated, .toolCallStarted, .toolCallTimedOut]
  | .interrupted => if call.attemptCount = 0 then [.toolCallCreated, .toolCallInterrupted]
      else [.toolCallCreated, .toolCallStarted, .toolCallInterrupted]

def toolLifecycleReferencesMatch : Bool :=
  let lifecycleEvents := evidence.traceEvents.filter fun event =>
    (toolTraceStatus event.eventType).isSome
  sameSet (lifecycleEvents.map (·.toolCallId))
    (evidence.toolCalls.map fun call => some call.toolCallId) &&
  (lifecycleEvents.all fun event => event.toolCallTerminalStatus ==
    toolTraceStatus event.eventType) &&
  evidence.toolCalls.all fun call =>
    (lifecycleEvents.filter (·.toolCallId == some call.toolCallId)).map (·.eventType) ==
      expectedLifecycle call

/-- The outcomes that the normalized result of a terminal call may have; `terminal_outcomes`. -/
def terminalOutcomes : ToolCallStatus → List ToolResultOutcome
  | .interrupted => [.interrupted]
  | status => finalOutcomes status

/-- The `TOOL_RESULT_NORMALIZED` events with their positions in the Trace. -/
def normalizedResults : List (TraceEvent × ℕ) :=
  evidence.traceEvents.zipIdx.filter fun (event, _) => event.eventType == .toolResultNormalized

def normalizedOf (toolCallId : Uuid) : Option (TraceEvent × ℕ) :=
  (normalizedResults evidence).find? fun (event, _) => event.toolCallId == some toolCallId

/-- The last attempt of a terminal call ended as its normalized result says. -/
def lastAttemptMatches (call : ToolCallRecord) (normalizedOutcome : ToolResultOutcome)
    (attempts : List ToolAttemptRecord) : Bool :=
  if call.status == .interrupted && call.attemptCount == 0 then attempts.isEmpty
  else attempts.getLast?.any fun last =>
    if call.status == .interrupted then
      (last.outcome.all (· == .interrupted)) && !(last.outcome.isNone && last.finishedAt.isSome) &&
        !(last.outcome == some .interrupted && last.finishedAt.isNone)
    else last.outcome == some normalizedOutcome

def normalizedCallMatches (call : ToolCallRecord) : Bool :=
  let attempts := attemptsOf evidence call.toolCallId
  attempts.map (·.attemptNo) == List.range' 1 call.attemptCount &&
  match normalizedOf evidence call.toolCallId with
  | none => !call.status.isTerminal
  | some (event, _) => call.status.isTerminal && event.safeToolOutcome.any fun normalizedOutcome =>
      decide (normalizedOutcome ∈ terminalOutcomes call.status) &&
        lastAttemptMatches call normalizedOutcome attempts

def normalizedToolResultMatchesTypedRecords : Bool :=
  let normalized := normalizedResults evidence
  (normalized.all fun (event, _) => event.toolCallId.isSome && event.safeToolOutcome.isSome) &&
  allDistinct (normalized.map (·.1.toolCallId)) &&
  evidence.toolAttempts.all (·.toolCallId ∈ evidence.toolCalls.map (·.toolCallId)) &&
  evidence.toolCalls.all (normalizedCallMatches evidence) &&
  sameSet (normalized.map (·.1.toolCallId))
    ((evidence.toolCalls.filter (·.status.isTerminal)).map fun call => some call.toolCallId) &&
  evidence.observations.length == evidence.toolCalls.countP (·.status == .succeeded) &&
  evidence.traceEvents.zipIdx.all fun (event, index) =>
    event.eventType == .toolResultNormalized || event.safeToolOutcome.isNone ||
      (event.toolCallId.bind (normalizedOf evidence)).any fun (result, resultIndex) =>
        decide (resultIndex < index) && event.safeToolOutcome == result.safeToolOutcome

def gateProjectionsMatch : Bool :=
  ((eventsOf evidence .gateDecisionRecorded).map fun event =>
    (event.gateDecision, event.gateReasonCode)).isPerm
    (evidence.gateDecisions.map fun gate => (some gate.decision, gate.reasonCode))

def traceProjectionFieldsMatchTypedRecords : Bool :=
  (evidence.traceEvents.all fun event => event.eventType == .gateDecisionRecorded ||
    (event.gateDecision.isNone && event.gateReasonCode.isNone)) &&
  (evidence.traceEvents.all fun event => event.eventType == .runStopped ||
    (event.userOutcome.isNone && event.stopReason.isNone)) &&
  gateProjectionsMatch evidence &&
  match eventsOf evidence .runStopped, evidence.runRecord, evidence.agentResult with
  | [stopped], some runRecord, some agentResult =>
    stopped.userOutcome == some evidence.observedOutcome &&
      evidence.observedOutcome == agentResult.outcome &&
      agentResult.outcome == expectations.expectedOutcome &&
        stopped.stopReason == runRecord.stopReason &&
      runRecord.stopReason == some expectations.expectedStopReason
  | _, _, _ => false

/-- Every reference of the event names a record, and its versions are the expected ones. -/
def eventReferencesMatch (event : TraceEvent) : Bool :=
  event.messageRef.all (· ∈ evidence.messageRecords.map (·.messageId)) &&
  event.acceptedDeltaRef.all (· ∈ evidence.acceptedTaskDeltasV2.map (·.acceptedDeltaId)) &&
  event.taskId.all (· ∈ evidence.taskRecords.map (·.taskId)) &&
  event.requestUnitId.all (· ∈ evidence.requestUnits.map (·.requestUnitId)) &&
  event.inputBindingRef.all (· ∈ evidence.inputBindings.map (·.bindingId)) &&
  event.contextManifestId.all (· ∈ evidence.contextManifests.map (·.contextManifestId)) &&
  event.modelCallId.all (· ∈ evidence.contextManifests.map (·.modelCallId)) &&
  (event.modelVisibleToolsetHash.all fun hash =>
    (evidence.modelVisibleToolsetArtifacts.map (·.modelVisibleToolsetHash)).contains hash &&
      hash == expectations.expectedModelVisibleToolsetHash) &&
  event.argumentBindingRefs.all (· ∈ evidence.inputBindings.map (·.bindingId)) &&
  event.toolCallId.all (· ∈ evidence.toolCalls.map (·.toolCallId)) &&
  event.observationRef.all (· ∈ evidence.observations.map (·.observationId)) &&
  event.toolRegistryVersion.all (· == expectations.expectedToolRegistryVersion) &&
  event.validatedTaskStateVersion.all (some · == expectations.expectedValidatedTaskStateVersion)

/-- The records that a `TASK_DELTA_ACCEPTED` event connects. -/
def acceptedDeltaEventMatches (event : TraceEvent) : Bool :=
  match event.acceptedDeltaRef.bind
    (Keyed.lastByKey (·.acceptedDeltaId) evidence.acceptedTaskDeltasV2),
    event.requestUnitId.bind (Keyed.lastByKey (·.requestUnitId) evidence.requestUnits) with
  | some acceptedDelta, some requestUnit =>
    event.messageRef == some acceptedDelta.messageRef &&
      event.taskId.any (· ∈ evidence.taskRecords.map (·.taskId)) &&
        some requestUnit.taskId == event.taskId &&
      requestUnit.goalText == acceptedDelta.goalText &&
        requestUnit.inputBindingRefs == acceptedDelta.inputBindingRefs
  | _, _ => false

/-- The context events report exactly the manifests. -/
def contextProjectionMatches : Bool :=
  sameSet
    ((eventsOf evidence .contextManifestRecorded).map fun event =>
      (event.contextManifestId, event.modelCallId, event.toolRegistryVersion,
        event.modelVisibleToolsetHash))
    (evidence.contextManifests.map fun manifest =>
      (some manifest.contextManifestId, some manifest.modelCallId,
        some manifest.toolRegistryVersion, some manifest.modelVisibleToolsetHash))

def traceReferencesMatchTypedRecords : Bool :=
  let contextEvents := eventsOf evidence .contextManifestRecorded
  let taskEvents := eventsOf evidence .taskStateChanged
  let taskIds := evidence.taskRecords.map (·.taskId)
  let requestUnitIds := evidence.requestUnits.map (·.requestUnitId)
  (v2RequestUnderstandingGraph evidence expectations).isOk &&
    (requestUnitObservationGraph evidence).isOk &&
  (observationPersistenceGraph evidence).isOk && (toolAttemptGraph evidence).isOk &&
  evidence.traceEvents.all (eventReferencesMatch evidence expectations) &&
  sameSet ((eventsOf evidence .inputBindingRecorded).map (·.inputBindingRef))
    (evidence.inputBindings.map fun binding => some binding.bindingId) &&
  ((eventsOf evidence .messageAccepted).map (·.messageRef)).isPerm
    ((evidence.messageRecords.map (·.messageId)).dedup.map some) &&
  ((eventsOf evidence .taskDeltaAccepted).map (·.acceptedDeltaRef)).isPerm
    ((evidence.acceptedTaskDeltasV2.map (·.acceptedDeltaId)).dedup.map some) &&
  (eventsOf evidence .taskDeltaAccepted).all (acceptedDeltaEventMatches evidence) &&
  contextProjectionMatches evidence && contextEvents.all (·.modelCallPurpose.isSome) &&
  (contextEvents.map (·.modelCallPurpose)).isPerm (expectedPurposes expectations) &&
  gatesUseRequestUnderstanding evidence && toolLifecycleReferencesMatch evidence &&
  normalizedToolResultMatchesTypedRecords evidence &&
    traceProjectionFieldsMatchTypedRecords evidence expectations &&
  sameSet ((eventsOf evidence .observationRecorded).map (·.observationRef))
    (evidence.observations.map fun observation => some observation.observationId) &&
  (taskEvents.isEmpty || (taskIds.dedup.length == 1 && requestUnitIds.dedup.length == 1 &&
    taskEvents.all fun event => event.taskId.any (· ∈ taskIds) &&
      event.requestUnitId.any (· ∈ requestUnitIds))) &&
  (eventsOf evidence .gateDecisionRecorded).length == evidence.gateDecisions.length &&
    gateProjectionsMatch evidence

def traceCompletenessGrader : Verdict := do
  let events := evidence.traceEvents
  Except.require (!events.isEmpty) .traceEventMissing
  let some runRecord := evidence.runRecord | throw .missingRecord
  Except.require (expectations.requiredTraceEvents.all (· ∈ events.map (·.eventType)))
    .traceEventMissing
  asserts (expectations.forbiddenTraceEvents.all (· ∉ events.map (·.eventType)))
  expectations.expectedEventCounts.forM fun expectation => do
    let actual := events.countP (·.eventType == expectation.eventType)
    Except.require (decide (expectation.count ≤ actual)) .traceEventMissing
    asserts (decide (actual ≤ expectation.count))
  asserts (decide ((events.map (·.occurredAt.instant)).Pairwise (· ≤ ·)))
  asserts (allDistinct (events.map (·.traceEventId)))
  traceSafetyCardinality events expectations.traceVariant
  tracePrecedence events expectations.traceVariant
  asserts (events.all (·.runId == runRecord.runId))
  asserts (events.all fun event => event.caseId.all (· == evidence.caseId))
  match eventsOf evidence .runStopped with
  | [stopped] => asserts (stopped.userOutcome == some expectations.expectedOutcome &&
      stopped.stopReason == some expectations.expectedStopReason)
  | _ => throw .assertionFailed
  asserts (traceReferencesMatchTypedRecords evidence expectations)

end Trace

end MiniAgent.Evaluation
