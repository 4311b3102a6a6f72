import MiniAgent.Application.DeterministicRenderer
import MiniAgent.Application.ReadToolExecutor
import MiniAgent.Core.GatewayLaw
import MiniAgent.Library.JsonText

/-! # Application orchestration of one bounded controlled-ReAct read trajectory

`handle` is kept as the sequence of its stages. A stage returns what the next one reads, or the
result of the Run when it stops there. The failure state is the cursor of the exceptional closure:
it survives an exception and says which Run is open, with which link and Task, and what was
committed.
-/

namespace MiniAgent.Application

open MiniAgent.Core ContractModel
open Coroutine (require)

def conversationSchemaVersion : String := "conversation_record.p0.v1"

def messageSchemaVersion : String := "message_record.p0.v1"

def conversationTaskLinkSchemaVersion : String := "conversation_task_link_record.p0.v1"

def runTaskLinkSchemaVersion : String := "run_task_link_record.p0.v1"

/-- What a service is built from, besides its ports. -/
structure AgentRunService where
  registrySnapshot : Validated RegistrySnapshot
  providerLane : String
  redactionPolicyVersion : String
  runTimeBudgetMs : ℕ := 30000
  budgetPositive : 0 < runTimeBudgetMs

/-- Local cursor for exceptional closure and the terminal commit point. -/
structure RunFailureState where
  runningRun : Option AgentRunRecord := none
  activeLink : Option RunTaskLinkRecord := none
  resultTask : Option TaskRecord := none
  ownerScope : Option TrustedOwnerScope := none
  committedResult : Option AgentRunResult := none
deriving DecidableEq, Repr

abbrev Service : Type → Type := Runtime RunFailureState

/-- The part of a turn that is known before the Run exists. -/
structure OpenedTurn where
  command : AgentRunCommand
  ownerScope : TrustedOwnerScope
  resolvedArtifact : ModelVisibleToolsetArtifact
  conversation : ConversationRecord
  userMessage : MessageRecord
  now : Datetime

/-- A turn with its RUNNING Run. -/
structure RunningTurn extends OpenedTurn where
  runningRun : AgentRunRecord

abbrev RunningTurn.runId (turn : RunningTurn) : Uuid := turn.runningRun.runId

/-- The Task, RequestUnit and active link that a turn is about to finish. -/
structure CurrentGraph where
  task : TaskRecord
  unit : RequestUnitRecord
  activeLink : RunTaskLinkRecord

/-- How a turn with a Task ends. -/
structure TaskStop where
  stopReason : StopReason
  targetStatus : TaskStatus
  reasonRef : Uuid
  observationRef : Option Uuid := none
  presentationPlanRef : Option Uuid := none
  renderedMessage : Option Text := none

def MappingFailure.raised : MappingFailure → Raised
  | .rendererInvariant message => { kind := .rendererInvariant message }
  | .validation => .validationError

section Recording

variable {σ : Type}

/-- `occurred_at or self._clock()` -/
def orClock (occurredAt : Option Datetime) : Runtime σ Datetime :=
  match occurredAt with
  | some known => pure known
  | none => clock

def appendTrace (eventType : TraceEventType) (runId : Uuid) (fields : TraceEvent → TraceEvent)
    (occurredAt : Option Datetime := none) : Runtime σ Unit := do
  let traceEventId ← uuidFactory
  let occurred ← orClock occurredAt
  let event ← constructed (fields
    { traceEventId := traceEventId, eventType := eventType, occurredAt := occurred,
      runId := runId })
  request (.appendTraceEvent event)

def saveManifest (service : AgentRunService) (runId modelCallId : Uuid) (modelCallPurpose : String)
    (messageId : Uuid) (task : Option TaskRecord) (observationRef : Option VersionedRecordRef) :
    Runtime σ ContextManifest := do
  let contextManifestId ← uuidFactory
  let assembledAt ← clock
  let manifest : ContextManifest ← constructed
    { contextManifestId := contextManifestId
      runId := runId
      modelCallId := modelCallId
      toolRegistryVersion := service.registrySnapshot.value.toolRegistryVersion
      modelVisibleToolsetHash := service.registrySnapshot.value.modelVisibleToolsetHash
      selectedMessageRefs := [messageId]
      taskStateRefAndVersion := task.map fun task => ⟨task.taskId, task.stateVersion⟩
      observationRefsAndVersions := observationRef.toList
      redactionPolicyVersion := service.redactionPolicyVersion
      tokenCounts := {}
      assembledAt := assembledAt }
  request (.saveContextManifest manifest)
  appendTrace .contextManifestRecorded runId fun event =>
    { event with
      modelCallId := some modelCallId
      modelCallPurpose := some modelCallPurpose
      contextManifestId := some manifest.contextManifestId
      toolRegistryVersion := some manifest.toolRegistryVersion
      modelVisibleToolsetHash := some manifest.modelVisibleToolsetHash }
  return manifest

def appendInitialDecisionTrace (runId modelCallId contextManifestId : Uuid)
    (decision : InitialRequestRoutableTaskGraphDecisionV2) : Runtime σ Unit := do
  let record := decision.closure.record
  let graph := decision.taskGraph
  appendTrace .nextMoveProposed runId fun event =>
    { event with
      messageRef := some record.messageRef
      modelCallId := some modelCallId
      contextManifestId := some contextManifestId
      nextMoveKind := some decision.nextMoveCandidate.kind.value
      requestedToolName := decision.nextMoveCandidate.requestedToolName
      proposedBaseTaskStateVersion := decision.nextMoveCandidate.baseTaskStateVersion }
  appendTrace .taskDeltaValidated runId fun event =>
    { event with
      messageRef := some record.messageRef
      acceptedDeltaRef := some graph.acceptedDelta.acceptedDeltaId }
  appendTrace .taskDeltaAccepted runId fun event =>
    { event with
      messageRef := some record.messageRef
      acceptedDeltaRef := some graph.acceptedDelta.acceptedDeltaId
      taskId := some graph.task.taskId
      requestUnitId := some graph.requestUnit.requestUnitId }
  appendTrace .inputBindingRecorded runId fun event =>
    { event with
      taskId := some graph.task.taskId
      requestUnitId := some graph.requestUnit.requestUnitId
      inputBindingRef := some graph.inputBinding.bindingId }
  appendTrace .taskStateChanged runId fun event =>
    { event with
      taskId := some graph.task.taskId
      requestUnitId := some graph.requestUnit.requestUnitId }

/-- The Trace event of a terminal ToolCall status. -/
def terminalEventByStatus : ToolCallStatus → Option TraceEventType
  | .succeeded => some .toolCallSucceeded
  | .failed => some .toolCallFailed
  | .timedOut => some .toolCallTimedOut
  | .interrupted => some .toolCallInterrupted
  | .created | .running => none

def appendToolTrace (created terminal : ToolCallRecord) (attempt : ToolAttemptRecord) :
    Runtime σ Unit := do
  let ofCall (event : TraceEvent) : TraceEvent :=
    { event with
      taskId := some created.taskId
      requestUnitId := some created.requestUnitId
      toolCallId := some created.toolCallId }
  appendTrace .toolCallCreated created.runId (fun event =>
    { ofCall event with
      modelCallId := some created.modelCallId
      contextManifestId := some created.contextManifestId
      validatedTaskStateVersion := some created.validatedTaskStateVersion
      argumentBindingRefs := created.argumentBindingRefs
      toolCallTerminalStatus := some .created }) (some created.startedAt)
  appendTrace .toolCallStarted created.runId (fun event =>
    { ofCall event with toolCallTerminalStatus := some .running }) (some attempt.startedAt)
  match terminalEventByStatus terminal.status with
  | none => throw (.agentRunExecution "terminal ToolCall status required for Trace")
  | some terminalEventType =>
    appendTrace terminalEventType created.runId (fun event =>
      { ofCall event with toolCallTerminalStatus := some terminal.status }) terminal.finishedAt
    appendTrace .toolResultNormalized created.runId (fun event =>
      { ofCall event with safeToolOutcome := attempt.outcome }) terminal.finishedAt

end Recording

/-- `_project_run` to a COMPLETED Run. -/
def completedRun (run : AgentRunRecord) (completedAt : Datetime) (stopReason : StopReason) :
    AgentRunRecord :=
  { run with status := .completed, completedAt := some completedAt, stopReason := some stopReason }

def assistantMessage (conversation : ConversationRecord) (messageId : Uuid)
    (result : AgentRunResult) (receivedAt : Datetime) : MessageRecord where
  schemaVersion := messageSchemaVersion
  messageId := messageId
  conversationId := conversation.conversationId
  direction := .assistant
  content := result.message
  receivedAt := receivedAt

def runStoppedEvent (traceEventId runId : Uuid) (result : AgentRunResult) (stopReason : StopReason)
    (occurredAt : Datetime) : TraceEvent where
  traceEventId := traceEventId
  eventType := .runStopped
  occurredAt := occurredAt
  runId := runId
  userOutcome := some result.outcome
  stopReason := some stopReason

/-- A terminal aggregate that is ready to be committed. -/
structure PreparedStop where
  command : FinalizeRunCommand
  result : AgentRunResult

/-- Await the terminal commit; only APPLIED returns the result, and the cursor remembers it. -/
def commitRun (prepared : PreparedStop) : Service AgentRunResult := do
  let finalizeResult ← request (.finalizeRunIfActive prepared.command)
  require (finalizeResult == .applied) (.agentRunExecution "Run finalization conflict")
  Coroutine.modify fun state =>
    { state with
      resultTask := (prepared.command.taskTransition.map (·.nextTaskRecord)).or state.resultTask
      committedResult := some prepared.result
      runningRun := none }
  return prepared.result

def prepareStopWithoutTask (turn : RunningTurn) (stopReason : StopReason) :
    Service PreparedStop := do
  let result ← Coroutine.ofExcept
    ((mapResult turn.runId stopReason none).mapError MappingFailure.raised)
  appendTrace .responseRendered turn.runId id
  let completedAt ← clock
  let terminalRun ← constructed (completedRun turn.runningRun completedAt stopReason)
  let messageId ← uuidFactory
  let message ← constructed (assistantMessage turn.conversation messageId result completedAt)
  let traceEventId ← uuidFactory
  let runStopped ← constructed
    (runStoppedEvent traceEventId turn.runId result stopReason completedAt)
  let command : FinalizeRunCommand ← constructed
    { expectedActiveRecord := turn.runningRun
      terminalRecord := terminalRun
      expectedActiveLinks := []
      terminalLinks := []
      resultTaskRecords := []
      terminalResult := some result
      assistantMessage := some message
      terminalTraceEvents := [runStopped] }
  return ⟨command, result⟩

def finishWithoutTask (turn : RunningTurn) (stopReason : StopReason) : Service AgentRunResult := do
  commitRun (← prepareStopWithoutTask turn stopReason)

/-- The transition that a stop applies to the current Task and RequestUnit. -/
def stopTransition (graph : CurrentGraph) (stop : TaskStop) (changedAt : Datetime) :
    ApplyTaskTransitionCommand where
  expectedTaskRecord := graph.task
  nextTaskRecord :=
    { graph.task with
      status := stop.targetStatus
      stateVersion := graph.task.stateVersion + 1
      updatedAt := changedAt
      lastOutcomeRef := some stop.reasonRef }
  expectedRequestUnitRecord := graph.unit
  nextRequestUnitRecord :=
    { graph.unit with
      observationRefs := graph.unit.observationRefs ++
        stop.observationRef.toList.filter (· ∉ graph.unit.observationRefs)
      resultRefs := graph.unit.resultRefs ++ [stop.reasonRef]
      status := stop.targetStatus
      stateVersion := graph.unit.stateVersion + 1
      updatedAt := changedAt }
  taskStateTransition :=
    { taskId := graph.task.taskId
      requestUnitId := graph.unit.requestUnitId
      fromStatus := graph.task.status
      toStatus := stop.targetStatus
      baseStateVersion := graph.task.stateVersion
      resultStateVersion := graph.task.stateVersion + 1
      reasonRef := stop.reasonRef
      changedAt := changedAt }

/-- The link that closes an active one at a result Task. -/
def terminalLink (activeLink : RunTaskLinkRecord) (resultTask : TaskRecord) : RunTaskLinkRecord :=
  { activeLink with resultTaskStateVersion := some resultTask.stateVersion }

def prepareStopWithTask (turn : RunningTurn) (graph : CurrentGraph) (stop : TaskStop) :
    Service PreparedStop := do
  let result ← Coroutine.ofExcept
    ((mapResult turn.runId stop.stopReason stop.renderedMessage).mapError MappingFailure.raised)
  appendTrace .responseRendered turn.runId fun event =>
    { event with
      taskId := some graph.task.taskId
      requestUnitId := some graph.unit.requestUnitId
      observationRef := stop.observationRef
      presentationPlanRef := stop.presentationPlanRef }
  let changedAt ← clock
  let transition ← constructed (stopTransition graph stop changedAt)
  let link ← constructed (terminalLink graph.activeLink transition.nextTaskRecord)
  let completedAt ← clock
  let terminalRun ← constructed (completedRun turn.runningRun completedAt stop.stopReason)
  let messageId ← uuidFactory
  let message ← constructed (assistantMessage turn.conversation messageId result completedAt)
  let taskChangedId ← uuidFactory
  let taskStateChanged : TraceEvent ← constructed
    { traceEventId := taskChangedId
      eventType := .taskStateChanged
      occurredAt := changedAt
      runId := turn.runId
      taskId := some graph.task.taskId
      requestUnitId := some graph.unit.requestUnitId }
  let traceEventId ← uuidFactory
  let runStopped ← constructed
    (runStoppedEvent traceEventId turn.runId result stop.stopReason completedAt)
  let command : FinalizeRunCommand ← constructed
    { expectedActiveRecord := turn.runningRun
      terminalRecord := terminalRun
      expectedActiveLinks := [graph.activeLink]
      terminalLinks := [link]
      resultTaskRecords := [transition.nextTaskRecord]
      taskTransition := some transition
      terminalResult := some result
      assistantMessage := some message
      terminalTraceEvents := [taskStateChanged, runStopped] }
  return ⟨command, result⟩

def finishWithTask (turn : RunningTurn) (graph : CurrentGraph) (stop : TaskStop) :
    Service AgentRunResult := do
  commitRun (← prepareStopWithTask turn graph stop)

/-- The freshest Task of the cursor: a failed reload keeps the cached one. -/
def reloadResultTask (ownerScope : Option TrustedOwnerScope) (resultTask : TaskRecord)
    (original : Raised) :
    Service (TaskRecord × Raised) := do
  let some ownerScope := ownerScope | return (resultTask, original)
  let reloaded ← tryCatch (Except.ok <$> request (.loadTaskForOwner ownerScope resultTask.taskId))
    fun reloadError => return .error reloadError
  match reloaded with
  | .error reloadError => return (resultTask, original.addNote
      ("Run failure Task reload raised " ++ reloadError.kind.typeName ++ "; cached CAS retained"))
  | .ok none => return (resultTask, original)
  | .ok (some currentTask) =>
    Coroutine.modify fun state => { state with resultTask := some currentTask.value }
    return (currentTask.value, original)

/-- `_project_run` to a FAILED Run. -/
def failedRun (run : AgentRunRecord) (completedAt : Datetime) : AgentRunRecord :=
  { run with status := .failed, completedAt := some completedAt, stopReason := none }

/-- The FAILED finalization of an open Run with the links it has. -/
def failureCommand (runningRun terminalRun : AgentRunRecord)
    (links : Option (RunTaskLinkRecord × RunTaskLinkRecord × TaskRecord)) : FinalizeRunCommand where
  expectedActiveRecord := runningRun
  terminalRecord := terminalRun
  expectedActiveLinks := links.toList.map (·.1)
  terminalLinks := links.toList.map (·.2.1)
  resultTaskRecords := links.toList.map (·.2.2)

/-- Attempt the FAILED finalization; whatever goes wrong is a note on the original error. -/
def attemptFailure (runningRun : AgentRunRecord)
    (links : Option (RunTaskLinkRecord × RunTaskLinkRecord × TaskRecord)) (original : Raised) :
    Service Raised := do
  -- the terminal projection is built before the guarded part: its exception replaces the original
  let completedAt ← clock
  let terminalRun ← constructed (failedRun runningRun completedAt)
  let attempted ← tryCatch (do
      let command ← constructed (failureCommand runningRun terminalRun links)
      return Except.ok (← request (.finalizeRunIfActive command)))
    fun finalizationError => return .error finalizationError
  match attempted with
  | .error finalizationError =>
    return original.addNote ("Run failure finalization raised " ++ finalizationError.kind.typeName)
  | .ok .applied => return original
  | .ok _ => return original.addNote "Run failure finalization was not applied"

def finalizeFailedRunAfterError (original : Raised) : Service Raised := do
  let failureState ← Coroutine.read
  match failureState.runningRun, failureState.activeLink, failureState.resultTask with
  | none, _, _ => return original
  | some runningRun, some activeLink, some resultTask =>
    let (resultTask, original) ← reloadResultTask failureState.ownerScope resultTask original
    let link ← constructed (terminalLink activeLink resultTask)
    attemptFailure runningRun (some (activeLink, link, resultTask)) original
  | some runningRun, none, none => attemptFailure runningRun none original
  | some _, _, _ =>
    return original.addNote "Run failure finalization skipped: incomplete local graph cursor"

/-- The only authoritative Message is the one just appended. -/
def authoritativeMessage (messages : List (Validated MessageRecord)) (userMessage : MessageRecord) :
    Except Raised MessageRecord :=
  match messages with
  | [message] =>
    if message.value = userMessage ∧ message.value.direction = .user then .ok message.value
    else .error (.agentRunExecution "authoritative current Message unavailable")
  | _ => .error (.agentRunExecution "authoritative current Message unavailable")

def resolveArtifact (service : AgentRunService) : Service ModelVisibleToolsetArtifact := do
  let artifact ← constructed service.registrySnapshot.value.artifact
  request (.putToolsetArtifact artifact)
  match ← request (.getToolsetArtifact artifact.modelVisibleToolsetHash) with
  | some resolvedArtifact =>
    require (resolvedArtifact.value.sameAs artifact)
      (.agentRunExecution "Toolset Artifact is not resolvable")
    return resolvedArtifact.value
  | none => throw (.agentRunExecution "Toolset Artifact is not resolvable")

def openTurn (service : AgentRunService) (command : AgentRunCommand)
    (ownerScope : TrustedOwnerScope) :
    Service OpenedTurn := do
  let resolvedArtifact ← resolveArtifact service
  let now ← clock
  let conversationId ← uuidFactory
  let conversation : ConversationRecord ← constructed
    { schemaVersion := conversationSchemaVersion
      conversationId := conversationId
      ownerCustomerId := ownerScope.customerId
      createdAt := now }
  let messageId ← uuidFactory
  let userMessage : MessageRecord ← constructed
    { schemaVersion := messageSchemaVersion
      messageId := messageId
      conversationId := conversation.conversationId
      direction := .user
      content := command.message
      receivedAt := now }
  request (.saveConversation conversation)
  request (.appendMessage userMessage)
  let messages ← request (.listMessagesForOwner ownerScope conversation.conversationId 8)
  let userMessage ← Coroutine.ofExcept (authoritativeMessage messages userMessage)
  return {
    command := command
    ownerScope := ownerScope
    resolvedArtifact := resolvedArtifact
    conversation := conversation
    userMessage := userMessage
    now := now }

/-- Insert the CREATED Run; the command that starts it comes back. -/
def insertCreatedRun (service : AgentRunService) (turn : OpenedTurn) :
    Service TransitionRunCommand := do
  let runId ← uuidFactory
  let createdRun : AgentRunRecord ← constructed
    { runId := runId
      conversationId := some turn.conversation.conversationId
      status := .created
      providerLane := service.providerLane
      startedAt := turn.now }
  let creation : CreateRunCommand ← constructed { createdRecord := createdRun }
  let insertResult ← request (.insertRun creation)
  require (insertResult == .inserted) (.agentRunExecution "Run insert conflict")
  let runningRun ← constructed { createdRun with status := .running }
  constructed { expectedActiveRecord := createdRun, nextRecord := runningRun }

/-- Start the inserted Run; from here on the cursor holds it. -/
def startRun (service : AgentRunService) (turn : OpenedTurn) : Service RunningTurn := do
  let start ← insertCreatedRun service turn
  let startResult ← request (.startRunIfCreated start)
  require (startResult == .applied) (.agentRunExecution "Run start conflict")
  Coroutine.modify fun state => { state with runningRun := some start.nextRecord }
  return { turn with runningRun := start.nextRecord }

def requestUnderstandingInput (turn : RunningTurn) : RequestUnderstandingInput where
  runId := turn.runId
  messageRef := turn.userMessage.messageId
  originalQuery := turn.userMessage.content
  outputConstraints := ["Return exactly one current-message ADD_GOAL candidate.",
    "Never provide trusted identity fields."]
  providerVisibleToolSpecs := turn.resolvedArtifact.providerVisibleToolSpecs
  modelVisibleToolsetHash := turn.resolvedArtifact.modelVisibleToolsetHash
  modelFieldsSet := ["schema_version", "run_id", "message_ref", "original_query",
    "provider_visible_tool_specs", "model_visible_toolset_hash", "output_constraints"]

/-- Ask the provider for its proposal; a bounded provider error of the exact type is a stop. -/
def awaitProposal (modelRequest : RequestUnderstandingInput) :
    Service (StopReason ⊕ Option RequestUnderstandingOutputV2) :=
  tryCatch (Sum.inr <$> request (.proposeNextMove modelRequest)) fun raised =>
    match raised.kind with
    | .candidateInvalid => return .inl .inputInvalid
    | .providerProtocol => return .inl .providerProtocolError
    | .candidateInvalidSubclass _ | .providerProtocolSubclass _ =>
      throw (.agentRunExecution "noncanonical Provider signal")
    | _ => throw raised

/-- The identities of one emitted Candidate. -/
def allocateIdentities (candidate : TaskDeltaCandidate) :
    Service InitialTaskIdentityAllocationV2 := do
  let acceptedDeltaId ← uuidFactory
  let taskId ← uuidFactory
  let requestUnitId ← uuidFactory
  let bindingId ← uuidFactory
  constructed
    { candidateRef := candidate.candidateId
      acceptedDeltaId := acceptedDeltaId
      taskId := taskId
      requestUnitId := requestUnitId
      bindingId := bindingId }

/-- Reduce the provider's output; a bounded aggregate failure is a stop. -/
def reduceProposal (turn : RunningTurn) (modelRequest : RequestUnderstandingInput)
    (output : Option RequestUnderstandingOutputV2) :
    Service (StopReason ⊕ Datetime × InitialRequestDecisionV2) := do
  let reducedAt ← clock
  let recordId ← uuidFactory
  match output with
  | none => throw { kind := .other "AttributeError" }
  | some output =>
    let allocations ← output.taskDeltaCandidates.mapM allocateIdentities
    let nextMoveCandidateRef ← uuidFactory
    let messages : AuthoritativeMessages := fun messageRef =>
      if messageRef = turn.userMessage.messageId then some turn.userMessage.content else none
    match validateAndReduceInitialRequestV2 modelRequest output messages
        { customerContext := turn.command.customerContext
          requestUnderstandingRecordId := recordId
          candidateIdentityAllocations := allocations
          nextMoveCandidateRef := nextMoveCandidateRef
          now := reducedAt } with
    | .ok decision => return .inr (reducedAt, decision)
    | .error (.aggregate _) => return .inl .inputInvalid
    | .error (.atomic _) => throw (.agentRunExecution "Request Understanding internal failure")
    | .error (.uncaught exception) => throw { kind := .other exception }

def initialRunTaskLink (turn : RunningTurn) (task : TaskRecord) : RunTaskLinkRecord where
  schemaVersion := runTaskLinkSchemaVersion
  runId := turn.runId
  taskId := task.taskId

def initialGraphCommand (turn : RunningTurn) (reducedAt : Datetime)
    (decision : InitialRequestRoutableTaskGraphDecisionV2) : CreateInitialTaskGraphV2Command where
  ownerScope := turn.ownerScope
  expectedConversationRecord := turn.conversation
  expectedMessageRecords := [turn.userMessage]
  expectedActiveRunRecord := turn.runningRun
  requestUnderstanding := ⟨decision.closure.record, decision.taskGraph.acceptedDelta⟩
  initialTask := ⟨decision.taskGraph.task⟩
  initialRequestUnit := ⟨decision.taskGraph.requestUnit⟩
  inputBinding := ⟨decision.taskGraph.inputBinding, decision.taskGraph.requestUnit.requestUnitId⟩
  conversationTaskLink :=
    { schemaVersion := conversationTaskLinkSchemaVersion
      conversationId := turn.conversation.conversationId
      taskId := decision.taskGraph.task.taskId
      linkReason := "CURRENT_MESSAGE_ACCEPTED_DELTA"
      linkedAt := reducedAt }
  runTaskLink := ⟨initialRunTaskLink turn decision.taskGraph.task⟩

/-- Commit the reducer's graph; from here on the cursor holds its link and Task. -/
def commitInitialGraph (turn : RunningTurn) (reducedAt : Datetime)
    (decision : InitialRequestRoutableTaskGraphDecisionV2) : Service Unit := do
  let command ← constructed (initialGraphCommand turn reducedAt decision)
  let graphResult ← request (.createInitialTaskGraphV2IfCurrent command)
  require (graphResult == .applied) (.agentRunExecution "initial Task graph conflict")
  Coroutine.modify fun state =>
    { state with
      activeLink := some (initialRunTaskLink turn decision.taskGraph.task)
      resultTask := some decision.taskGraph.task }

def revalidateMove (turn : RunningTurn) (modelCallId : Uuid)
    (decision : InitialRequestRoutableTaskGraphDecisionV2) : Service RevalidatedNextMove := do
  let graph := decision.taskGraph
  let move ← Coroutine.ofExcept
    ((revalidateNextMoveV2 decision graph.task graph.requestUnit graph.inputBinding).mapError
        fun message =>
      { kind := .requestProcessing message })
  appendTrace .nextMoveRevalidated turn.runId fun event =>
    { event with
      taskId := some graph.task.taskId
      requestUnitId := some graph.requestUnit.requestUnitId
      modelCallId := some modelCallId
      requestedToolName := some move.requestedProviderToolName
      proposedBaseTaskStateVersion := move.proposedBaseTaskStateVersion
      validatedTaskStateVersion := some move.validatedTaskStateVersion
      argumentBindingRefs := move.argumentBindingRefs }
  return move

/-- Pass the fault seam and load the Task and RequestUnit as they are now. -/
def loadCurrentGraph (turn : RunningTurn) (graph : InitialAcceptedTaskGraphV2) :
    Service CurrentGraph := do
  request (.afterRevalidation turn.runId graph.task graph.requestUnit)
  let currentTask ← request (.loadTaskForOwner turn.ownerScope graph.task.taskId)
  let currentUnit ← request
    (.loadRequestUnitForOwner turn.ownerScope graph.requestUnit.requestUnitId)
  match currentTask, currentUnit with
  | some currentTask, some currentUnit =>
    Coroutine.modify fun state => { state with resultTask := some currentTask.value }
    return ⟨currentTask.value, currentUnit.value, initialRunTaskLink turn graph.task⟩
  | _, _ => throw (.agentRunExecution "current Task graph unavailable")

def decideGate (service : AgentRunService) (turn : RunningTurn) (move : RevalidatedNextMove)
    (current : CurrentGraph) (inputBinding : InputBinding) (manifest : ContextManifest)
    (modelCallId : Uuid) :
    Service GateDecision := do
  let gateDecisionId ← uuidFactory
  let decidedAt ← clock
  let evaluated := evaluateControlGateway
    { revalidatedMove := move
      customerContext := turn.command.customerContext
      currentTask := current.task
      currentRequestUnit := current.unit
      currentInputBinding := inputBinding
      registrySnapshot := service.registrySnapshot.value
      contextManifest := manifest
      gateDecisionId := gateDecisionId
      modelCallId := modelCallId
      providerToolCallId := none
      decidedAt := decidedAt
      toolCallsUsed := 0
      maxToolCalls := 1
      progressValid := true }
  match evaluated with
  | none => throw .validationError
  | some gate =>
    request (.saveGateDecision gate)
    appendTrace .gateDecisionRecorded turn.runId fun event =>
      { event with
        taskId := some current.task.taskId
        requestUnitId := some current.unit.requestUnitId
        modelCallId := some modelCallId
        contextManifestId := some manifest.contextManifestId
        requestedToolName := some gate.requestedProviderToolName
        validatedTaskStateVersion := gate.validatedTaskStateVersion
        argumentBindingRefs := gate.argumentBindingRefs
        gateDecision := some gate.decision
        gateReasonCode := gate.reasonCode }
    return gate

/-- `int(budget - elapsed)` in double arithmetic, for microseconds elapsed since the start. -/
def remainingMilliseconds (budgetMs : ℕ) (elapsedMicroseconds : ℤ) : Except Raised ℕ := do
  let overflow : Raised := { kind := .other "OverflowError" }
  let some seconds := Json.nearestDouble elapsedMicroseconds.toNat 1000000 | throw overflow
  let some elapsedMs := Json.nearestDouble (seconds.num.toNat * 1000) seconds.den | throw overflow
  let some budget := Json.nearestDouble budgetMs 1 | throw overflow
  let difference := budget - elapsedMs
  let some remaining := Json.nearestDouble difference.num.toNat difference.den | throw overflow
  return remaining.floor.toNat

def remainingRunTimeBudgetMs (service : AgentRunService) (runningRun : AgentRunRecord) :
    Service ℕ := do
  let current ← clock
  require (current.utcOffset.isSome == runningRun.startedAt.utcOffset.isSome)
    { kind := .other "TypeError" }
  let remainingMs ← Coroutine.ofExcept (remainingMilliseconds service.runTimeBudgetMs
    (current.instant - runningRun.startedAt.instant))
  require (decide (0 < remainingMs)) (.agentRunExecution "Run time budget exhausted")
  return remainingMs

/-- The command that an accepted Gate authorises: its only argument is the bound value. -/
def authorizedCommand (service : AgentRunService) (gate : GateDecision)
    (inputBinding : InputBinding) (contextId : Uuid) (validatedTaskStateVersion : ℕ) :
    AuthorizedToolCommand where
  gateDecisionId := gate.gateDecisionId
  canonicalToolName := "get_order"
  validatedArguments := [("order_id", .string inputBinding.normalizedValue)]
  argumentBindingRefs := gate.argumentBindingRefs
  validatedTaskStateVersion := validatedTaskStateVersion
  registrySnapshotRef := service.registrySnapshot.value.toolRegistryVersion
  trustedContextRef := s!"trusted-context:{contextId}"

def executeAuthorized (service : AgentRunService) (turn : RunningTurn) (current : CurrentGraph)
    (gate : GateDecision) (inputBinding : InputBinding) (manifest : ContextManifest)
    (modelCallId : Uuid) :
    Service ReadToolExecution := do
  match resolveValidatedGetOrderRegistration service.registrySnapshot.value
      gate.requestedProviderToolName with
  | none => throw (.agentRunExecution "accepted Gate lacks a validated registration")
  | some registration =>
    let contextId ← uuidFactory
    match gate.validatedTaskStateVersion with
    | none => throw .validationError
    | some validatedTaskStateVersion =>
      let authorized ← constructed
        (authorizedCommand service gate inputBinding contextId validatedTaskStateVersion)
      let remainingMs ← remainingRunTimeBudgetMs service turn.runningRun
      executeGetOrder
        { ownerScope := turn.ownerScope
          authorizedCommand := authorized
          runId := turn.runId
          taskId := current.task.taskId
          requestUnitId := current.unit.requestUnitId
          modelCallId := modelCallId
          contextManifestId := manifest.contextManifestId
          providerToolCallId := none
          toolRegistryVersion := service.registrySnapshot.value.toolRegistryVersion
          executionPolicy := registration.executionPolicy
          remainingRunTimeBudgetMs := remainingMs }

/-- Ask the provider for a plan; its bounded protocol error is a stop. -/
def awaitPlan (summary : OrderSummaryProjection) : Service (StopReason ⊕ Option PresentationPlan) :=
  tryCatch (do
    let input : PresentationInput ← constructed
      { purpose := .orderStatusSummary, orderSummary := summary }
    return .inr (← request (.planPresentation input)))
  fun raised =>
    match raised.kind with
    | .providerProtocol => return .inl .providerProtocolError
    | .providerProtocolSubclass _ =>
      throw (.agentRunExecution "noncanonical Presentation Provider signal")
    | _ => throw raised

/-- Validate and render the plan: a rejection and a renderer failure are stops. -/
def renderPlan (observation : OrderObservation) (plan : Option PresentationPlan) :
    Except Raised (StopReason ⊕ Text) :=
  match validatePresentationPlan plan observation with
  | .error _ => .ok (.inl .presentationPlanRejected)
  | .ok validatedPlan =>
    match renderOrderSummary observation validatedPlan with
    | .ok message => .ok (.inr message)
    | .error (.rendererInvariant _) => .ok (.inl .rendererInvariantFailed)
    | .error (.presentationPolicy message) => .error { kind := .presentationPolicy message }

/-- From a canonical Observation to the end of the turn. -/
def presentOrder (service : AgentRunService) (turn : RunningTurn) (current : CurrentGraph)
    (terminal : ToolCallRecord) (observation : OrderObservation) (sourceVersion : String) :
    Service AgentRunResult := do
  appendTrace .observationRecorded turn.runId (fun event =>
    { event with
      taskId := some current.task.taskId
      requestUnitId := some current.unit.requestUnitId
      toolCallId := some terminal.toolCallId
      observationRef := some observation.observationId }) (some observation.recordedAt)
  let modelCallId ← uuidFactory
  let manifest ← saveManifest service turn.runId modelCallId "PRESENTATION"
    turn.userMessage.messageId
    (some current.task) (some ⟨observation.observationId, sourceVersion⟩)
  match ← awaitPlan observation.normalizedValue with
  | .inl stopReason =>
    let reasonRef ← uuidFactory
    finishWithTask turn current
      { stopReason := stopReason
        targetStatus := .blocked
        reasonRef := reasonRef
        observationRef := some observation.observationId }
  | .inr plan =>
    let presentationPlanRef ← uuidFactory
    appendTrace .presentationPlanProposed turn.runId fun event =>
      { event with
        taskId := some current.task.taskId
        requestUnitId := some current.unit.requestUnitId
        modelCallId := some modelCallId
        contextManifestId := some manifest.contextManifestId
        observationRef := some observation.observationId
        presentationPlanRef := some presentationPlanRef }
    match ← Coroutine.ofExcept (renderPlan observation plan) with
    | .inl stopReason =>
      finishWithTask turn current
        { stopReason := stopReason
          targetStatus := .blocked
          reasonRef := presentationPlanRef
          observationRef := some observation.observationId
          presentationPlanRef := some presentationPlanRef }
    | .inr renderedMessage =>
      let reasonRef ← uuidFactory
      finishWithTask turn current
        { stopReason := .goalCompleted
          targetStatus := .completed
          reasonRef := reasonRef
          observationRef := some observation.observationId
          presentationPlanRef := some presentationPlanRef
          renderedMessage := some renderedMessage }

/-- The source version of an Observation, if it is canonical. -/
def canonicalSourceVersion (observation : Option OrderObservation) :
    Option (OrderObservation × String) := do
  let observation ← observation
  let sourceVersion ← observation.sourceVersion
  if isGetOrderSourceVersion sourceVersion.toList then some (observation, sourceVersion) else none

/-- From a finished execution to the end of the turn. -/
def finishExecution (service : AgentRunService) (turn : RunningTurn) (current : CurrentGraph)
    (execution : ReadToolExecution) : Service AgentRunResult := do
  match execution.terminalToolCall, execution.finalizedAttempt, execution.getOrderOutcome with
  | some terminal, some attempt, some outcome =>
    appendToolTrace execution.createdToolCall terminal attempt
    match outcome, canonicalSourceVersion execution.observation with
    | .notFoundOrNotAccessible, _ =>
      let reasonRef ← uuidFactory
      finishWithTask turn current
        { stopReason := .notFoundOrNotAccessible, targetStatus := .completed,
          reasonRef := reasonRef }
    | .found, some (observation, sourceVersion) =>
      presentOrder service turn current terminal observation sourceVersion
    | _, _ =>
      let reasonRef ← uuidFactory
      finishWithTask turn current
        { stopReason := .orderServiceUnavailable, targetStatus := .blocked, reasonRef := reasonRef }
  | _, _, _ => throw (.agentRunExecution "Read Tool dispatch was not applied")

/-- Gate the revalidated move and carry out what it decides. -/
def gateAndExecute (service : AgentRunService) (turn : RunningTurn)
    (decision : InitialRequestRoutableTaskGraphDecisionV2) (manifest : ContextManifest)
    (modelCallId : Uuid) :
    Service AgentRunResult := do
  let move ← revalidateMove turn modelCallId decision
  let current ← loadCurrentGraph turn decision.taskGraph
  let gate ← decideGate service turn move current decision.taskGraph.inputBinding manifest
    modelCallId
  if gate.decision = .reject then
    finishWithTask turn current
      { stopReason := .gateRejected, targetStatus := .blocked, reasonRef := gate.gateDecisionId }
  else
    let execution ← executeAuthorized service turn current gate decision.taskGraph.inputBinding
      manifest
      modelCallId
    finishExecution service turn current execution

/-- Commit and trace a routable decision, then go on to the Gate. -/
def routeDecision (service : AgentRunService) (turn : RunningTurn) (reducedAt : Datetime)
    (decision : InitialRequestDecisionV2) (manifest : ContextManifest) (modelCallId : Uuid) :
    Service AgentRunResult := do
  match decision with
  | .routable decision =>
    commitInitialGraph turn reducedAt decision
    appendInitialDecisionTrace turn.runId modelCallId manifest.contextManifestId decision
    gateAndExecute service turn decision manifest modelCallId
  | .noTask _ | .unrouted _ =>
    throw (.agentRunExecution "scoped Request Understanding outcome is not routable")

/-- The trace and the manifest before the first model call. -/
def beginUnderstanding (service : AgentRunService) (turn : RunningTurn) :
    Service (Uuid × ContextManifest) := do
  appendTrace .messageAccepted turn.runId fun event =>
    { event with messageRef := some turn.userMessage.messageId }
  appendTrace .runStarted turn.runId id
  let modelCallId ← uuidFactory
  appendTrace .requestUnderstandingStarted turn.runId fun event =>
    { event with
      messageRef := some turn.userMessage.messageId
      modelCallId := some modelCallId
      modelCallPurpose := some "REQUEST_UNDERSTANDING" }
  let manifest ← saveManifest service turn.runId modelCallId "REQUEST_UNDERSTANDING"
    turn.userMessage.messageId none none
  return (modelCallId, manifest)

/-- Everything after the Run has started. -/
def runTurn (service : AgentRunService) (turn : RunningTurn) : Service AgentRunResult := do
  let (modelCallId, manifest) ← beginUnderstanding service turn
  let modelRequest ← constructed (requestUnderstandingInput turn)
  match ← awaitProposal modelRequest with
  | .inl stopReason => finishWithoutTask turn stopReason
  | .inr output =>
    match ← reduceProposal turn modelRequest output with
    | .inl stopReason => finishWithoutTask turn stopReason
    | .inr (reducedAt, decision) =>
      routeDecision service turn reducedAt decision manifest modelCallId

/-- `_handle` -/
def handleTurn (service : AgentRunService) (command : AgentRunCommand) :
    Service AgentRunResult := do
  let ownerScope ← constructed (TrustedOwnerScope.fromCustomerContext command.customerContext)
  Coroutine.modify fun state => { state with ownerScope := some ownerScope }
  let opened ← openTurn service command ownerScope
  let turn ← startRun service opened
  runTurn service turn

/-- Close the Run after an exception, then raise it; only a committed result survives an
exception. -/
def closeAfterError (error : Raised) : Service AgentRunResult := do
  let failureState ← Coroutine.read
  match failureState.committedResult with
  | some committedResult =>
    if error.kind = .cancelledError then throw error else return committedResult
  | none =>
    let error ← finalizeFailedRunAfterError error
    throw error

def handle (service : AgentRunService) (command : AgentRunCommand) : Service AgentRunResult :=
  tryCatch (handleTurn service command) closeAfterError

private theorem exampleSnapshot_artifact_valid : validates exampleSnapshot.artifact = true := by
  have rest : (exampleSnapshot.artifact.artifactSchemaVersion ==
    modelVisibleToolsetArtifactSchemaVersion &&
    isToolsetHash exampleSnapshot.modelVisibleToolsetHash &&
    exampleSnapshot.providerVisibleToolset.all ContractModel.validates) = true := by decide
  exact Bool.and_eq_true_iff.mpr ⟨rest, beq_iff_eq.mpr exampleToolset_hash⟩

def exampleService : AgentRunService where
  registrySnapshot := ⟨exampleSnapshot, exampleSnapshot_valid⟩
  providerLane := "lane"
  redactionPolicyVersion := "redaction.p0.v1"
  budgetPositive := by decide

/-- Whether the tools have the hash, where the hash of the example's tools is known. -/
def hasToolsetHash (tools : List ToolSpec) (hash : Text) : Bool :=
  decide (tools = exampleSnapshot.providerVisibleToolset ∧
    hash = exampleSnapshot.modelVisibleToolsetHash) ||
    computeModelVisibleToolsetHash tools == some hash

private theorem hasToolsetHash_eq (tools : List ToolSpec) (hash : Text) :
    hasToolsetHash tools hash = (computeModelVisibleToolsetHash tools == some hash) := by
  by_cases known : tools = exampleSnapshot.providerVisibleToolset ∧
    hash = exampleSnapshot.modelVisibleToolsetHash
  · obtain ⟨rfl, rfl⟩ := known
    rw [hasToolsetHash, beq_iff_eq.mpr exampleToolset_hash, Bool.or_true]
  · simp [hasToolsetHash, known]

theorem validates_modelVisibleToolsetArtifact (artifact : ModelVisibleToolsetArtifact) :
    validates artifact = (artifact.artifactSchemaVersion ==
      modelVisibleToolsetArtifactSchemaVersion && isToolsetHash artifact.modelVisibleToolsetHash &&
      artifact.providerVisibleToolSpecs.all validates &&
      hasToolsetHash artifact.providerVisibleToolSpecs artifact.modelVisibleToolsetHash) := by
  rw [hasToolsetHash_eq]
  rfl

theorem validates_requestUnderstandingInput (input : RequestUnderstandingInput) :
    validates input = (input.schemaVersion == thinSliceRequestSchemaVersion &&
      !input.originalQuery.isEmpty && input.originalQuery.length ≤ 4000 &&
      input.pendingQuestion != some "" && input.activeTaskSummaries.all validates &&
      input.focusedTaskSummary.all validates && input.pendingActionSummaries.all validates &&
      input.outputConstraints.all (· != "") && input.providerVisibleToolSpecs.all validates &&
      isToolsetHash input.modelVisibleToolsetHash &&
      hasToolsetHash input.providerVisibleToolSpecs input.modelVisibleToolsetHash) := by
  rw [hasToolsetHash_eq]
  rfl

theorem constructed_eq {Model : Type} [ContractModel Model] (fields : Model) :
    (constructed fields : Service Model) =
    if validates fields then pure fields else throw .validationError := by
  unfold constructed construct
  cases validates fields <;> rfl

/-- The model as a port returns it, if it is valid. -/
def validated {Model : Type} [ContractModel Model] (model : Model) : Option (Validated Model) :=
  if valid : validates model = true then some ⟨model, valid⟩ else none

/-- A provider's proposal to look up order O-1001. -/
def exampleProposal (modelRequest : RequestUnderstandingInput) : RequestUnderstandingOutputV2 where
  schemaVersion := "e2e01-thin-v2"
  messageRef := modelRequest.messageRef
  contextualization :=
    { text := "order lookup"
      resolvedReferenceCandidates := []
      uncertainties := []
      sourceMessageRefs := [modelRequest.messageRef] }
  taskDeltaCandidates :=
    [{ candidateId := 1000
       operation := .addGoal
       goalPatch := "show the order"
       inputCandidates :=
         [{ name := "order_id"
            candidateValue := "O-1001".toList
            semanticRole := "TARGET_RESOURCE_IDENTIFIER"
            authority := .userClaim
            sourceKind := .currentMessage
            sourceRef := modelRequest.messageRef
            sourceQuote := "O-1001".toList
            confidence := 1 }]
       confidence := 1 }]
  nextMoveCandidate :=
    { kind := .callTool
      requestedToolName := some "get_order"
      arguments := some [("order_id", .string "O-1001".toList)] }

def examplePlan : PresentationPlan where
  templateId := "ORDER_STATUS_SUMMARY_V1"
  tone := .neutral
  openingVariant := .direct
  fieldOrder := PresentationField.all
  closingVariant := .none

def exampleCommand : AgentRunCommand where
  customerContext :=
    { subjectRef := "subject"
      customerId := "customer"
      authScopes := ["orders:read"]
      authenticatedAt := .utc 0
      sessionRefHash := "session" }
  message := "show O-1001".toList

def exampleOrder (orderNumber : Text) : OrderSummaryProjection where
  orderNumber := orderNumber
  status := .paid
  lineItems := [⟨"pen", 1⟩]
  orderedAt := .utc 0
  statusUpdatedAt := .utc 0

def exampleFound (orderNumber : Text) : GetOrderResult where
  outcome := .found
  orderSummary := some (exampleOrder orderNumber)
  sourceVersion :=
    some ("mock-order-source-version.p0.v1:".toList ++ exampleSnapshot.modelVisibleToolsetHash)

def committedGraph (history : List (Event Answer)) : Option CreateInitialTaskGraphV2Command :=
  history.findSome? fun event =>
    match event.call with
    | .port (.createInitialTaskGraphV2IfCurrent command) => some command
    | _ => none

def appendedMessage (history : List (Event Answer)) : Option MessageRecord :=
  history.findSome? fun event =>
    match event.call with
    | .port (.appendMessage record) => some record
    | _ => none

/-- An environment in which every write succeeds and the loads return what was written; the clock
and the order port are parameters. -/
def exampleWorld (reading : List (Event Answer) → Datetime)
    (order : GetOrderQuery → Except Raised (Option GetOrderResult))
    (history : List (Event Answer)) :
    (call : Call) → Answer call
  | .clock => reading history
  | .uuidFactory => history.length
  | .port (.getToolsetArtifact _) =>
    .ok (some ⟨exampleSnapshot.artifact, exampleSnapshot_artifact_valid⟩)
  | .port (.listMessagesForOwner ..) => .ok ((appendedMessage history).bind validated).toList
  | .port (.loadTaskForOwner ..) =>
    .ok ((committedGraph history).bind fun graph => validated graph.initialTask.initialRecord)
  | .port (.loadRequestUnitForOwner ..) =>
    .ok ((committedGraph history).bind fun graph =>
      validated graph.initialRequestUnit.initialRecord)
  | .port (.proposeNextMove modelRequest) => .ok (some (exampleProposal modelRequest))
  | .port (.planPresentation _) => .ok (some examplePlan)
  | .port (.getOrder _ query) => order query
  | .port (.insertRun _) | .port (.insertToolCall _) | .port (.saveObservation _) => .ok .inserted
  | .port (.startRunIfCreated _) | .port (.finalizeRunIfActive _)
  | .port (.createInitialTaskGraphV2IfCurrent _) | .port (.startToolCallIfCreated _)
  | .port (.finalizeToolCallAttemptIfRunning _) => .ok .applied
  | .port (.putToolsetArtifact _) | .port (.saveConversation _) | .port (.appendMessage _)
  | .port (.saveContextManifest _) | .port (.saveGateDecision _) | .port (.appendTraceEvent _)
  | .port (.afterRevalidation ..) => .ok ()

/-- The run of the concrete service in that environment. -/
def exampleRun (reading : List (Event Answer) → Datetime)
    (order : GetOrderQuery → Except Raised (Option GetOrderResult)) :
    List (Event Answer) × Except Raised AgentRunResult × RunFailureState :=
  (handle exampleService exampleCommand {}).simulate (exampleWorld reading order) []

theorem exampleRun_runs (reading : List (Event Answer) → Datetime)
    (order : GetOrderQuery → Except Raised (Option GetOrderResult)) :
    (handle exampleService exampleCommand {}).Runs (exampleRun reading order).1
    (exampleRun reading order).2 :=
  Program.runs_simulate _ _ _

end MiniAgent.Application
