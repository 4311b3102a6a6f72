import MiniAgent.Application.Records
import MiniAgent.Core.Order
import MiniAgent.Library.Keyed

/-! # Write commands of the record ports

A command carries the projections a write expects and the projections it leaves behind; its
validator makes them one consistent step. The results say what the store did with a command.
-/

namespace MiniAgent.Application

open MiniAgent.Core ContractModel Keyed

instance : ContractModel TrustedOwnerScope where
  validates scope := scope.customerId != ""

/-- `_RUN_STABLE_FIELDS` are the same in both records. -/
def sameRunStableFields (left right : AgentRunRecord) : Bool :=
  left.runId == right.runId && left.conversationId == right.conversationId &&
    left.providerLane == right.providerLane && left.startedAt == right.startedAt

/-- Insert-only clean CREATED Run projection. -/
structure CreateRunCommand where
  createdRecord : AgentRunRecord
deriving DecidableEq, Repr

instance : ContractModel CreateRunCommand where
  validates command := validates command.createdRecord &&
    command.createdRecord.status == .created &&
    command.createdRecord.completedAt.isNone && command.createdRecord.stopReason.isNone &&
    command.createdRecord.incompleteReason.isNone

/-- Conditional normal start from an exact CREATED Run projection. -/
structure TransitionRunCommand where
  expectedActiveRecord : AgentRunRecord
  nextRecord : AgentRunRecord
deriving DecidableEq, Repr

instance : ContractModel TransitionRunCommand where
  validates command := validates command.expectedActiveRecord && validates command.nextRecord &&
    command.expectedActiveRecord.status == .created &&
      command.expectedActiveRecord.incompleteReason.isNone &&
    command.nextRecord.status == .running && command.nextRecord.incompleteReason.isNone &&
    sameRunStableFields command.expectedActiveRecord command.nextRecord

/-- Persist an InputBinding with its external-required RequestUnit identity. -/
structure SaveInputBindingCommand where
  record : InputBinding
  requestUnitId : Uuid
deriving DecidableEq, Repr

instance : ContractModel SaveInputBindingCommand where
  validates command := validates command.record && allDistinct command.record.sourceRefs

/-- Every Message identity that a Request Understanding record refers to. -/
def referencedMessageIdsV2 (record : RequestUnderstandingRecordV2) : List Uuid :=
  record.messageRef :: record.contextualization.sourceMessageRefs ++
    record.contextualization.resolvedReferenceCandidates.map (·.sourceRef) ++
    record.contextualization.uncertainties.flatMap (·.sourceMessageRefs) ++
    record.taskDeltaCandidates.flatMap fun candidate => candidate.inputCandidates.map (·.sourceRef)

/-- The current Message of a record among the expected ones. -/
def currentMessages (messages : List MessageRecord) (record : RequestUnderstandingRecordV2) :
    List MessageRecord := messages.filter (·.messageId == record.messageRef)

def validateV2OwnerRootsAndMessages (ownerScope : TrustedOwnerScope)
    (conversation : ConversationRecord) (messages : List MessageRecord) (run : AgentRunRecord)
    (record : RequestUnderstandingRecordV2) : Bool :=
  validates ownerScope && validates conversation && messages.all validates && validates run &&
  allDistinct (messages.map (·.messageId)) &&
    conversation.ownerCustomerId == ownerScope.customerId &&
  (messages.all (·.conversationId == conversation.conversationId)) &&
  sameSet (messages.map (·.messageId)) (referencedMessageIdsV2 record) &&
  (currentMessages messages record).length == 1 &&
    (currentMessages messages record).all (·.direction == .user) &&
  run.status == .running && run.incompleteReason.isNone &&
  run.conversationId == some conversation.conversationId && record.runId == run.runId &&
  ((currentMessages messages record).all fun current =>
    decide (current.receivedAt.instant ≤ record.createdAt.instant)) &&
  decide (run.startedAt.instant ≤ record.createdAt.instant)

/-- One exact RU-v2 parent/accepted-child logical aggregate. -/
structure SaveRequestUnderstandingV2AcceptedCommand where
  record : RequestUnderstandingRecordV2
  acceptedDelta : AcceptedTaskDeltaV2
deriving DecidableEq, Repr

instance : ContractModel SaveRequestUnderstandingV2AcceptedCommand where
  validates command :=
    let record := command.record
    let child := command.acceptedDelta
    validates record && validates child &&
    match record.taskDeltaCandidates, record.candidateValidation with
    | [candidate], [decision] =>
      decision.candidateRef == candidate.candidateId && decision.decision == .accept &&
        record.acceptedDeltaRefs == [child.acceptedDeltaId] &&
          child.candidateRef == candidate.candidateId &&
        child.messageRef == record.messageRef && child.operation == candidate.operation &&
        child.goalText == candidate.goalPatch && child.inputBindingRefs.length == 1 &&
        child.baseTaskStateVersion.isNone && child.resultTaskStateVersion == 1 &&
        record.proposedBaseTaskStateVersion.isNone && record.validatedTaskStateVersion == some 1 &&
        record.nextMoveCandidateRef.isSome && record.createdAt == child.acceptedAt
    | _, _ => false

/-- Insert-only Task command; Reducer owns status, this freezes version 1. -/
structure CreateTaskCommand where
  initialRecord : TaskRecord
deriving DecidableEq, Repr

instance : ContractModel CreateTaskCommand where
  validates command := validates command.initialRecord && command.initialRecord.stateVersion == 1

/-- Insert-only RequestUnit command; Reducer owns status, this freezes version 1. -/
structure CreateRequestUnitCommand where
  initialRecord : RequestUnitRecord
deriving DecidableEq, Repr

instance : ContractModel CreateRequestUnitCommand where
  validates command := validates command.initialRecord && command.initialRecord.stateVersion == 1

/-- Insert-only active Run-to-Task link command. -/
structure CreateRunTaskLinkCommand where
  activeRecord : RunTaskLinkRecord
deriving DecidableEq, Repr

instance : ContractModel CreateRunTaskLinkCommand where
  validates command := validates command.activeRecord &&
    command.activeRecord.resultTaskStateVersion.isNone

/-- One conditional RU-v2 exact-one initial graph write. -/
structure CreateInitialTaskGraphV2Command where
  ownerScope : TrustedOwnerScope
  expectedConversationRecord : ConversationRecord
  expectedMessageRecords : List MessageRecord
  expectedActiveRunRecord : AgentRunRecord
  requestUnderstanding : SaveRequestUnderstandingV2AcceptedCommand
  initialTask : CreateTaskCommand
  initialRequestUnit : CreateRequestUnitCommand
  inputBinding : SaveInputBindingCommand
  conversationTaskLink : ConversationTaskLinkRecord
  runTaskLink : CreateRunTaskLinkCommand
deriving DecidableEq, Repr

namespace CreateInitialTaskGraphV2Command

variable (command : CreateInitialTaskGraphV2Command)

abbrev record : RequestUnderstandingRecordV2 := command.requestUnderstanding.record

abbrev child : AcceptedTaskDeltaV2 := command.requestUnderstanding.acceptedDelta

abbrev task : TaskRecord := command.initialTask.initialRecord

abbrev unit : RequestUnitRecord := command.initialRequestUnit.initialRecord

abbrev binding : InputBinding := command.inputBinding.record

abbrev runLink : RunTaskLinkRecord := command.runTaskLink.activeRecord

/-- The binding is the candidate's only accepted input. -/
def projectsCandidateInput : Bool :=
  match command.record.taskDeltaCandidates with
  | candidate :: _ =>
    match candidate.inputCandidates with
    | input :: _ =>
      command.binding.name == input.name &&
        normalizeOrderId input.candidateValue == some command.binding.normalizedValue &&
        command.binding.authority == input.authority &&
          command.binding.sourceRefs == [input.sourceRef]
    | [] => false
  | [] => false

def isCleanTask : Bool :=
  command.task.ownerCustomerId == command.ownerScope.customerId && command.task.status == .active &&
    command.task.stateVersion == 1 && command.task.lastOutcomeRef.isNone

def isCleanRequestUnit : Bool :=
  let unit := command.unit
  unit.taskId == command.task.taskId && unit.goalText == command.child.goalText &&
    unit.goalSourceRefs == [command.record.messageRef] &&
      unit.inputBindingRefs == [command.binding.bindingId] &&
    unit.status == .active && unit.stateVersion == 1 && unit.contextualizationRef.isNone &&
    unit.constraintRefs.isEmpty && unit.dependencyRefs.isEmpty && unit.openQuestions.isEmpty &&
    unit.observationRefs.isEmpty && unit.evidenceBindingRefs.isEmpty &&
      unit.pendingActionRef.isNone &&
    unit.resultRefs.isEmpty

def isCleanInputBinding : Bool :=
  command.inputBinding.requestUnitId == command.unit.requestUnitId &&
    command.binding.validationStatus == .accepted && command.binding.confirmedByUser &&
    command.binding.supersedes.isNone

def childBindsInitialTask : Bool :=
  command.child.taskId == command.task.taskId &&
    command.child.inputBindingRefs == [command.binding.bindingId] &&
    command.child.baseTaskStateVersion.isNone &&
    command.child.resultTaskStateVersion == command.task.stateVersion &&
    command.child.resultTaskStateVersion == command.unit.stateVersion

/-- The identities that one reduction generated. -/
def generatedIds : List (Option Uuid) :=
  [some command.record.requestUnderstandingRecordId, command.record.nextMoveCandidateRef,
    some command.child.acceptedDeltaId, some command.task.taskId, some command.unit.requestUnitId,
    some command.binding.bindingId]

def linksInitialTask : Bool :=
  command.conversationTaskLink.conversationId ==
    command.expectedConversationRecord.conversationId &&
    command.conversationTaskLink.taskId == command.task.taskId &&
      command.conversationTaskLink.endedAt.isNone &&
    command.runLink.runId == command.expectedActiveRunRecord.runId &&
    command.runLink.taskId == command.task.taskId && command.runLink.baseTaskStateVersion.isNone &&
    command.runLink.resultTaskStateVersion.isNone

/-- One trusted timestamp, not before the current Message or the Run. -/
def usesOneTimestamp : Bool :=
  let initialAt := command.record.createdAt
  ([command.child.acceptedAt, command.task.createdAt, command.task.updatedAt,
    command.unit.createdAt, command.unit.updatedAt, command.binding.createdAt,
    command.binding.updatedAt,
    command.conversationTaskLink.linkedAt].all (· == initialAt)) &&
  ((currentMessages command.expectedMessageRecords command.record).all fun current =>
    decide (current.receivedAt.instant ≤ initialAt.instant)) &&
  decide (command.expectedActiveRunRecord.startedAt.instant ≤ initialAt.instant)

instance : ContractModel CreateInitialTaskGraphV2Command where
  validates command :=
    !command.expectedMessageRecords.isEmpty && decide (command.expectedMessageRecords.length ≤ 8) &&
    validates command.requestUnderstanding && validates command.initialTask &&
    validates command.initialRequestUnit && validates command.inputBinding &&
    validates command.conversationTaskLink && validates command.runTaskLink &&
    validateV2OwnerRootsAndMessages command.ownerScope command.expectedConversationRecord
      command.expectedMessageRecords command.expectedActiveRunRecord command.record &&
    command.projectsCandidateInput && command.isCleanTask && command.isCleanRequestUnit &&
    command.isCleanInputBinding && command.childBindsInitialTask &&
      allDistinct command.generatedIds &&
    command.linksInitialTask && command.usesOneTimestamp

end CreateInitialTaskGraphV2Command

/-- Conditional RU-v2 parent write with no accepted Task effect. -/
structure SaveRequestUnderstandingV2NoTaskCommand where
  ownerScope : TrustedOwnerScope
  expectedConversationRecord : ConversationRecord
  expectedMessageRecords : List MessageRecord
  expectedActiveRunRecord : AgentRunRecord
  requestUnderstandingRecord : RequestUnderstandingRecordV2
deriving DecidableEq, Repr

instance : ContractModel SaveRequestUnderstandingV2NoTaskCommand where
  validates command :=
    let record := command.requestUnderstandingRecord
    !command.expectedMessageRecords.isEmpty && decide (command.expectedMessageRecords.length ≤ 8) &&
    validates record &&
    validateV2OwnerRootsAndMessages command.ownerScope command.expectedConversationRecord
      command.expectedMessageRecords command.expectedActiveRunRecord record &&
    record.acceptedDeltaRefs.isEmpty && (record.candidateValidation.all (·.decision != .accept)) &&
    record.proposedBaseTaskStateVersion.isNone && record.validatedTaskStateVersion.isNone &&
    record.nextMoveCandidateRef.isNone

/-- `_REQUEST_UNIT_STABLE_FIELDS` are the same in both records. -/
def sameRequestUnitStableFields (left right : RequestUnitRecord) : Bool :=
  left.requestUnitId == right.requestUnitId && left.taskId == right.taskId &&
    left.goalText == right.goalText &&
    left.goalSourceRefs == right.goalSourceRefs &&
      left.contextualizationRef == right.contextualizationRef &&
    left.constraintRefs == right.constraintRefs && left.dependencyRefs == right.dependencyRefs &&
    left.inputBindingRefs == right.inputBindingRefs && left.createdAt == right.createdAt

/-- Atomically advance one Task, RequestUnit and TaskStateTransition. -/
structure ApplyTaskTransitionCommand where
  expectedTaskRecord : TaskRecord
  nextTaskRecord : TaskRecord
  expectedRequestUnitRecord : RequestUnitRecord
  nextRequestUnitRecord : RequestUnitRecord
  taskStateTransition : TaskStateTransition
deriving DecidableEq, Repr

namespace ApplyTaskTransitionCommand

variable (command : ApplyTaskTransitionCommand)

/-- The identity, the owner and the creation time of the Task stay. -/
def sameTaskStableFields : Bool :=
  command.expectedTaskRecord.taskId == command.nextTaskRecord.taskId &&
    command.expectedTaskRecord.ownerCustomerId == command.nextTaskRecord.ownerCustomerId &&
    command.expectedTaskRecord.createdAt == command.nextTaskRecord.createdAt

def bindsOneTaskAndUnit : Bool :=
  command.expectedRequestUnitRecord.taskId == command.expectedTaskRecord.taskId &&
    command.nextRequestUnitRecord.taskId == command.nextTaskRecord.taskId &&
    command.taskStateTransition.taskId == command.expectedTaskRecord.taskId &&
    command.taskStateTransition.requestUnitId == command.expectedRequestUnitRecord.requestUnitId

def matchesVersions : Bool :=
  command.expectedTaskRecord.stateVersion == command.taskStateTransition.baseStateVersion &&
    command.expectedRequestUnitRecord.stateVersion ==
      command.taskStateTransition.baseStateVersion &&
    command.nextTaskRecord.stateVersion == command.taskStateTransition.resultStateVersion &&
    command.nextRequestUnitRecord.stateVersion == command.taskStateTransition.resultStateVersion

def matchesStatuses : Bool :=
  command.expectedTaskRecord.status == command.taskStateTransition.fromStatus &&
    command.expectedRequestUnitRecord.status == command.taskStateTransition.fromStatus &&
    command.nextTaskRecord.status == command.taskStateTransition.toStatus &&
    command.nextRequestUnitRecord.status == command.taskStateTransition.toStatus

def usesChangeTimestamp : Bool :=
  decide (command.expectedTaskRecord.updatedAt.instant ≤
    command.nextTaskRecord.updatedAt.instant) &&
    decide (command.expectedRequestUnitRecord.updatedAt.instant ≤
      command.nextRequestUnitRecord.updatedAt.instant) &&
    command.nextTaskRecord.updatedAt == command.taskStateTransition.changedAt &&
    command.nextRequestUnitRecord.updatedAt == command.taskStateTransition.changedAt

instance : ContractModel ApplyTaskTransitionCommand where
  validates command := validates command.expectedTaskRecord && validates command.nextTaskRecord &&
    validates command.expectedRequestUnitRecord && validates command.nextRequestUnitRecord &&
    validates command.taskStateTransition && command.sameTaskStableFields &&
    sameRequestUnitStableFields command.expectedRequestUnitRecord command.nextRequestUnitRecord &&
    command.bindsOneTaskAndUnit && command.matchesVersions && command.matchesStatuses &&
    command.usesChangeTimestamp

end ApplyTaskTransitionCommand

/-- The closed matrix of completed Runs: stop reason, has a Task, outcome, Task status. -/
def completedFinalizationRows : List (StopReason × Bool × AgentOutcome × Option TaskStatus) :=
  [(.goalCompleted, true, .completed, some .completed),
    (.notFoundOrNotAccessible, true, .notFoundOrNotAccessible, some .completed),
    (.providerProtocolError, false, .blocked, none),
    (.providerProtocolError, true, .blocked, some .blocked),
    (.inputInvalid, false, .blocked, none),
    (.gateRejected, true, .blocked, some .blocked),
    (.orderServiceUnavailable, true, .blocked, some .blocked),
    (.presentationPlanRejected, true, .blocked, some .blocked),
    (.rendererInvariantFailed, true, .blocked, some .blocked)]

/-- Only the fields that a RunStopped event may carry. -/
def runStoppedProjection (event : TraceEvent) : TraceEvent where
  traceEventId := event.traceEventId
  eventType := event.eventType
  occurredAt := event.occurredAt
  runId := event.runId
  userOutcome := event.userOutcome
  stopReason := event.stopReason

/-- Only the fields that a TaskStateChanged event may carry. -/
def taskStateChangedProjection (event : TraceEvent) : TraceEvent where
  traceEventId := event.traceEventId
  eventType := event.eventType
  occurredAt := event.occurredAt
  runId := event.runId
  taskId := event.taskId
  requestUnitId := event.requestUnitId

/-- `_TERMINAL_TRACE_ALLOWED_FIELDS`: what a terminal Trace event may carry, by its kind. -/
def terminalTraceProjection (event : TraceEvent) : TraceEvent :=
  match event.eventType with
  | .taskStateChanged => taskStateChangedProjection event
  | _ => runStoppedProjection event

/-- One validated aggregate for a normal terminal turn. -/
structure FinalizeRunCommand where
  expectedActiveRecord : AgentRunRecord
  terminalRecord : AgentRunRecord
  expectedActiveLinks : List RunTaskLinkRecord
  terminalLinks : List RunTaskLinkRecord
  resultTaskRecords : List TaskRecord
  taskTransition : Option ApplyTaskTransitionCommand := none
  terminalResult : Option AgentRunResult := none
  assistantMessage : Option MessageRecord := none
  terminalTraceEvents : List TraceEvent := []
deriving DecidableEq, Repr

namespace FinalizeRunCommand

variable (command : FinalizeRunCommand)

def nestedModelsValidate : Bool :=
  validates command.expectedActiveRecord && validates command.terminalRecord &&
    command.expectedActiveLinks.all validates && command.terminalLinks.all validates &&
    command.resultTaskRecords.all validates && command.taskTransition.all validates &&
    command.terminalResult.all validates && command.assistantMessage.all validates &&
    command.terminalTraceEvents.all validates

def boundsHold : Bool :=
  decide (command.expectedActiveLinks.length ≤ 1) && decide (command.terminalLinks.length ≤ 1) &&
    decide (command.resultTaskRecords.length ≤ 1) && decide (command.terminalTraceEvents.length ≤ 2)

def terminalRunIsConsistent : Bool :=
  let expected := command.expectedActiveRecord
  let terminal := command.terminalRecord
  expected.status == .running && expected.incompleteReason.isNone &&
    (terminal.status == .completed || terminal.status == .failed) &&
    terminal.stopReason != some .processRestartDetected && terminal.incompleteReason.isNone &&
    !(terminal.status == .completed && terminal.conversationId.isNone) &&
    !(terminal.status == .failed && terminal.stopReason.isSome) &&
      sameRunStableFields expected terminal

/-- The terminal links close exactly the active ones, at the versions of the result Tasks. -/
def linksAreClosed : Bool :=
  (command.expectedActiveLinks.all fun link =>
    link.runId == command.expectedActiveRecord.runId && link.resultTaskStateVersion.isNone) &&
  allDistinct (command.expectedActiveLinks.map (·.taskId)) &&
  (command.terminalLinks.all fun link =>
    link.runId == command.expectedActiveRecord.runId && link.resultTaskStateVersion.isSome) &&
  allDistinct (command.terminalLinks.map (·.taskId)) &&
  sameSet (command.expectedActiveLinks.map (·.taskId)) (command.terminalLinks.map (·.taskId)) &&
  (command.expectedActiveLinks.all fun expected =>
    (lastByKey (·.taskId) command.terminalLinks expected.taskId).any fun terminal =>
      terminal.schemaVersion == expected.schemaVersion &&
        terminal.baseTaskStateVersion == expected.baseTaskStateVersion) &&
  allDistinct (command.resultTaskRecords.map (·.taskId)) &&
  sameSet (command.resultTaskRecords.map (·.taskId)) (command.terminalLinks.map (·.taskId)) &&
  command.terminalLinks.all fun terminal =>
    (lastByKey (·.taskId) command.resultTaskRecords terminal.taskId).any fun task =>
      terminal.resultTaskStateVersion == some task.stateVersion

/-- A FAILED Run leaves no transition, result, Message or Trace. -/
def carriesNoResult : Bool :=
  command.taskTransition.isNone && command.terminalResult.isNone &&
    command.assistantMessage.isNone &&
    command.terminalTraceEvents.isEmpty

/-- The transition is the one of the only link's Task. -/
def transitionClosesLink (transition : ApplyTaskTransitionCommand) : Bool :=
  (command.expectedActiveLinks.any fun link =>
    transition.expectedTaskRecord.taskId == link.taskId &&
      transition.nextTaskRecord.taskId == link.taskId &&
      link.baseTaskStateVersion.all fun base =>
        decide (base ≤ transition.expectedTaskRecord.stateVersion)) &&
  transition.nextTaskRecord.status == transition.nextRequestUnitRecord.status &&
  transition.nextTaskRecord.stateVersion == transition.nextRequestUnitRecord.stateVersion &&
  command.resultTaskRecords == [transition.nextTaskRecord] &&
  command.terminalRecord.completedAt.all fun completed =>
    decide (transition.taskStateTransition.changedAt.instant ≤ completed.instant)

/-- `TaskStateChanged` reports the transition. -/
def reportsTransition (transition : ApplyTaskTransitionCommand) (taskChanged : TraceEvent) : Bool :=
  taskChanged.taskId == some transition.nextTaskRecord.taskId &&
    taskChanged.requestUnitId == some transition.nextRequestUnitRecord.requestUnitId &&
    taskChanged.occurredAt == transition.taskStateTransition.changedAt

/-- `RunStopped` reports the terminal Run and its result. -/
def reportsStop (result : AgentRunResult) (runStopped : TraceEvent) : Bool :=
  runStopped.stopReason == command.terminalRecord.stopReason &&
    runStopped.userOutcome == some result.outcome &&
    some runStopped.occurredAt == command.terminalRecord.completedAt

def traceIsExact (result : AgentRunResult) : Bool :=
  allDistinct (command.terminalTraceEvents.map (·.traceEventId)) &&
  (command.terminalTraceEvents.all fun event =>
    event.runId == command.terminalRecord.runId && event == terminalTraceProjection event) &&
  match command.taskTransition, command.terminalTraceEvents with
  | none, [runStopped] => runStopped.eventType == .runStopped &&
      command.reportsStop result runStopped
  | some transition, [taskChanged, runStopped] =>
    taskChanged.eventType == .taskStateChanged && runStopped.eventType == .runStopped &&
      reportsTransition transition taskChanged && command.reportsStop result runStopped
  | _, _ => false

def messageIsExact (result : AgentRunResult) (message : MessageRecord) : Bool :=
  message.schemaVersion == "message_record.p0.v1" && message.direction == .assistant &&
    some message.conversationId == command.terminalRecord.conversationId &&
    message.content == result.message &&
      some message.receivedAt == command.terminalRecord.completedAt

def completionIsExact : Bool :=
  command.taskTransition.isSome == !command.expectedActiveLinks.isEmpty &&
  match command.terminalResult, command.assistantMessage, command.terminalRecord.stopReason with
  | some result, some message, some stopReason =>
    command.taskTransition.all command.transitionClosesLink &&
      completedFinalizationRows.contains
        (stopReason, !command.expectedActiveLinks.isEmpty, result.outcome,
          command.taskTransition.map (·.nextTaskRecord.status)) &&
      result.runId == command.terminalRecord.runId && command.messageIsExact result message &&
      command.traceIsExact result
  | _, _, _ => false

instance : ContractModel FinalizeRunCommand where
  validates command := command.nestedModelsValidate && command.boundsHold &&
    command.terminalRunIsConsistent &&
    command.linksAreClosed &&
    if command.terminalRecord.status == .failed then command.carriesNoResult
      else command.completionIsExact

end FinalizeRunCommand

/-- `_TOOL_IMMUTABLE_FIELDS` are the same in both records. -/
def sameToolImmutableFields (left right : ToolCallRecord) : Bool :=
  left.toolCallId == right.toolCallId && left.runId == right.runId && left.taskId == right.taskId &&
    left.requestUnitId == right.requestUnitId && left.modelCallId == right.modelCallId &&
    left.contextManifestId == right.contextManifestId &&
      left.gateDecisionId == right.gateDecisionId &&
    left.providerToolCallId == right.providerToolCallId &&
      left.canonicalToolName == right.canonicalToolName &&
    left.toolRegistryVersion == right.toolRegistryVersion &&
    left.validatedTaskStateVersion == right.validatedTaskStateVersion &&
    left.argumentBindingRefs == right.argumentBindingRefs && left.effect == right.effect &&
    left.startedAt == right.startedAt

/-- No terminal and no result projection. -/
def isCleanToolCall (call : ToolCallRecord) : Bool :=
  call.finishedAt.isNone && call.failureCode.isNone && call.timeoutPhase.isNone &&
    call.interruptionReason.isNone && call.resultRef.isNone

def isUnfinishedAttempt (attempt : ToolAttemptRecord) : Bool :=
  attempt.finishedAt.isNone && attempt.outcome.isNone && attempt.failureCode.isNone

/-- Insert-only pre-dispatch ToolCall command. -/
structure CreateToolCallCommand where
  createdRecord : ToolCallRecord
deriving DecidableEq, Repr

instance : ContractModel CreateToolCallCommand where
  validates command := validates command.createdRecord &&
    command.createdRecord.status == .created &&
    command.createdRecord.attemptCount == 0 && isCleanToolCall command.createdRecord

/-- Atomic P0 dispatch fence: RUNNING plus the first started attempt. -/
structure DispatchToolCallCommand where
  expectedCreatedRecord : ToolCallRecord
  runningRecord : ToolCallRecord
  startedAttempt : ToolAttemptRecord
deriving DecidableEq, Repr

instance : ContractModel DispatchToolCallCommand where
  validates command :=
    let expected := command.expectedCreatedRecord
    let record := command.runningRecord
    let attempt := command.startedAttempt
    validates expected && validates record && validates attempt && expected.status == .created &&
      expected.attemptCount == 0 && record.status == .running && record.attemptCount == 1 &&
      attempt.attemptNo == 1 && sameToolImmutableFields expected record &&
      record.toolCallId == attempt.toolCallId && isCleanToolCall expected &&
        isUnfinishedAttempt attempt &&
      record.failureCode.isNone && record.resultRef.isNone

/-- The outcomes that a terminal ToolCall status allows. -/
def terminalToolOutcomes : ToolCallStatus → Option (List ToolResultOutcome)
  | .succeeded => some [.success]
  | .failed => some [.businessFailure, .systemFailure]
  | .timedOut => some [.timeout]
  | .interrupted => some [.interrupted]
  | .created | .running => none

/-- Atomic P0 finalization of a terminal ToolCall and its first attempt. -/
structure FinalizeToolCallCommand where
  expectedRunningRecord : ToolCallRecord
  expectedStartedAttempt : ToolAttemptRecord
  terminalRecord : ToolCallRecord
  finalizedAttempt : ToolAttemptRecord
deriving DecidableEq, Repr

instance : ContractModel FinalizeToolCallCommand where
  validates command :=
    let expected := command.expectedRunningRecord
    let started := command.expectedStartedAttempt
    let record := command.terminalRecord
    let attempt := command.finalizedAttempt
    validates expected && validates started && validates record && validates attempt &&
      expected.status == .running && expected.attemptCount == 1 &&
      (terminalToolOutcomes record.status).isSome &&
      record.attemptCount == 1 && attempt.attemptNo == 1 &&
        started.toolCallId == expected.toolCallId &&
      started.attemptNo == expected.attemptCount && isUnfinishedAttempt started &&
      sameToolImmutableFields expected record && record.toolCallId == attempt.toolCallId &&
      attempt.toolCallId == started.toolCallId && attempt.attemptNo == started.attemptNo &&
      attempt.startedAt == started.startedAt && isCleanToolCall expected &&
        attempt.finishedAt.isSome &&
      (attempt.outcome.any (· ∈ (terminalToolOutcomes record.status).getD [])) &&
      record.finishedAt == attempt.finishedAt && record.failureCode == attempt.failureCode

/-- Persist a safe Observation against one exact successful Read ToolCall. -/
structure SaveObservationCommand where
  ownerScope : TrustedOwnerScope
  observationRecord : OrderObservation
  sourceToolCallRecord : ToolCallRecord
deriving DecidableEq, Repr

instance : ContractModel SaveObservationCommand where
  validates command := validates command.ownerScope && validates command.observationRecord &&
    validates command.sourceToolCallRecord && command.sourceToolCallRecord.status == .succeeded &&
    command.sourceToolCallRecord.effect == .read &&
    command.sourceToolCallRecord.canonicalToolName == "get_order" &&
    command.observationRecord.sourceTool == "get_order"

/-- Explicit insert result; existing identities are never overwritten. -/
inductive InsertOnlyWriteResult
  | inserted
  | alreadyExists
deriving DecidableEq, Repr

/-- Explicit exact-projection conditional-write result. -/
inductive ConditionalWriteResult
  | applied
  | projectionConflict
  | notApplicable
deriving DecidableEq, Repr

/-- Conditional Observation insert/replay result. -/
inductive ObservationWriteResult
  | inserted
  | alreadyApplied
  | sourceProjectionConflict
deriving DecidableEq, Repr

/-- Conditional durable fence result before any external dispatch. -/
inductive ToolDispatchFenceWriteResult
  | applied
  | statusConflict
  | notApplicable
  | actionLedgerRequired
deriving DecidableEq, Repr

end MiniAgent.Application
