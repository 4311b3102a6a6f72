import MiniAgent.Application.Commands

/-! # The closure of a restart recovery and the command that applies it

A closure is what one active Run holds, as it was read under one fence; its validator looks at the
records that it was given and not at what may have been left out. The command carries for each
active projection of the closure the projection that ends it, and the Trace of doing so.
-/

namespace MiniAgent.Core

/-- `_RECOVERY_ACTIVE_TASK_STATUSES` -/
def TaskStatus.isRecoverable : TaskStatus → Bool
  | active | waitingUser | pendingAction | actionInProgress | recovering => true
  | completed | blocked | cancelled => false

end MiniAgent.Core

namespace MiniAgent.Application

open MiniAgent.Core ContractModel Keyed

/-- Exact fenced startup-recovery mutation result. -/
inductive RecoveryWriteResult
  | applied
  | closureConflict
  | notApplicable
  | reconciliationRequired
deriving DecidableEq, Repr

/-- The one reason that a restart gives. -/
def processRestartDetected : String := "PROCESS_RESTART_DETECTED"

/-- Conditional recovery claim from an exact active Run projection. -/
structure MarkRunIncompleteForRecoveryCommand where
  expectedActiveRecord : AgentRunRecord
  incompleteRecord : AgentRunRecord
deriving DecidableEq, Repr

instance : ContractModel MarkRunIncompleteForRecoveryCommand where
  validates command := validates command.expectedActiveRecord &&
    validates command.incompleteRecord &&
    command.expectedActiveRecord.status.isActive &&
      command.expectedActiveRecord.incompleteReason.isNone &&
    command.incompleteRecord.status == .incomplete &&
    command.incompleteRecord.stopReason == some .processRestartDetected &&
    command.incompleteRecord.incompleteReason.all (· == processRestartDetected) &&
    sameRunStableFields command.expectedActiveRecord command.incompleteRecord

/-- The transition leads from an active Run to one that is not. -/
theorem MarkRunIncompleteForRecoveryCommand.statuses {command : MarkRunIncompleteForRecoveryCommand}
    (valid : validates command = true) :
    command.expectedActiveRecord.status.isActive = true ∧
    command.incompleteRecord.status.isActive = false := by
  change (_ && _ && _ && _ && _ && _ && _ && _) = true at valid
  simp only [Bool.and_eq_true, beq_iff_eq] at valid
  obtain ⟨⟨⟨⟨⟨⟨-, active⟩, -⟩, incomplete⟩, -⟩, -⟩, -⟩ := valid
  exact ⟨active, by rw [incomplete]; rfl⟩

/-- Conditional restart projection without inventing dispatch or outcome. -/
structure InterruptToolCallForRecoveryCommand where
  activeRecord : ToolCallRecord
  interruptedRecord : ToolCallRecord
deriving DecidableEq, Repr

/-- `_RECOVERY_STABLE_TOOL_FIELDS` are the same in both records. -/
def sameRecoveryStableToolFields (left right : ToolCallRecord) : Bool :=
  sameToolImmutableFields left right && left.attemptCount == right.attemptCount &&
    left.failureCode == right.failureCode && left.timeoutPhase == right.timeoutPhase &&
    left.resultRef == right.resultRef

instance : ContractModel InterruptToolCallForRecoveryCommand where
  validates command :=
    let active := command.activeRecord
    let interrupted := command.interruptedRecord
    validates active && validates interrupted && !active.status.isTerminal &&
      interrupted.status == .interrupted &&
      interrupted.interruptionReason == some processRestartDetected &&
        decide (active.attemptCount ≤ 1) &&
      active.failureCode.isNone && active.resultRef.isNone &&
        sameRecoveryStableToolFields active interrupted

/-- Strictly decoded Task plus the complete history visible in this closure. -/
structure TaskRecoveryAggregate where
  taskRecord : TaskRecord
  taskStateTransitions : List TaskStateTransition
deriving DecidableEq, Repr

namespace TaskRecoveryAggregate

/-- The history leads from version 1, one version at a time, to the Task as it stands. -/
def historyIsComplete (task : TaskRecord) (transitions : List TaskStateTransition) : Bool :=
  task.stateVersion == transitions.length + 1 &&
    transitions.map (·.resultStateVersion) == List.range' 2 transitions.length &&
    (transitions.head?.all fun first =>
      decide (task.createdAt.instant ≤ first.changedAt.instant)) &&
    allDistinct (transitions.map fun transition =>
      (transition.taskId, transition.requestUnitId, transition.resultStateVersion)) &&
    transitions.all (·.taskId == task.taskId) &&
    ((transitions.zip transitions.tail).all fun pair => pair.1.toStatus == pair.2.fromStatus) &&
    (transitions.getLast?.all (·.toStatus == task.status)) &&
    ((transitions.zip transitions.tail).all fun pair =>
      decide (pair.1.changedAt.instant ≤ pair.2.changedAt.instant)) &&
    transitions.getLast?.all fun last => decide (last.changedAt.instant ≤ task.updatedAt.instant)

instance : ContractModel TaskRecoveryAggregate where
  validates aggregate := validates aggregate.taskRecord &&
    aggregate.taskStateTransitions.all validates &&
    decide (aggregate.taskStateTransitions.length ≤ 1) &&
    if aggregate.taskRecord.stateVersion == 1 then aggregate.taskStateTransitions.isEmpty
    else historyIsComplete aggregate.taskRecord aggregate.taskStateTransitions

end TaskRecoveryAggregate

/-- Strictly decoded ToolCall plus its exact existing attempt children. -/
structure ToolCallRecoveryAggregate where
  toolCallRecord : ToolCallRecord
  toolAttemptRecords : List ToolAttemptRecord
deriving DecidableEq, Repr

namespace ToolCallRecoveryAggregate

def isFinalized (attempt : ToolAttemptRecord) : Bool :=
  attempt.finishedAt.isSome && attempt.outcome.isSome

/-- The attempts fit the status of their ToolCall. -/
def lifecycleIsConsistent (call : ToolCallRecord) (attempts : List ToolAttemptRecord) : Bool :=
  match call.status with
  | .created => true
  | .running => attempts.dropLast.all isFinalized &&
      attempts.getLast?.any fun last => last.finishedAt.isNone && last.outcome.isNone
  | .interrupted => attempts.dropLast.all isFinalized && attempts.getLast?.all fun last =>
      last.finishedAt.isNone ||
        (last.outcome == some .interrupted && call.finishedAt == last.finishedAt)
  | .succeeded | .failed | .timedOut => attempts.all isFinalized &&
      attempts.getLast?.any fun last =>
      (last.outcome.any (· ∈ (terminalToolOutcomes call.status).getD [])) &&
        call.finishedAt == last.finishedAt &&
        call.failureCode == last.failureCode

instance : ContractModel ToolCallRecoveryAggregate where
  validates aggregate :=
    let call := aggregate.toolCallRecord
    let attempts := aggregate.toolAttemptRecords
    validates call && attempts.all validates && decide (attempts.length ≤ 1) &&
      decide (call.attemptCount ≤ 1) &&
      (call.status.isTerminal || (call.failureCode.isNone && call.resultRef.isNone)) &&
      attempts.map (·.attemptNo) == List.range' 1 call.attemptCount &&
      attempts.all (·.toolCallId == call.toolCallId) && lifecycleIsConsistent call attempts

end ToolCallRecoveryAggregate

/-- Internally consistent decoded recovery graph guarded by an opaque fence. -/
structure RestartRecoveryClosure where
  closureFence : Uuid
  conversationRecord : ConversationRecord
  activeRunRecord : AgentRunRecord
  conversationTaskLinks : List ConversationTaskLinkRecord
  runTaskLinks : List RunTaskLinkRecord
  taskAggregates : List TaskRecoveryAggregate
  requestUnitRecords : List RequestUnitRecord
  toolCallAggregates : List ToolCallRecoveryAggregate
deriving DecidableEq, Repr

namespace RestartRecoveryClosure

variable (closure : RestartRecoveryClosure)

/-- `task_by_id` -/
def taskById (taskId : Uuid) : Option TaskRecord :=
  (lastByKey (·.taskRecord.taskId) closure.taskAggregates taskId).map (·.taskRecord)

def taskIds : List Uuid := closure.taskAggregates.map (·.taskRecord.taskId)

/-- `unit_by_id` -/
def unitById (requestUnitId : Uuid) : Option RequestUnitRecord :=
  lastByKey (·.requestUnitId) closure.requestUnitRecords requestUnitId

/-- `unit_by_task` -/
def unitByTask (taskId : Uuid) : Option RequestUnitRecord :=
  lastByKey (·.taskId) closure.requestUnitRecords taskId

/-- An active Run of this Conversation; one that was only created holds nothing. -/
def runIsActive : Bool :=
  closure.activeRunRecord.status.isActive && closure.activeRunRecord.incompleteReason.isNone &&
    closure.activeRunRecord.conversationId == some closure.conversationRecord.conversationId &&
    !(closure.activeRunRecord.status == .created &&
      !(closure.conversationTaskLinks.isEmpty && closure.runTaskLinks.isEmpty &&
        closure.taskAggregates.isEmpty &&
        closure.requestUnitRecords.isEmpty && closure.toolCallAggregates.isEmpty))

def tasksBelongToOwner : Bool :=
  allDistinct closure.taskIds &&
    closure.taskAggregates.all
      (·.taskRecord.ownerCustomerId == closure.conversationRecord.ownerCustomerId)

def runLinksAreActive : Bool :=
  closure.runTaskLinks.all (·.runId == closure.activeRunRecord.runId) &&
    closure.runTaskLinks.all (·.resultTaskStateVersion.isNone) &&
    allDistinct (closure.runTaskLinks.map (·.taskId)) &&
      sameSet (closure.runTaskLinks.map (·.taskId)) closure.taskIds &&
    closure.runTaskLinks.all fun link => link.baseTaskStateVersion.all fun base =>
      (closure.taskById link.taskId).any fun task => decide (base ≤ task.stateVersion)

def conversationLinksAreActive : Bool :=
  (closure.conversationTaskLinks.all fun link =>
    link.conversationId == closure.conversationRecord.conversationId && link.endedAt.isNone) &&
    allDistinct (closure.conversationTaskLinks.map (·.taskId)) &&
    sameSet (closure.conversationTaskLinks.map (·.taskId)) closure.taskIds

/-- One RequestUnit for each Task, with its status and version. -/
def unitsMatchTasks : Bool :=
  allDistinct (closure.requestUnitRecords.map (·.requestUnitId)) &&
    (closure.requestUnitRecords.all fun unit => (closure.taskById unit.taskId).any fun task =>
      unit.status == task.status && unit.stateVersion == task.stateVersion) &&
    allDistinct (closure.requestUnitRecords.map (·.taskId)) &&
    sameSet (closure.requestUnitRecords.map (·.taskId)) closure.taskIds

def transitionsStayInGraph : Bool :=
  closure.taskAggregates.all fun aggregate => aggregate.taskStateTransitions.all fun transition =>
    (closure.unitById transition.requestUnitId).any (·.taskId == aggregate.taskRecord.taskId)

/-- An active ToolCall of this Run, on a Task and a RequestUnit of this closure. -/
def toolCallIsOwned (call : ToolCallRecord) : Bool :=
  !call.status.isTerminal && call.runId == closure.activeRunRecord.runId &&
    ((closure.taskById call.taskId).any (·.stateVersion == call.validatedTaskStateVersion)) &&
    (closure.unitById call.requestUnitId).any fun unit =>
      unit.taskId == call.taskId && call.argumentBindingRefs.all (· ∈ unit.inputBindingRefs)

instance : ContractModel RestartRecoveryClosure where
  validates closure := validates closure.conversationRecord && validates closure.activeRunRecord &&
    closure.conversationTaskLinks.all validates && closure.runTaskLinks.all validates &&
    closure.taskAggregates.all validates && closure.requestUnitRecords.all validates &&
    closure.toolCallAggregates.all validates && decide (closure.conversationTaskLinks.length ≤ 1) &&
    decide (closure.runTaskLinks.length ≤ 1) && decide (closure.taskAggregates.length ≤ 1) &&
    decide (closure.requestUnitRecords.length ≤ 1) &&
      decide (closure.toolCallAggregates.length ≤ 1) &&
    closure.runIsActive && closure.tasksBelongToOwner && closure.runLinksAreActive &&
    closure.conversationLinksAreActive && closure.unitsMatchTasks &&
      closure.transitionsStayInGraph &&
    allDistinct (closure.toolCallAggregates.map (·.toolCallRecord.toolCallId)) &&
    closure.toolCallAggregates.all fun aggregate => closure.toolCallIsOwned aggregate.toolCallRecord

end RestartRecoveryClosure

/-- One fenced atomic apply for every Runtime/Core recovery projection. -/
structure ApplyRestartRecoveryCommand where
  expectedClosure : RestartRecoveryClosure
  runTransition : MarkRunIncompleteForRecoveryCommand
  toolCallTransitions : List InterruptToolCallForRecoveryCommand
  taskTransitions : List ApplyTaskTransitionCommand
  terminalRunTaskLinks : List RunTaskLinkRecord
  recoveryTraceEvents : List TraceEvent
deriving DecidableEq, Repr

/-- Only the fields that a ToolCallInterrupted event may carry. -/
def toolCallInterruptedProjection (event : TraceEvent) : TraceEvent where
  traceEventId := event.traceEventId
  eventType := event.eventType
  occurredAt := event.occurredAt
  runId := event.runId
  toolCallId := event.toolCallId
  toolCallTerminalStatus := event.toolCallTerminalStatus

/-- `_RECOVERY_TRACE_ALLOWED_FIELDS`: what is left of an event of a supported type. -/
def recoveryTraceProjection (event : TraceEvent) : Option TraceEvent :=
  match event.eventType with
  | .runStopped => some (runStoppedProjection event)
  | .taskStateChanged => some (taskStateChangedProjection event)
  | .toolCallInterrupted => some (toolCallInterruptedProjection event)
  | _ => none

namespace ApplyRestartRecoveryCommand

variable (command : ApplyRestartRecoveryCommand)

/-- `transition_by_task` -/
def transitionByTask (taskId : Uuid) : Option ApplyTaskTransitionCommand :=
  lastByKey (·.expectedTaskRecord.taskId) command.taskTransitions taskId

def toolCallTransitionsAreExact : Bool :=
  let closureCalls := command.expectedClosure.toolCallAggregates.map (·.toolCallRecord)
  allDistinct (command.toolCallTransitions.map (·.activeRecord.toolCallId)) &&
    (command.toolCallTransitions.all fun transition =>
      lastByKey (·.toolCallId) closureCalls transition.activeRecord.toolCallId ==
        some transition.activeRecord) &&
    sameSet (command.toolCallTransitions.map (·.activeRecord.toolCallId))
      (closureCalls.map (·.toolCallId))

def taskTransitionsAreExact : Bool :=
  let closure := command.expectedClosure
  allDistinct (command.taskTransitions.map (·.expectedTaskRecord.taskId)) &&
    (command.taskTransitions.all fun transition =>
      closure.taskById transition.expectedTaskRecord.taskId == some transition.expectedTaskRecord &&
        closure.unitByTask transition.expectedTaskRecord.taskId ==
          some transition.expectedRequestUnitRecord &&
        transition.nextTaskRecord.status == .blocked &&
          transition.nextRequestUnitRecord.status == .blocked) &&
    sameSet (command.taskTransitions.map (·.expectedTaskRecord.taskId))
      (closure.taskIds.filter fun taskId => (closure.taskById taskId).any (·.status.isRecoverable))

/-- The version that a Task has after the recovery. -/
def resultVersion (taskId : Uuid) : Option ℕ :=
  match command.transitionByTask taskId with
  | some transition => some transition.nextTaskRecord.stateVersion
  | none => (command.expectedClosure.taskById taskId).map (·.stateVersion)

/-- A terminal link keeps what its link in the closure says, and ends at the resulting version. -/
def terminalLinkIsExact (link : RunTaskLinkRecord) : Bool :=
  (lastByKey (·.taskId) command.expectedClosure.runTaskLinks link.taskId).any fun expected =>
    link.runId == expected.runId && link.schemaVersion == expected.schemaVersion &&
      link.baseTaskStateVersion == expected.baseTaskStateVersion &&
        link.resultTaskStateVersion.isSome &&
      link.resultTaskStateVersion == command.resultVersion link.taskId

def terminalLinksAreExact : Bool :=
  allDistinct (command.terminalRunTaskLinks.map (·.taskId)) &&
    command.terminalRunTaskLinks.all command.terminalLinkIsExact &&
    sameSet (command.terminalRunTaskLinks.map (·.taskId))
      (command.expectedClosure.runTaskLinks.map (·.taskId))

/-- The events of one type. -/
def eventsOf (eventType : TraceEventType) : List TraceEvent :=
  command.recoveryTraceEvents.filter (·.eventType == eventType)

/-- One RunStopped event, which tells when and why the Run ended. -/
def runStoppedIsExact : Bool :=
  match command.eventsOf .runStopped with
  | [stopped] => stopped.userOutcome == some .blocked &&
      stopped.stopReason == some .processRestartDetected &&
      some stopped.occurredAt == command.runTransition.incompleteRecord.completedAt
  | _ => false

/-- One TaskStateChanged event for each Task transition, at its time. -/
def taskEventsAreExact : Bool :=
  let events := command.eventsOf .taskStateChanged
  let expected := command.taskTransitions.map fun transition =>
    ((some transition.nextTaskRecord.taskId, some transition.nextRequestUnitRecord.requestUnitId),
      transition.taskStateTransition.changedAt)
  allDistinct (events.map fun event => (event.taskId, event.requestUnitId)) &&
    sameSet (events.map fun event => (event.taskId, event.requestUnitId)) (expected.map (·.1)) &&
    expected.all fun entry =>
      (lastByKey (fun event => (event.taskId, event.requestUnitId)) events entry.1).any
      (·.occurredAt == entry.2)

/-- One ToolCallInterrupted event for each interrupted ToolCall, at its time. -/
def toolEventsAreExact : Bool :=
  let events := command.eventsOf .toolCallInterrupted
  let expected := command.toolCallTransitions.map fun transition =>
    (some transition.interruptedRecord.toolCallId, transition.interruptedRecord.finishedAt)
  events.all (·.toolCallTerminalStatus == some .interrupted) &&
    allDistinct (events.map (·.toolCallId)) &&
    sameSet (events.map (·.toolCallId)) (expected.map (·.1)) &&
    expected.all fun entry =>
      (lastByKey (·.toolCallId) events entry.1).any (some ·.occurredAt == entry.2)

def traceIsExact : Bool :=
  allDistinct (command.recoveryTraceEvents.map (·.traceEventId)) &&
    (command.recoveryTraceEvents.all fun event => recoveryTraceProjection event == some event &&
      event.runId == command.expectedClosure.activeRunRecord.runId) &&
    command.runStoppedIsExact && command.taskEventsAreExact && command.toolEventsAreExact

instance : ContractModel ApplyRestartRecoveryCommand where
  validates command := validates command.expectedClosure && validates command.runTransition &&
    command.toolCallTransitions.all validates && command.taskTransitions.all validates &&
    command.terminalRunTaskLinks.all validates && command.recoveryTraceEvents.all validates &&
    decide (command.toolCallTransitions.length ≤ 1) &&
      decide (command.taskTransitions.length ≤ 1) &&
    decide (command.terminalRunTaskLinks.length ≤ 1) && !command.recoveryTraceEvents.isEmpty &&
    decide (command.recoveryTraceEvents.length ≤ 3) &&
    command.runTransition.expectedActiveRecord == command.expectedClosure.activeRunRecord &&
    command.toolCallTransitionsAreExact && command.taskTransitionsAreExact &&
      command.terminalLinksAreExact &&
    command.traceIsExact

variable {command} in
theorem validates_runTransition (valid : validates command = true) :
    validates command.runTransition = true := by
  change (_ && _ && _ && _ && _ && _ && _ && _ && _ && _ && _ && _ && _ && _ && _ && _) = true
    at valid
  simp only [Bool.and_eq_true] at valid
  exact valid.1.1.1.1.1.1.1.1.1.1.1.1.1.1.2

end ApplyRestartRecoveryCommand

end MiniAgent.Application
