import MiniAgent.Core.ToolSystem

/-! # Safe Run and Trace record contracts -/

namespace MiniAgent.Core

inductive AgentRunStatus
  | created
  | running
  | completed
  | failed
  | incomplete
deriving DecidableEq, Repr

/-- A Run that may still make progress. -/
def AgentRunStatus.isActive : AgentRunStatus → Bool
  | created | running => true
  | completed | failed | incomplete => false

inductive StopReason
  | goalCompleted
  | notFoundOrNotAccessible
  | inputInvalid
  | gateRejected
  | providerProtocolError
  | orderServiceUnavailable
  | presentationPlanRejected
  | rendererInvariantFailed
  | processRestartDetected
deriving DecidableEq, Repr

inductive AgentOutcome
  | completed
  | askUser
  | blocked
  | needHuman
  | notFoundOrNotAccessible
deriving DecidableEq, Repr

structure AgentRunRecord where
  runId : Uuid
  conversationId : Option Uuid := none
  status : AgentRunStatus
  providerLane : String
  startedAt : Datetime
  completedAt : Option Datetime := none
  stopReason : Option StopReason := none
  incompleteReason : Option String := none
deriving DecidableEq, Repr

namespace AgentRunRecord

variable (run : AgentRunRecord)

def lifecycleIsConsistent : Bool :=
  (if run.status.isActive then run.completedAt.isNone && run.stopReason.isNone
    else run.completedAt.any fun completed => decide (run.startedAt.instant ≤ completed.instant)) &&
  !(run.status == .completed && run.stopReason.isNone) &&
  !(run.status == .incomplete && run.stopReason != some .processRestartDetected)

instance : ContractModel AgentRunRecord where
  validates run := run.providerLane != "" && run.incompleteReason.all (· != "") &&
    run.startedAt.requireUtc && run.completedAt.all (·.requireUtc) && run.lifecycleIsConsistent

end AgentRunRecord

inductive TraceEventType
  | messageAccepted
  | runStarted
  | requestUnderstandingStarted
  | contextManifestRecorded
  | nextMoveProposed
  | taskDeltaValidated
  | taskDeltaAccepted
  | inputBindingRecorded
  | taskStateChanged
  | nextMoveRevalidated
  | gateDecisionRecorded
  | toolCallCreated
  | toolCallStarted
  | toolCallSucceeded
  | toolCallFailed
  | toolCallTimedOut
  | toolCallInterrupted
  | toolResultNormalized
  | observationRecorded
  | presentationPlanProposed
  | responseRendered
  | runStopped
  | evalCaseGraded
deriving DecidableEq, Repr

/-- The ToolCall status that a lifecycle event reports. -/
def toolTraceStatus : TraceEventType → Option ToolCallStatus
  | .toolCallCreated => some .created
  | .toolCallStarted => some .running
  | .toolCallSucceeded => some .succeeded
  | .toolCallFailed => some .failed
  | .toolCallTimedOut => some .timedOut
  | .toolCallInterrupted => some .interrupted
  | _ => none

structure TimingAndUsageSummary where
  durationMs : ℕ
  inputTokens : Option ℕ := none
  outputTokens : Option ℕ := none
deriving DecidableEq, Repr

/-- Allowlisted cross-component projection; no arbitrary payload field exists. -/
structure TraceEvent where
  traceEventId : Uuid
  eventType : TraceEventType
  occurredAt : Datetime
  runId : Uuid
  caseId : Option String := none
  messageRef : Option Uuid := none
  acceptedDeltaRef : Option Uuid := none
  taskId : Option Uuid := none
  requestUnitId : Option Uuid := none
  inputBindingRef : Option Uuid := none
  modelCallId : Option Uuid := none
  modelCallPurpose : Option String := none
  contextManifestId : Option Uuid := none
  providerName : Option String := none
  modelSnapshot : Option String := none
  toolRegistryVersion : Option String := none
  modelVisibleToolsetHash : Option Text := none
  nextMoveKind : Option String := none
  requestedToolName : Option String := none
  proposedBaseTaskStateVersion : Option ℕ := none
  validatedTaskStateVersion : Option ℕ := none
  argumentBindingRefs : List Uuid := []
  gateDecision : Option GateDecisionValue := none
  gateReasonCode : Option GateReasonCode := none
  toolCallId : Option Uuid := none
  toolCallTerminalStatus : Option ToolCallStatus := none
  safeToolOutcome : Option ToolResultOutcome := none
  observationRef : Option Uuid := none
  presentationPlanRef : Option Uuid := none
  userOutcome : Option AgentOutcome := none
  stopReason : Option StopReason := none
  timingAndUsageSummary : Option TimingAndUsageSummary := none
deriving DecidableEq, Repr

namespace TraceEvent

variable (event : TraceEvent)

def stoppedEventHasOutcomeAndReason : Bool :=
  !(event.eventType == .runStopped && (event.stopReason.isNone || event.userOutcome.isNone)) &&
  match toolTraceStatus event.eventType with
  | some expected => event.toolCallId.isSome && event.toolCallTerminalStatus == some expected
  | none => event.toolCallTerminalStatus.isNone

/-- The optional texts of the event; none of them may be empty. -/
def optionalTexts : List (Option String) :=
  [event.caseId, event.modelCallPurpose, event.providerName, event.modelSnapshot,
    event.toolRegistryVersion, event.nextMoveKind, event.requestedToolName]

instance : ContractModel TraceEvent where
  validates event := event.optionalTexts.all (·.all (· != "")) &&
    event.modelVisibleToolsetHash.all isToolsetHash &&
    event.proposedBaseTaskStateVersion.all (1 ≤ ·) && event.validatedTaskStateVersion.all (1 ≤ ·) &&
    event.occurredAt.requireUtc && event.stoppedEventHasOutcomeAndReason

end TraceEvent

end MiniAgent.Core
