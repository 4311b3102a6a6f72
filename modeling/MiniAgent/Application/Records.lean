import MiniAgent.Core.Identity
import MiniAgent.Core.Memory
import MiniAgent.Core.TaskState
import MiniAgent.Core.Trace

/-! # Application-owned records shared by Runtime, Infrastructure and Eval -/

namespace MiniAgent.Application

open MiniAgent.Core

/-- `^.{1,4000}$` over all characters. -/
def isMessageContent (content : Text) : Bool := !content.isEmpty && decide (content.length ≤ 4000)

/-- Minimum persistence scope derived by Application from trusted auth. -/
structure TrustedOwnerScope where
  customerId : String
deriving DecidableEq, Repr

/-- The scope is derived from the context it must match. -/
def TrustedOwnerScope.fromCustomerContext (context : CustomerContext) : TrustedOwnerScope :=
  ⟨context.customerId⟩

/-- Trusted Application input; transport DTOs must terminate before this model. -/
structure AgentRunCommand where
  customerContext : CustomerContext
  message : Text
deriving DecidableEq, Repr

instance : ContractModel AgentRunCommand where
  validates command := ContractModel.validates command.customerContext &&
    isMessageContent command.message

/-- Approved user-visible result with no trusted identity or internal record. -/
structure AgentRunResult where
  runId : Uuid
  outcome : AgentOutcome
  message : Text
deriving DecidableEq, Repr

instance : ContractModel AgentRunResult where
  validates result := isMessageContent result.message

/-- Application-owned Conversation identity and trusted owner scope. -/
structure ConversationRecord where
  schemaVersion : String
  conversationId : Uuid
  ownerCustomerId : String
  createdAt : Datetime
deriving DecidableEq, Repr

instance : ContractModel ConversationRecord where
  validates conversation := conversation.schemaVersion != "" &&
    conversation.ownerCustomerId != "" &&
    conversation.createdAt.requireUtc

inductive MessageDirection
  | user
  | assistant
deriving DecidableEq, Repr

/-- Controlled raw Conversation message; never a normal Trace payload. -/
structure MessageRecord where
  schemaVersion : String
  messageId : Uuid
  conversationId : Uuid
  direction : MessageDirection
  content : Text
  receivedAt : Datetime
deriving DecidableEq, Repr

instance : ContractModel MessageRecord where
  validates message := message.schemaVersion != "" && isMessageContent message.content &&
    message.receivedAt.requireUtc

/-- M:N Conversation-to-Task link; an absent `endedAt` means active. -/
structure ConversationTaskLinkRecord where
  schemaVersion : String
  conversationId : Uuid
  taskId : Uuid
  linkReason : String
  linkedAt : Datetime
  endedAt : Option Datetime := none
deriving DecidableEq, Repr

instance : ContractModel ConversationTaskLinkRecord where
  validates link := link.schemaVersion != "" && link.linkReason != "" && link.linkedAt.requireUtc &&
    link.endedAt.all (·.requireUtc) &&
    link.endedAt.all fun ended => decide (link.linkedAt.instant ≤ ended.instant)

/-- Run-to-Task version projection; no result version means the Run is active. -/
structure RunTaskLinkRecord where
  schemaVersion : String
  runId : Uuid
  taskId : Uuid
  baseTaskStateVersion : Option ℕ := none
  resultTaskStateVersion : Option ℕ := none
deriving DecidableEq, Repr

instance : ContractModel RunTaskLinkRecord where
  validates link := link.schemaVersion != "" && link.baseTaskStateVersion.all (1 ≤ ·) &&
    link.resultTaskStateVersion.all (1 ≤ ·) &&
    match link.baseTaskStateVersion, link.resultTaskStateVersion with
    | some base, some result => decide (base ≤ result)
    | _, _ => true

inductive EvalResultStatus
  | pass
  | fail
  | skipped
  | notRun
deriving DecidableEq, Repr

inductive EvalGraderStatus
  | pass
  | fail
deriving DecidableEq, Repr

inductive EvalGraderReasonCode
  | traceEventMissing
  | missingRecord
  | assertionFailed
deriving DecidableEq, Repr

/-- `CF-01` to `CF-14`, by number. -/
abbrev CriticalFailureCode := Fin 14

structure EvalGraderResult where
  graderName : String
  status : EvalGraderStatus
  reasonCode : Option EvalGraderReasonCode := none
deriving DecidableEq, Repr

instance : ContractModel EvalGraderResult where
  validates result := result.graderName != "" &&
    (result.status == .fail) == result.reasonCode.isSome

/-- Explicit replay versions without an arbitrary metadata dictionary. -/
structure EvalVersionManifest where
  datasetVersion : String
  candidateVersion : String
  baselineVersion : Option String := none
  fixtureVersions : List String := []
  modelConfigVersion : Option String := none
  promptVersion : Option String := none
  toolRegistryVersion : Option String := none
  corpusVersion : Option String := none
  runtimeVersion : Option String := none
deriving DecidableEq, Repr

instance : ContractModel EvalVersionManifest where
  validates manifest := manifest.datasetVersion != "" && manifest.candidateVersion != "" &&
    ([manifest.baselineVersion, manifest.modelConfigVersion, manifest.promptVersion,
      manifest.toolRegistryVersion, manifest.corpusVersion, manifest.runtimeVersion].all
        (·.all (· != ""))) &&
    manifest.fixtureVersions.all (· != "") && allDistinct manifest.fixtureVersions

structure EvalUsageSummary where
  inputTokens : ℕ
  outputTokens : ℕ
deriving DecidableEq, Repr

inductive EvalExecutionFailurePhase
  | harnessSetup
  | caseSetup
  | tracePersistence
  | systemUnderTest
  | grading
  | resultPersistence
  | resultCompleteness
deriving DecidableEq, Repr

inductive EvalExecutionSafeErrorCode
  | harnessSetupFailed
  | caseSetupFailed
  | tracePersistenceFailed
  | traceStoreUnavailable
  | systemUnderTestFailed
  | gradingFailed
  | resultPersistenceFailed
  | resultCompletenessFailed
deriving DecidableEq, Repr

def evalErrorPhase : EvalExecutionSafeErrorCode → EvalExecutionFailurePhase
  | .harnessSetupFailed => .harnessSetup
  | .caseSetupFailed => .caseSetup
  | .tracePersistenceFailed => .tracePersistence
  | .traceStoreUnavailable => .tracePersistence
  | .systemUnderTestFailed => .systemUnderTest
  | .gradingFailed => .grading
  | .resultPersistenceFailed => .resultPersistence
  | .resultCompletenessFailed => .resultCompleteness

/-- Infrastructure failure before a complete Case result can exist. -/
structure EvalExecutionFailureRecord where
  schemaVersion : String
  evalRunId : Uuid
  caseId : Option String := none
  lane : String
  attempt : Option ℕ := none
  failurePhase : EvalExecutionFailurePhase
  safeErrorCode : EvalExecutionSafeErrorCode
  diagnosticRef : Option Uuid := none
  traceRef : Option Uuid := none
  versionManifest : EvalVersionManifest
  occurredAt : Datetime
deriving DecidableEq, Repr

instance : ContractModel EvalExecutionFailureRecord where
  validates failure := failure.schemaVersion != "" && failure.caseId.all (· != "") &&
    failure.lane != "" &&
    failure.attempt.all (1 ≤ ·) && ContractModel.validates failure.versionManifest &&
    failure.occurredAt.requireUtc && !(failure.attempt.isSome && failure.caseId.isNone) &&
    evalErrorPhase failure.safeErrorCode == failure.failurePhase

/-- Stable per-attempt Eval result projection. -/
structure EvalResultRecord where
  schemaVersion : String
  evalRunId : Uuid
  caseId : String
  lane : String
  attempt : ℕ
  status : EvalResultStatus
  graderResults : List EvalGraderResult := []
  criticalFailures : List CriticalFailureCode := []
  observedOutcome : Option AgentOutcome := none
  traceRef : Option Uuid := none
  versionManifest : EvalVersionManifest
  latencySummary : Option ℕ := none
  usageSummary : Option EvalUsageSummary := none
  completedAt : Datetime
deriving DecidableEq, Repr

namespace EvalResultRecord

variable (result : EvalResultRecord)

def anyGraderFailed : Bool := result.graderResults.any (·.status == .fail)

def lifecycleIsConsistent : Bool :=
  let executed := result.observedOutcome.isSome && result.traceRef.isSome &&
    !result.graderResults.isEmpty
  (result.criticalFailures.isEmpty || result.status == .fail) &&
  match result.status with
  | .pass => executed && !result.anyGraderFailed
  | .fail => executed && (!result.criticalFailures.isEmpty || result.anyGraderFailed)
  | .skipped | .notRun => result.observedOutcome.isNone && result.traceRef.isNone &&
      result.graderResults.isEmpty && result.criticalFailures.isEmpty &&
      result.latencySummary.isNone && result.usageSummary.isNone

instance : ContractModel EvalResultRecord where
  validates result := result.schemaVersion != "" && result.caseId != "" && result.lane != "" &&
    1 ≤ result.attempt && result.graderResults.all ContractModel.validates &&
    ContractModel.validates result.versionManifest && result.completedAt.requireUtc &&
    allDistinct (result.graderResults.map (·.graderName)) && allDistinct result.criticalFailures &&
    result.lifecycleIsConsistent

end EvalResultRecord

end MiniAgent.Application
