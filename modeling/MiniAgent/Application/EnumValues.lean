import MiniAgent.Application.Records

/-! # The texts of enumerations, as columns and trace shapes spell them -/

namespace MiniAgent.Core

def GateDecisionValue.value : GateDecisionValue → String
  | accept => "ACCEPT"
  | reject => "REJECT"

def ToolCallStatus.value : ToolCallStatus → String
  | created => "CREATED"
  | running => "RUNNING"
  | succeeded => "SUCCEEDED"
  | failed => "FAILED"
  | timedOut => "TIMED_OUT"
  | interrupted => "INTERRUPTED"

def ToolResultOutcome.value : ToolResultOutcome → String
  | success => "SUCCESS"
  | businessFailure => "BUSINESS_FAILURE"
  | systemFailure => "SYSTEM_FAILURE"
  | timeout => "TIMEOUT"
  | interrupted => "INTERRUPTED"
  | resultUnknown => "RESULT_UNKNOWN"

def AgentOutcome.value : AgentOutcome → String
  | completed => "COMPLETED"
  | askUser => "ASK_USER"
  | blocked => "BLOCKED"
  | needHuman => "NEED_HUMAN"
  | notFoundOrNotAccessible => "NOT_FOUND_OR_NOT_ACCESSIBLE"

def GateReasonCode.value : GateReasonCode → String
  | actionRequiresProposal => "ACTION_REQUIRES_PROPOSAL"
  | argumentBindingMismatch => "ARGUMENT_BINDING_MISMATCH"
  | budgetExceeded => "BUDGET_EXCEEDED"
  | noProgress => "NO_PROGRESS"
  | schemaInvalid => "SCHEMA_INVALID"
  | snapshotMismatch => "SNAPSHOT_MISMATCH"
  | stateVersionMismatch => "STATE_VERSION_MISMATCH"
  | toolNotRegistered => "TOOL_NOT_REGISTERED"
  | trustedFieldInjection => "TRUSTED_FIELD_INJECTION"

def StopReason.value : StopReason → String
  | goalCompleted => "GOAL_COMPLETED"
  | notFoundOrNotAccessible => "NOT_FOUND_OR_NOT_ACCESSIBLE"
  | inputInvalid => "INPUT_INVALID"
  | gateRejected => "GATE_REJECTED"
  | providerProtocolError => "PROVIDER_PROTOCOL_ERROR"
  | orderServiceUnavailable => "ORDER_SERVICE_UNAVAILABLE"
  | presentationPlanRejected => "PRESENTATION_PLAN_REJECTED"
  | rendererInvariantFailed => "RENDERER_INVARIANT_FAILED"
  | processRestartDetected => "PROCESS_RESTART_DETECTED"

def TaskStatus.value : TaskStatus → String
  | active => "ACTIVE"
  | waitingUser => "WAITING_USER"
  | pendingAction => "PENDING_ACTION"
  | actionInProgress => "ACTION_IN_PROGRESS"
  | recovering => "RECOVERING"
  | completed => "COMPLETED"
  | blocked => "BLOCKED"
  | cancelled => "CANCELLED"

def AgentRunStatus.value : AgentRunStatus → String
  | created => "CREATED"
  | running => "RUNNING"
  | completed => "COMPLETED"
  | failed => "FAILED"
  | incomplete => "INCOMPLETE"

end MiniAgent.Core

namespace MiniAgent.Application

def EvalResultStatus.value : EvalResultStatus → String
  | pass => "PASS"
  | fail => "FAIL"
  | skipped => "SKIPPED"
  | notRun => "NOT_RUN"

end MiniAgent.Application
