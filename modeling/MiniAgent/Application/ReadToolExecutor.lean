import MiniAgent.Application.Ports
import MiniAgent.Library.Outcome

/-! # Durably fenced execution of the single P0 `get_order` Read Tool

A ToolCall is inserted, fenced and dispatched; whatever the order port does, the attempt it started
has to be finalized before control leaves the executor.
-/

namespace MiniAgent.Application

open MiniAgent.Core ContractModel
open Coroutine (require)

/-- Safe execution projection consumed by Runtime orchestration. -/
structure ReadToolExecution where
  createdToolCall : ToolCallRecord
  dispatchFenceResult : ToolDispatchFenceWriteResult
  terminalToolCall : Option ToolCallRecord := none
  finalizedAttempt : Option ToolAttemptRecord := none
  getOrderOutcome : Option GetOrderOutcome := none
  observation : Option OrderObservation := none
  effectiveTimeoutMs : Option ℕ := none
deriving DecidableEq, Repr

/-- Validate an untrusted result again; `none` is any other object or an invalid one. -/
def canonicalGetOrderResult (value : Option GetOrderResult) : Option GetOrderResult :=
  (value.bind construct).filter fun rebuilt =>
    !(rebuilt.outcome == .found && !rebuilt.sourceVersion.any isGetOrderSourceVersion)

/-- The terminal projection of one finalization. -/
structure TerminalProjection where
  terminalStatus : ToolCallStatus
  toolOutcome : ToolResultOutcome
  safeFailureCode : Option String
  resultRef : Option Uuid := none
  timeoutPhase : Option ToolTimeoutPhase := none
  interruptionReason : Option String := none
deriving DecidableEq, Repr

/-- The projection of an attempt that ran into its timeout. -/
def timedOutProjection : TerminalProjection where
  terminalStatus := .timedOut
  toolOutcome := .timeout
  safeFailureCode := some "TOOL_CALL_TIMEOUT"
  timeoutPhase := some .afterDispatch

/-- The projection of a cancelled attempt. -/
def interruptedProjection : TerminalProjection where
  terminalStatus := .interrupted
  toolOutcome := .interrupted
  safeFailureCode := some "TOOL_CALL_CANCELLED"
  interruptionReason := some "TOOL_CALL_CANCELLED"

/-- The projection of a canonical result; only an order that was found has a result reference. -/
def resultProjection (outcome : GetOrderOutcome) (resultRef : Option Uuid) : TerminalProjection :=
  match outcome with
  | .found =>
    { terminalStatus := .succeeded, toolOutcome := .success, safeFailureCode := none,
      resultRef := resultRef }
  | .notFoundOrNotAccessible =>
    { terminalStatus := .failed
      toolOutcome := .businessFailure
      safeFailureCode := some "NOT_FOUND_OR_NOT_ACCESSIBLE" }
  | .systemFailure =>
    { terminalStatus := .failed
      toolOutcome := .systemFailure
      safeFailureCode := some "ORDER_SERVICE_UNAVAILABLE" }

/-- `_project_tool_call(running, ...)` of a finalization. -/
def terminalToolCall (running : ToolCallRecord) (projection : TerminalProjection)
    (finishedAt : Datetime) :
    ToolCallRecord :=
  { running with
    status := projection.terminalStatus
    finishedAt := some finishedAt
    failureCode := projection.safeFailureCode
    timeoutPhase := projection.timeoutPhase
    interruptionReason := projection.interruptionReason
    resultRef := projection.resultRef }

def finalizedAttempt (running : ToolCallRecord) (attempt : ToolAttemptRecord)
    (projection : TerminalProjection) (finishedAt : Datetime) : ToolAttemptRecord where
  toolCallId := running.toolCallId
  attemptNo := attempt.attemptNo
  startedAt := attempt.startedAt
  finishedAt := some finishedAt
  outcome := some projection.toolOutcome
  failureCode := projection.safeFailureCode

/-- An APPLIED dispatch fence: the attempt it started is not finalized yet. -/
structure StartedAttempt where
  ownerScope : TrustedOwnerScope
  orderId : Text
  effectiveTimeoutMs : ℕ
  created : ToolCallRecord
  running : ToolCallRecord
  attempt : ToolAttemptRecord
deriving DecidableEq, Repr

/-- The keyword arguments of `execute_get_order`. -/
structure GetOrderExecution where
  ownerScope : TrustedOwnerScope
  authorizedCommand : AuthorizedToolCommand
  runId : Uuid
  taskId : Uuid
  requestUnitId : Uuid
  modelCallId : Uuid
  contextManifestId : Uuid
  providerToolCallId : Option String
  toolRegistryVersion : String
  executionPolicy : ExecutionPolicy
  remainingRunTimeBudgetMs : ℤ

variable {σ : Type}

def finalizeRunningAttempt (running : ToolCallRecord) (attempt : ToolAttemptRecord)
    (projection : TerminalProjection) : Runtime σ (ToolCallRecord × ToolAttemptRecord) := do
  let finishedAt ← clock
  let terminal ← constructed (terminalToolCall running projection finishedAt)
  let finalized ← constructed (finalizedAttempt running attempt projection finishedAt)
  let command : FinalizeToolCallCommand ← constructed
    { expectedRunningRecord := running
      expectedStartedAttempt := attempt
      terminalRecord := terminal
      finalizedAttempt := finalized }
  let finalizeResult ← request (.finalizeToolCallAttemptIfRunning command)
  require (finalizeResult == .applied) (.readToolExecution "ToolCall finalization conflict")
  return (terminal, finalized)

def appendInterruptedTrace (terminal : ToolCallRecord) : Runtime σ Unit := do
  let traceEventId ← uuidFactory
  match terminal.finishedAt with
  | none => throw .validationError
  | some finishedAt =>
    let event : TraceEvent ← constructed
      { traceEventId := traceEventId
        eventType := .toolCallInterrupted
        occurredAt := finishedAt
        runId := terminal.runId
        taskId := some terminal.taskId
        requestUnitId := some terminal.requestUnitId
        toolCallId := some terminal.toolCallId
        toolCallTerminalStatus := some .interrupted }
    request (.appendTraceEvent event)

namespace StartedAttempt

variable (started : StartedAttempt)

def finalize (projection : TerminalProjection) : Runtime σ (ToolCallRecord × ToolAttemptRecord) :=
  finalizeRunningAttempt started.running started.attempt projection

/-- The execution that a finalized attempt reports. -/
def execution (terminal : ToolCallRecord) (finalized : ToolAttemptRecord)
    (outcome : GetOrderOutcome) (observation : Option OrderObservation) : ReadToolExecution where
  createdToolCall := started.created
  dispatchFenceResult := .applied
  terminalToolCall := some terminal
  finalizedAttempt := some finalized
  getOrderOutcome := some outcome
  observation := observation
  effectiveTimeoutMs := some started.effectiveTimeoutMs

/-- Await the order port under the timeout; `none` is its expiry. -/
def lookUpOrder : Runtime σ (Option (Option GetOrderResult)) :=
  tryCatch (do
    let query : GetOrderQuery ← constructed
      { customerId := started.ownerScope.customerId, orderId := started.orderId }
    return some (← request (.getOrder started.effectiveTimeoutMs query)))
  fun raised => if raised.kind = .timeoutError then return none else throw raised

/-- The Observation of a found order. -/
def orderObservation (summary : OrderSummaryProjection) (sourceVersion : Option Text)
    (observationId : Uuid) (finishedAt : Datetime) : OrderObservation where
  observationId := observationId
  sourceTool := "get_order"
  sourceResourceRef := summary.orderNumber
  normalizedType := "ORDER_SUMMARY"
  normalizedValue := summary
  observedAt := finishedAt
  recordedAt := finishedAt
  visibility := .modelVisible
  sourceVersion := sourceVersion.map String.ofList

def saveOrderObservation (result : GetOrderResult) (terminal : ToolCallRecord) :
    Runtime σ OrderObservation := do
  match result.orderSummary, terminal.finishedAt with
  | some summary, some finishedAt =>
    let observationId ← uuidFactory
    let observation ← constructed
      (orderObservation summary result.sourceVersion observationId finishedAt)
    let command : SaveObservationCommand ← constructed
      { ownerScope := started.ownerScope
        observationRecord := observation
        sourceToolCallRecord := terminal }
    let observationResult ← request (.saveObservation command)
    require (observationResult == .inserted || observationResult == .alreadyApplied)
      (.readToolExecution "Observation source conflict")
    return observation
  | _, _ => throw (.readToolExecution "FOUND result missing safe projection")

/-- The result that stands for an object the executor does not accept. -/
def unavailableResult : GetOrderResult where
  outcome := .systemFailure
  failureCode := some "ORDER_SERVICE_UNAVAILABLE"

/-- Finalize the attempt for what the port returned, and observe an order that was found. -/
def finishLookUp (candidateResult : Option GetOrderResult) : Runtime σ ReadToolExecution := do
  let result := (canonicalGetOrderResult candidateResult).getD unavailableResult
  if result.outcome = .found then
    require result.orderSummary.isSome (.readToolExecution "FOUND result missing safe projection")
    let resultRef ← uuidFactory
    let (terminal, finalized) ← started.finalize (resultProjection .found (some resultRef))
    let observation ← started.saveOrderObservation result terminal
    return started.execution terminal finalized .found (some observation)
  else
    let (terminal, finalized) ← started.finalize (resultProjection result.outcome none)
    return started.execution terminal finalized result.outcome none

/-- The dispatched part of the executor, without its handler of cancellation. -/
def dispatch : Runtime σ ReadToolExecution := do
  match ← started.lookUpOrder with
  | none =>
    let (terminal, finalized) ← started.finalize timedOutProjection
    return started.execution terminal finalized .systemFailure none
  | some candidateResult => started.finishLookUp candidateResult

/-- Try to finalize a cancelled attempt and to trace it, then raise the cancellation again. -/
def interrupt (cancellation : Raised) : Runtime σ ReadToolExecution := do
  let finalized ← tryCatch (Except.ok <$> started.finalize interruptedProjection)
    fun finalizationError => return .error finalizationError
  match finalized with
  | .error finalizationError =>
    throw (cancellation.addNote
      ("ToolCall cancellation finalization raised " ++ finalizationError.kind.typeName))
  | .ok (terminal, _) =>
    let appended ← tryCatch (Except.ok <$> appendInterruptedTrace terminal)
      fun traceError => return .error traceError
    match appended with
    | .error traceError =>
      throw (cancellation.addNote
        ("ToolCallInterrupted Trace append raised " ++ traceError.kind.typeName))
    | .ok () => throw cancellation

/-- Everything after an APPLIED fence. -/
def run : Runtime σ ReadToolExecution :=
  tryCatch started.dispatch fun raised =>
    if raised.kind = .cancelledError then started.interrupt raised else throw raised

end StartedAttempt

namespace GetOrderExecution

variable (arguments : GetOrderExecution)

/-- The bound order id of an authorised command. -/
def boundOrderId : Except Raised Text := do
  Except.require (arguments.executionPolicy.maxAttempts == 1 &&
    arguments.executionPolicy.interruptBehavior == "MARK_INTERRUPTED")
    (.readToolExecution "validated single-attempt execution policy required")
  Except.require (decide (0 < arguments.remainingRunTimeBudgetMs))
    (.readToolExecution "positive remaining Run budget required")
  Except.require (arguments.authorizedCommand.canonicalToolName == "get_order" &&
    arguments.authorizedCommand.registrySnapshotRef == arguments.toolRegistryVersion &&
    sameSet (arguments.authorizedCommand.validatedArguments.map (·.1)) ["order_id"])
    (.readToolExecution "invalid get_order authorization")
  match Json.lookup arguments.authorizedCommand.validatedArguments "order_id" with
  | some (.string orderId) => return orderId
  | _ => throw (.readToolExecution "invalid bound order_id")

def effectiveTimeoutMs : ℕ :=
  min arguments.executionPolicy.timeoutMs arguments.remainingRunTimeBudgetMs.toNat

/-- The CREATED ToolCall of the authorised command. -/
def createdToolCall (toolCallId : Uuid) (startedAt : Datetime) : ToolCallRecord where
  toolCallId := toolCallId
  runId := arguments.runId
  taskId := arguments.taskId
  requestUnitId := arguments.requestUnitId
  modelCallId := arguments.modelCallId
  contextManifestId := arguments.contextManifestId
  gateDecisionId := arguments.authorizedCommand.gateDecisionId
  providerToolCallId := arguments.providerToolCallId
  canonicalToolName := "get_order"
  toolRegistryVersion := arguments.toolRegistryVersion
  validatedTaskStateVersion := arguments.authorizedCommand.validatedTaskStateVersion
  argumentBindingRefs := arguments.authorizedCommand.argumentBindingRefs
  effect := .read
  attemptCount := 0
  status := .created
  startedAt := startedAt

end GetOrderExecution

/-- Fence the inserted ToolCall; only an APPLIED fence dispatches. -/
def fenceAndRun (arguments : GetOrderExecution) (orderId : Text) (created : ToolCallRecord) :
    Runtime σ ReadToolExecution := do
  let attemptStartedAt ← clock
  let attempt : ToolAttemptRecord ← constructed
    { toolCallId := created.toolCallId, attemptNo := 1, startedAt := attemptStartedAt }
  let running ← constructed { created with status := .running, attemptCount := 1 }
  let fence : DispatchToolCallCommand ← constructed
    { expectedCreatedRecord := created, runningRecord := running, startedAttempt := attempt }
  let fenceResult ← request (.startToolCallIfCreated fence)
  if fenceResult = .applied then
    StartedAttempt.run
      { ownerScope := arguments.ownerScope
        orderId := orderId
        effectiveTimeoutMs := arguments.effectiveTimeoutMs
        created := created
        running := running
        attempt := attempt }
  else
    return {
      createdToolCall := created
      dispatchFenceResult := fenceResult
      effectiveTimeoutMs := some arguments.effectiveTimeoutMs }

/-- Execute one owner-scoped read only after an APPLIED durable fence. -/
def executeGetOrder (arguments : GetOrderExecution) : Runtime σ ReadToolExecution := do
  let orderId ← Coroutine.ofExcept arguments.boundOrderId
  let startedAt ← clock
  let toolCallId ← uuidFactory
  let created ← constructed (arguments.createdToolCall toolCallId startedAt)
  let creation : CreateToolCallCommand ← constructed { createdRecord := created }
  let insertResult ← request (.insertToolCall creation)
  require (insertResult == .inserted) (.readToolExecution "ToolCall insert conflict")
  fenceAndRun arguments orderId created

end MiniAgent.Application
