import MiniAgent.Application.PersistenceSchema
import MiniAgent.Application.RecoveryRecords

/-! # Recovering one closure through the recovery port

The service loads the next closure, builds the one command that ends every active projection in it
and hands the command to the port. It recovers at most one closure, and whatever raises on the way
leaves it as it is.

The port is a parameter, over any kind of store. It reports for each call the store that the call
met, so that a history of calls tells what was seen and what was written.
-/

namespace MiniAgent.Application

open MiniAgent.Core ContractModel Keyed

/-- `RestartRecoveryPort`, over a store that other sessions may write to before each call. -/
structure RestartRecoveryPort (Store : Type) where
  /-- The store that a load sees, and its answer. -/
  loadNextRestartRecoveryClosure : Store → Store × Codec (Option RestartRecoveryClosure)
  /-- The store that a claim meets, the store that it leaves, and its answer. -/
  claimAndApplyRestartRecovery : ApplyRestartRecoveryCommand → Store →
    Store × Store × Codec RecoveryWriteResult

/-- A call of the port, as it went. -/
inductive RecoveryCall (Store : Type)
  | loaded (seen : Store) (answer : Codec (Option RestartRecoveryClosure))
  | claimed (command : ApplyRestartRecoveryCommand) (before after : Store)
      (answer : Codec RecoveryWriteResult)

/-- Call a model's constructor, whose refusal is raised. -/
def constructModel {Model : Type} [ContractModel Model] (fields : Model) : Codec Model :=
  match construct fields with
  | some model => .ok model
  | none => .error (.uncaught "ValidationError")

theorem constructModel_eq_ok {Model : Type} [ContractModel Model] {fields model : Model} :
    constructModel fields = .ok model ↔ validates fields = true ∧ model = fields := by
  rw [← construct_eq_some, constructModel]
  cases construct fields <;> simp

/-- `mapping[key]` -/
def requireKey {α : Type} (entry : Option α) : Codec α :=
  match entry with
  | some value => .ok value
  | none => .error (.uncaught "KeyError")

section Building

variable (recoveredAt : Datetime) (uuidFactory : ℕ → Codec Uuid) (closure : RestartRecoveryClosure)

/-- The Run, which ends without an outcome. -/
def markRunIncomplete : Codec MarkRunIncompleteForRecoveryCommand := do
  let incompleteRun ← constructModel
    { closure.activeRunRecord with
      status := .incomplete
      completedAt := some recoveredAt
      stopReason := some .processRestartDetected
      incompleteReason := some processRestartDetected }
  constructModel { expectedActiveRecord := closure.activeRunRecord, incompleteRecord :=
    incompleteRun }

/-- An active ToolCall, which is interrupted. -/
def interruptToolCall (aggregate : ToolCallRecoveryAggregate) :
    Codec InterruptToolCallForRecoveryCommand := do
  let activeTool := aggregate.toolCallRecord
  let interrupted ← constructModel
    { activeTool with
      status := .interrupted
      finishedAt := some recoveredAt
      interruptionReason := some processRestartDetected }
  constructModel { activeRecord := activeTool, interruptedRecord := interrupted }

/-- An active Task with its RequestUnit, which are blocked for one reason. -/
def blockTask (entry : TaskRecoveryAggregate × ℕ) : Codec ApplyTaskTransitionCommand := do
  let task := entry.1.taskRecord
  let requestUnit ← requireKey (closure.unitByTask task.taskId)
  let reasonRef ← uuidFactory entry.2
  let nextTask ← constructModel
    { task with
      status := .blocked
      stateVersion := task.stateVersion + 1
      updatedAt := recoveredAt
      lastOutcomeRef := some reasonRef }
  let nextUnit ← constructModel
    { requestUnit with
      status := .blocked
      stateVersion := requestUnit.stateVersion + 1
      updatedAt := recoveredAt
      resultRefs := requestUnit.resultRefs ++ [reasonRef] }
  let transition ← constructModel
    { taskId := task.taskId
      requestUnitId := requestUnit.requestUnitId
      fromStatus := task.status
      toStatus := .blocked
      baseStateVersion := task.stateVersion
      resultStateVersion := task.stateVersion + 1
      reasonRef := reasonRef
      changedAt := recoveredAt }
  constructModel
    { expectedTaskRecord := task
      nextTaskRecord := nextTask
      expectedRequestUnitRecord := requestUnit
      nextRequestUnitRecord := nextUnit
      taskStateTransition := transition }

/-- The version that a Task has after the transitions. -/
def closedVersion (taskTransitions : List ApplyTaskTransitionCommand) (taskId : Uuid) : Codec ℕ :=
  match lastByKey (·.nextTaskRecord.taskId) taskTransitions taskId with
  | some transition => .ok transition.nextTaskRecord.stateVersion
  | none => (·.stateVersion) <$> requireKey (closure.taskById taskId)

/-- A link of the Run, closed at the version that its Task has then. -/
def closedLink (taskTransitions : List ApplyTaskTransitionCommand) (link : RunTaskLinkRecord) :
    Codec RunTaskLinkRecord := do
  let version ← closedVersion closure taskTransitions link.taskId
  constructModel { link with resultTaskStateVersion := some version }

/-- The Trace of a recovery: the Run, then its Tasks, then its ToolCalls. -/
def recoveryTrace (taskTransitions : List ApplyTaskTransitionCommand)
    (toolTransitions : List InterruptToolCallForRecoveryCommand) : List (Uuid → TraceEvent) :=
  (fun traceEventId =>
    { traceEventId
      eventType := .runStopped
      occurredAt := recoveredAt
      runId := closure.activeRunRecord.runId
      userOutcome := some .blocked
      stopReason := some .processRestartDetected }) ::
  (taskTransitions.map fun transition traceEventId =>
    { traceEventId
      eventType := .taskStateChanged
      occurredAt := transition.taskStateTransition.changedAt
      runId := closure.activeRunRecord.runId
      taskId := some transition.nextTaskRecord.taskId
      requestUnitId := some transition.nextRequestUnitRecord.requestUnitId }) ++
  toolTransitions.map fun transition traceEventId =>
    { traceEventId
      eventType := .toolCallInterrupted
      occurredAt := transition.interruptedRecord.finishedAt.getD recoveredAt
      runId := closure.activeRunRecord.runId
      toolCallId := some transition.interruptedRecord.toolCallId
      toolCallTerminalStatus := some .interrupted }

/-- The command that recovers a closure; each identity is asked for in turn. -/
def recoveryCommand (clock : Codec Datetime) : Codec ApplyRestartRecoveryCommand := do
  let recoveredAt ← clock
  let runTransition ← markRunIncomplete recoveredAt closure
  let toolTransitions ← closure.toolCallAggregates.mapM (interruptToolCall recoveredAt)
  let recoverable := closure.taskAggregates.filter (·.taskRecord.status.isRecoverable)
  let taskTransitions ← recoverable.zipIdx.mapM (blockTask recoveredAt uuidFactory closure)
  let terminalLinks ← closure.runTaskLinks.mapM (closedLink closure taskTransitions)
  let trace := recoveryTrace recoveredAt closure taskTransitions toolTransitions
  let traceEvents ← (trace.zipIdx recoverable.length).mapM fun (event, index) => do
    constructModel (event (← uuidFactory index))
  constructModel
    { expectedClosure := closure
      runTransition := runTransition
      toolCallTransitions := toolTransitions
      taskTransitions := taskTransitions
      terminalRunTaskLinks := terminalLinks
      recoveryTraceEvents := traceEvents }

end Building

/-- A command that was built is one that its validator accepts, for the closure it was built
from. -/
private theorem recoveryCommand_eq_ok {uuidFactory : ℕ → Codec Uuid}
    {closure : RestartRecoveryClosure} {clock : Codec Datetime}
    {command : ApplyRestartRecoveryCommand}
    (built : recoveryCommand uuidFactory closure clock = .ok command) :
    validates command = true ∧ command.expectedClosure = closure := by
  simp only [recoveryCommand, Except.bind_eq_ok_iff, constructModel_eq_ok] at built
  obtain ⟨_, -, _, -, _, -, _, -, _, -, _, -, valid, rfl⟩ := built
  exact ⟨valid, rfl⟩

/-- One bounded startup recovery result for the composition root. -/
structure RestartRecoveryResult where
  ready : Bool
  closureFound : Bool
  writeResult : Option RecoveryWriteResult := none
deriving DecidableEq, Repr

/-- The service, with what the clock and the factory answer during one call of it. -/
structure RestartRecoveryService (Store : Type) where
  restartRecoveryPort : RestartRecoveryPort Store
  clock : Codec Datetime
  uuidFactory : ℕ → Codec Uuid

/-- One call of the service: the calls that it made, the store that they left and how it ended. -/
structure Recovery (Store : Type) where
  calls : List (RecoveryCall Store)
  store : Store
  result : Codec RestartRecoveryResult

namespace RestartRecoveryService

variable {Store : Type} (service : RestartRecoveryService Store) (store : Store)

/-- `RestartRecoveryService.recover_pending` -/
def recoverPending : Recovery Store :=
  let (seen, loaded) := service.restartRecoveryPort.loadNextRestartRecoveryClosure store
  match loaded with
  | .error failure => ⟨[.loaded seen loaded], seen, .error failure⟩
  | .ok none => ⟨[.loaded seen loaded], seen, .ok { ready := true, closureFound := false }⟩
  | .ok (some closure) =>
    match recoveryCommand service.uuidFactory closure service.clock with
    | .error failure => ⟨[.loaded seen loaded], seen, .error failure⟩
    | .ok command =>
      let (before, after, answer) :=
        service.restartRecoveryPort.claimAndApplyRestartRecovery command seen
      ⟨[.loaded seen loaded, .claimed command before after answer], after, do
        let writeResult ← answer
        return { ready := writeResult == .applied, closureFound := true,
                 writeResult := some writeResult }⟩

/-- A call of the service either found nothing, or claimed one closure, or raised. -/
inductive Recovers : Recovery Store → Prop
  | nothing {seen : Store}
      (loads : service.restartRecoveryPort.loadNextRestartRecoveryClosure store =
        (seen, .ok none)) :
      Recovers ⟨[.loaded seen (.ok none)], seen, .ok { ready := true, closureFound := false }⟩
  | raised {seen : Store} {answer : Codec (Option RestartRecoveryClosure)}
      {failure : PersistenceFailure}
      (loads : service.restartRecoveryPort.loadNextRestartRecoveryClosure store = (seen, answer))
      (found : answer ≠ .ok none) : Recovers ⟨[.loaded seen answer], seen, .error failure⟩
  | claimed {seen before after : Store} {closure : RestartRecoveryClosure}
      {command : ApplyRestartRecoveryCommand}
      {answer : Codec RecoveryWriteResult}
      (loads : service.restartRecoveryPort.loadNextRestartRecoveryClosure store =
        (seen, .ok (some closure)))
      (valid : validates command = true) (same : command.expectedClosure = closure)
      (claims : service.restartRecoveryPort.claimAndApplyRestartRecovery command seen =
        (before, after, answer)) :
      Recovers ⟨[.loaded seen (.ok (some closure)), .claimed command before after answer], after, do
        let writeResult ← answer
        return { ready := writeResult == .applied, closureFound := true,
                 writeResult := some writeResult }⟩

theorem recoverPending_recovers : service.Recovers store (service.recoverPending store) := by
  unfold recoverPending
  rcases loads : service.restartRecoveryPort.loadNextRestartRecoveryClosure store
    with ⟨seen, failure | _ | closure⟩
  · exact .raised loads (by simp)
  · exact .nothing loads
  · dsimp only
    cases built : recoveryCommand service.uuidFactory closure service.clock with
    | error failure => exact .raised loads (by simp)
    | ok command =>
      obtain ⟨valid, same⟩ := recoveryCommand_eq_ok built
      exact .claimed loads valid same rfl

end RestartRecoveryService

end MiniAgent.Application
