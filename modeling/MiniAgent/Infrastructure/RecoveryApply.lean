import MiniAgent.Infrastructure.EnvelopeWrites
import MiniAgent.Infrastructure.RecoveryLoader

/-! # Applying a recovery in one transaction

The claim loads the closure again and compares it with the one that the command was built from. Then
the Run, its ToolCalls, its Tasks with their RequestUnits and its links are replaced one after the
other, each only where it still is what the closure says, and the Trace is appended. The transaction
is committed only when all of it went through.
-/

namespace MiniAgent.Infrastructure

open MiniAgent.Core MiniAgent.Application

section Applying

variable (library : ModelLibrary)

/-- Run replacements one after the other; the first that does not meet what it expects ends them. -/
def replaceEach : List (RecordTable → Codec (Option RecordTable)) → RecordTable →
    Codec (Option RecordTable)
  | [], table => return some table
  | replace :: rest, table => do
    match ← replace table with
    | none => return none
    | some table => replaceEach rest table

/-- Replace the row of a record by that of its successor. -/
def replaceRecord (code : P0RecordCode) (identity : Json) (expectedRecord nextRecord : SourceRecord)
    (expectedChildren nextChildren : List SourceRecord) (table : RecordTable) :
    Codec (Option RecordTable) :=
  match rowForIdentity table code identity with
  | none => return none
  | some row => do
    let nextEnvelope ← encodePersistenceRecord library code nextRecord [] nextChildren
    replaceRowEnvelope library table row expectedRecord expectedChildren nextEnvelope

/-- The Run becomes incomplete. -/
def replaceRun (current : RestartRecoveryClosure)
    (transition : MarkRunIncompleteForRecoveryCommand) :
    RecordTable → Codec (Option RecordTable) :=
  replaceRecord library .agentRunRecord (uuidIdentity "run_id" current.activeRunRecord.runId)
    (.agentRunRecord transition.expectedActiveRecord)
      (.agentRunRecord transition.incompleteRecord) [] []

/-- A ToolCall is interrupted and keeps its attempts. -/
def replaceToolCall (current : RestartRecoveryClosure)
    (transition : InterruptToolCallForRecoveryCommand) (table : RecordTable) :
    Codec (Option RecordTable) := do
  let aggregate ← requireKey
    (Keyed.lastByKey (·.toolCallRecord.toolCallId) current.toolCallAggregates
      transition.activeRecord.toolCallId)
  let attempts := aggregate.toolAttemptRecords.map .toolAttemptRecord
  replaceRecord library .toolCallRecord
    (uuidIdentity "tool_call_id" transition.activeRecord.toolCallId)
    (.toolCallRecord transition.activeRecord)
      (.toolCallRecord transition.interruptedRecord) attempts attempts table

/-- A Task is blocked and gains the transition, and its RequestUnit is blocked with it. -/
def replaceTask (current : RestartRecoveryClosure) (transition : ApplyTaskTransitionCommand)
    (table : RecordTable) :
    Codec (Option RecordTable) := do
  let taskIdentity := uuidIdentity "task_id" transition.expectedTaskRecord.taskId
  let unitIdentity :=
    uuidIdentity "request_unit_id" transition.expectedRequestUnitRecord.requestUnitId
  let aggregate ← requireKey
    (Keyed.lastByKey (·.taskRecord.taskId) current.taskAggregates
      transition.expectedTaskRecord.taskId)
  let history := aggregate.taskStateTransitions.map .taskStateTransition
  if (rowForIdentity table .taskRecord taskIdentity).isNone ||
      (rowForIdentity table .requestUnitRecord unitIdentity).isNone then return none
  replaceEach
    [replaceRecord library .taskRecord taskIdentity (.taskRecord transition.expectedTaskRecord)
      (.taskRecord transition.nextTaskRecord) history
        (history ++ [.taskStateTransition transition.taskStateTransition]),
    replaceRecord library .requestUnitRecord unitIdentity
      (.requestUnitRecord transition.expectedRequestUnitRecord)
      (.requestUnitRecord transition.nextRequestUnitRecord) [] []] table

/-- A link of the Run is closed. -/
def replaceLink (current : RestartRecoveryClosure) (terminal : RunTaskLinkRecord)
    (table : RecordTable) :
    Codec (Option RecordTable) := do
  let expected ← requireKey (Keyed.lastByKey (·.taskId) current.runTaskLinks terminal.taskId)
  replaceRecord library .runTaskLinkRecord
    (.array [.array [ownText "run_id", uuidJson expected.runId],
      .array [ownText "task_id", uuidJson expected.taskId]])
    (.runTaskLinkRecord expected) (.runTaskLinkRecord terminal) [] [] table

/-- Every replacement of a command, in the order in which they are made. -/
def replacements (current : RestartRecoveryClosure) (command : ApplyRestartRecoveryCommand) :
    List (RecordTable → Codec (Option RecordTable)) :=
  replaceRun library current command.runTransition ::
    command.toolCallTransitions.map (replaceToolCall library current) ++
    command.taskTransitions.map (replaceTask library current) ++
    command.terminalRunTaskLinks.map (replaceLink library current)

/-- `_persist_recovery_trace`, for each event of a recovery. -/
def persistRecoveryTrace (stamps : ℕ → RowStamp) (table : RecordTable) (events : List TraceEvent) :
    Codec RecordTable :=
  events.zipIdx.foldlM (fun table (event, index) => do
    let (table, _) ← appendTraceEvent library (fun _ => stamps index) table event
    return table) table

/-- A ToolCall that may have acted outside. -/
def isRunningAction (aggregate : ToolCallRecoveryAggregate) : Bool :=
  aggregate.toolCallRecord.effect == .action && aggregate.toolCallRecord.status == .running

/-- `_apply_recovery_in_transaction` -/
def applyRecoveryInTransaction (stamps : ℕ → RowStamp) (table : RecordTable)
    (command : ApplyRestartRecoveryCommand) :
    Codec (RecordTable × RecoveryWriteResult) := do
  match ← loadClosureForUpdate library table command.expectedClosure.activeRunRecord.runId with
  | none => return (table, .notApplicable)
  | some current =>
    if current ≠ command.expectedClosure then return (table, .closureConflict)
    if current.toolCallAggregates.any isRunningAction then return (table, .reconciliationRequired)
    match ← replaceEach (replacements library current command) table with
    | none => return (table, .closureConflict)
    | some replaced =>
      let written ← persistRecoveryTrace library stamps replaced command.recoveryTraceEvents
      return (written, .applied)

/-- What can befall a claim in the database. -/
inductive ClaimFault
  /-- SQLSTATE `40001` or `40P01`: the transaction is rolled back. -/
  | concurrencyConflict
  /-- The connection is lost, before the commit or after it. -/
  | databaseFailure (committed : Bool)

/-- What other sessions commit between two calls; no Run becomes active by it. -/
structure OtherSessions where
  write : RecordTable → RecordTable
  startNoRun : ∀ table, activeRuns (write table) ⊆ activeRuns table

def OtherSessions.idle : OtherSessions := ⟨id, fun _ => List.Subset.refl _⟩

/-- What surrounds one call of the recovery service. -/
structure RecoveryRound where
  beforeLoad : OtherSessions := .idle
  beforeClaim : OtherSessions := .idle
  loadFails : Bool := false
  claimFault : Option ClaimFault := none
  clock : Codec Datetime
  uuidFactory : ℕ → Codec Uuid
  stamps : ℕ → RowStamp

/-- `P0PersistenceSystemError` -/
def systemError : PersistenceFailure := .uncaught "P0PersistenceSystemError"

/-- `claim_and_apply_restart_recovery`: the store that it leaves, and its answer. -/
def claimAndApplyRestartRecovery (fault : Option ClaimFault) (stamps : ℕ → RowStamp)
    (table : RecordTable) (command : ApplyRestartRecoveryCommand) :
    RecordTable × Codec RecoveryWriteResult :=
  match fault, applyRecoveryInTransaction library stamps table command with
  | some .concurrencyConflict, _ => (table, .ok .closureConflict)
  | some (.databaseFailure true), .ok (written, .applied) => (written, .error systemError)
  | some (.databaseFailure _), _ => (table, .error systemError)
  | none, .ok (written, .applied) => (written, .ok .applied)
  | none, .ok (_, result) => (table, .ok result)
  | none, .error failure => (table, .error failure)

/-- `PostgresRestartRecoveryAdapter`, during one call of the service. -/
def postgresRestartRecoveryAdapter (round : RecoveryRound) : RestartRecoveryPort RecordTable where
  loadNextRestartRecoveryClosure table :=
    let seen := round.beforeLoad.write table
    (seen, if round.loadFails then .error systemError
      else loadClosureInTransaction library seen none)
  claimAndApplyRestartRecovery command table :=
    let before := round.beforeClaim.write table
    (before, claimAndApplyRestartRecovery library round.claimFault round.stamps before command)

end Applying

end MiniAgent.Infrastructure
