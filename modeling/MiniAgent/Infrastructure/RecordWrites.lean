import MiniAgent.Infrastructure.RecoveryApply

/-! # The write ports of the record store

Each port runs in one transaction. A port that inserts writes one envelope under its identity. A
port that replaces finds the row of its record and replaces it where it still holds what the command
expects. The port that ends a Run reads everything that the Run still holds, and only then replaces
the Task with its RequestUnit, the Run and its links, and inserts what the Run says at its end.
Whatever it finds changed on the way is raised, so that the transaction is rolled back.
`_touch_recovery_anchor` writes the stored time of a Run over itself, which changes no column.
-/

namespace MiniAgent.Infrastructure

open MiniAgent.Core MiniAgent.Application

/-- A row object whose attributes have expired is read again by its primary key. -/
def refreshRow (table : RecordTable) (recordId : Uuid) : Codec table.Row :=
  match table.selectOne (·.recordId == recordId) with
  | some row => .ok row
  | none => .error (.uncaught "ObjectDeletedError")

/-- `_bounded_database_failures` -/
def boundedDatabaseFailures {α : Type} : Codec α → Codec α
  | .error (.uncaught name) =>
    .error (if name ∈ ["IntegrityError", "ObjectDeletedError"] then systemError else .uncaught name)
  | outcome => outcome

section Writing

variable (library : ModelLibrary) (stamps : ℕ → RowStamp) (table : RecordTable)

/-- Persist one record under its identity; nobody asks whether it was there. -/
def persistRecord (code : P0RecordCode) (record : SourceRecord) : Codec (RecordTable × Unit) := do
  let envelope ← encodePersistenceRecord library code record
  let (table, _) ← persistEnvelopes library stamps table [envelope]
  return (table, ())

/-- `put_toolset_artifact` -/
def putToolsetArtifact (artifact : ModelVisibleToolsetArtifact) : Codec (RecordTable × Unit) :=
  persistRecord library stamps table .modelVisibleToolsetArtifact
    (.modelVisibleToolsetArtifact artifact)

/-- `save_conversation` -/
def saveConversation (record : ConversationRecord) : Codec (RecordTable × Unit) :=
  persistRecord library stamps table .conversationRecord (.conversationRecord record)

/-- `append_message` -/
def appendMessage (record : MessageRecord) : Codec (RecordTable × Unit) :=
  persistRecord library stamps table .messageRecord (.messageRecord record)

/-- `save_context_manifest` -/
def saveContextManifest (record : ContextManifest) : Codec (RecordTable × Unit) :=
  persistRecord library stamps table .contextManifestRecord (.contextManifest record)

/-- `save_gate_decision` -/
def saveGateDecision (record : GateDecision) : Codec (RecordTable × Unit) :=
  persistRecord library stamps table .gateDecisionRecord (.gateDecision record)

/-- `append_eval_execution_failure` -/
def appendEvalExecutionFailure (record : EvalExecutionFailureRecord) : Codec (RecordTable × Unit) :=
  persistRecord library stamps table .evalExecutionFailureRecord
    (.evalExecutionFailureRecord record)

/-- Replace the row of one record, if there is one and it holds what is expected. -/
def replaceIfCurrent (code : P0RecordCode) (identity : Json)
    (expectedRecord nextRecord : SourceRecord) (expectedChildren nextChildren : List SourceRecord) :
    Codec (RecordTable × ConditionalWriteResult) :=
  match rowForIdentity table code identity with
  | none => return (table, .notApplicable)
  | some row => do
    let nextEnvelope ← encodePersistenceRecord library code nextRecord [] nextChildren
    match ← replaceRowEnvelope library table row expectedRecord expectedChildren nextEnvelope with
    | none => return (table, .projectionConflict)
    | some written => return (written, .applied)

/-- `start_run_if_created` -/
def startRunIfCreated (command : TransitionRunCommand) :
    Codec (RecordTable × ConditionalWriteResult) :=
  replaceIfCurrent library table .agentRunRecord
    (uuidIdentity "run_id" command.expectedActiveRecord.runId)
    (.agentRunRecord command.expectedActiveRecord) (.agentRunRecord command.nextRecord) [] []

/-- `start_tool_call_if_created` -/
def startToolCallIfCreated (command : DispatchToolCallCommand) :
    Codec (RecordTable × ToolDispatchFenceWriteResult) :=
  if command.expectedCreatedRecord.effect = .action then return (table, .actionLedgerRequired)
  else do
    let (written, result) ← replaceIfCurrent library table .toolCallRecord
      (uuidIdentity "tool_call_id" command.expectedCreatedRecord.toolCallId)
      (.toolCallRecord command.expectedCreatedRecord) (.toolCallRecord command.runningRecord) []
      [.toolAttemptRecord command.startedAttempt]
    return (written, match result with
      | .applied => .applied
      | .projectionConflict => .statusConflict
      | .notApplicable => .notApplicable)

/-- `finalize_tool_call_attempt_if_running` -/
def finalizeToolCallAttemptIfRunning (command : FinalizeToolCallCommand) :
    Codec (RecordTable × ConditionalWriteResult) :=
  replaceIfCurrent library table .toolCallRecord
    (uuidIdentity "tool_call_id" command.expectedRunningRecord.toolCallId)
    (.toolCallRecord command.expectedRunningRecord) (.toolCallRecord command.terminalRecord)
    [.toolAttemptRecord command.expectedStartedAttempt]
      [.toolAttemptRecord command.finalizedAttempt]

def taskIdentity (task : TaskRecord) : Json := uuidIdentity "task_id" task.taskId

def unitIdentity (unit : RequestUnitRecord) : Json :=
  uuidIdentity "request_unit_id" unit.requestUnitId

/-- `apply_task_transition_if_current`. When the Task has been replaced and the RequestUnit has not,
it raises. -/
def applyTaskTransitionIfCurrent (command : ApplyTaskTransitionCommand) :
    Codec (RecordTable × ConditionalWriteResult) :=
  match rowForIdentity table .taskRecord (taskIdentity command.expectedTaskRecord),
      rowForIdentity table .requestUnitRecord (unitIdentity command.expectedRequestUnitRecord) with
  | some taskRow, some unitRow => do
    let taskDecoded ← validatePhysicalProjection library table none taskRow
    let unitDecoded ← validatePhysicalProjection library table none unitRow
    if taskDecoded.sourceRecord != .taskRecord command.expectedTaskRecord ||
        unitDecoded.sourceRecord != .requestUnitRecord command.expectedRequestUnitRecord then
      return (table, .projectionConflict)
    let nextTask ← encodePersistenceRecord library .taskRecord
      (.taskRecord command.nextTaskRecord) []
      (taskDecoded.logicalChildren ++ [.taskStateTransition command.taskStateTransition])
    let nextUnit ← encodePersistenceRecord library .requestUnitRecord
      (.requestUnitRecord command.nextRequestUnitRecord)
    match ← replaceRowEnvelope library table taskRow
        (.taskRecord command.expectedTaskRecord) taskDecoded.logicalChildren
        nextTask with
    | none => return (table, .projectionConflict)
    | some middle => do
      let unitRow ← refreshRow middle unitRow.1.recordId
      match ← replaceRowEnvelope library middle unitRow
          (.requestUnitRecord command.expectedRequestUnitRecord) []
          nextUnit with
      | none => .error (.integrity .metadataPayloadMismatch)
      | some written => return (written, .applied)
  | _, _ => return (table, .notApplicable)

/-- `_FinalizeRunNotApplicable` -/
def finalizeRunNotApplicable : PersistenceFailure := .uncaught "_FinalizeRunNotApplicable"

/-- `_FinalizeRunProjectionConflict` -/
def finalizeRunProjectionConflict : PersistenceFailure := .uncaught "_FinalizeRunProjectionConflict"

/-- What the store holds is what the command says, or the transaction is left. -/
def requireCurrent (condition : Bool) : Codec Unit :=
  Except.require condition finalizeRunProjectionConflict

def orConflict {α : Type} : Option α → Codec α
  | some value => .ok value
  | none => .error finalizeRunProjectionConflict

/-- The links of a Run, up to the second. -/
def linkClosureRows (runId : Uuid) : List table.Row :=
  (table.select fun row => row.recordCode == .runTaskLinkRecord && row.runId == some runId).take 2

/-- The ToolCalls of a Run that are active by their columns, up to the second. -/
def activeToolCallRows (runId : Uuid) : List table.Row :=
  (Keyed.sortByKey (fun row : table.Row => row.1.recordId) (table.select fun row =>
    row.recordCode == .toolCallRecord && row.runId == some runId && hasActiveStatus row)).take 2

/-- An active ToolCall has to be one by its record, too. -/
def checkActiveToolCall (runId : Uuid) (row : table.Row) : Codec Unit := do
  let decoded ← validatePhysicalProjection library table none row
  let call ← orIntegrity .sourceModelMismatch decoded.sourceRecord.asToolCallRecord
  requireIntegrity (call.runId == runId && !call.status.isTerminal) .metadataPayloadMismatch

def decodeLink (row : table.Row) : Codec (RunTaskLinkRecord × table.Row) := do
  let decoded ← validatePhysicalProjection library table none row
  return (← orIntegrity .sourceModelMismatch decoded.sourceRecord.asRunTaskLinkRecord, row)

/-- `link_by_task`, each link with its row. -/
def linkByTask (runId : Uuid) : Codec (List (RunTaskLinkRecord × table.Row)) := do
  return Keyed.dictValues (·.1.taskId)
    (← (linkClosureRows table runId).mapM (decodeLink library table))

/-- The Task that a command expects, if it names one. -/
def expectedTask (command : FinalizeRunCommand) : Option TaskRecord :=
  command.resultTaskRecords.head?.map fun first =>
    command.taskTransition.elim first (·.expectedTaskRecord)

/-- The rows that a Run ends with. -/
structure FinalizeRows where
  run : table.Row
  links : List (RunTaskLinkRecord × table.Row)
  task : Option table.Row
  unit : Option table.Row
  taskChildren : List SourceRecord

/-- The row of the Run that is to end. -/
def runRowToEnd (runId : Uuid) : Codec table.Row :=
  match rowForIdentity table .agentRunRecord (uuidIdentity "run_id" runId) with
  | some row => .ok row
  | none => .error finalizeRunNotApplicable

/-- Read the rows of a Run that is to end, and compare them with what the command expects. In one
snapshot the second reading of the links is the first. -/
def finalizeRows (command : FinalizeRunCommand) : Codec (FinalizeRows table) := do
  let expected := command.expectedActiveRecord
  let run ← runRowToEnd table expected.runId
  requireCurrent ((linkClosureRows table expected.runId).length ==
    command.expectedActiveLinks.length)
  let runDecoded ← validatePhysicalProjection library table none run
  requireCurrent (runDecoded.sourceRecord == .agentRunRecord expected)
  (activeToolCallRows table expected.runId).forM (checkActiveToolCall library table expected.runId)
  requireCurrent (activeToolCallRows table expected.runId).isEmpty
  let task ← (expectedTask command).mapM fun task =>
    orConflict (rowForIdentity table .taskRecord (taskIdentity task))
  let unit ← command.taskTransition.mapM fun transition =>
    orConflict (rowForIdentity table .requestUnitRecord
      (unitIdentity transition.expectedRequestUnitRecord))
  let links ← linkByTask library table expected.runId
  requireCurrent (sameSet (links.map (·.1.taskId)) (command.expectedActiveLinks.map (·.taskId)))
  links.forM fun link => requireCurrent
    (Keyed.lastByKey (·.taskId) command.expectedActiveLinks link.1.taskId == some link.1)
  let taskDecoded ← task.mapM (validatePhysicalProjection library table none)
  requireCurrent (taskDecoded.map (·.sourceRecord) == (expectedTask command).map .taskRecord)
  let unitDecoded ← unit.mapM (validatePhysicalProjection library table none)
  requireCurrent (unitDecoded.map (·.sourceRecord) ==
      command.taskTransition.map (.requestUnitRecord ·.expectedRequestUnitRecord) &&
    unitDecoded.all (·.logicalChildren.isEmpty))
  return { run, links, task, unit, taskChildren := (taskDecoded.map (·.logicalChildren)).getD [] }

/-- The envelopes of what a Run says at its end, none of which may be stored. -/
def outputEnvelopes (command : FinalizeRunCommand) : Codec (List P0PersistenceEnvelope) := do
  let message ← command.assistantMessage.toList.mapM fun message =>
    encodePersistenceRecord library .messageRecord (.messageRecord message)
  let events ← command.terminalTraceEvents.mapM fun event =>
    encodePersistenceRecord library .traceEventRecord (.traceEvent event)
  (message ++ events).forM fun envelope => requireCurrent
    (rowForIdentity table envelope.recordCode envelope.logicalIdentity.toJson).isNone
  return message ++ events

/-- Replace the row of one record of the Run, or leave the transaction. -/
def replaceCurrent (recordId : Uuid) (code : P0RecordCode)
    (expectedRecord nextRecord : SourceRecord) (expectedChildren nextChildren : List SourceRecord)
    (table : RecordTable) : Codec RecordTable := do
  let nextEnvelope ← encodePersistenceRecord library code nextRecord [] nextChildren
  let row ← refreshRow table recordId
  match ← replaceRowEnvelope library table row expectedRecord expectedChildren nextEnvelope with
  | some written => return written
  | none => .error finalizeRunProjectionConflict

/-- The Task and the RequestUnit take their last step, if there is one. -/
def replaceFinalTask (rows : FinalizeRows table) (current : RecordTable) :
    Option ApplyTaskTransitionCommand → Codec RecordTable
  | none => return current
  | some transition => do
    let taskRow ← orConflict rows.task
    let unitRow ← orConflict rows.unit
    let middle ← replaceCurrent library taskRow.1.recordId .taskRecord
      (.taskRecord transition.expectedTaskRecord)
      (.taskRecord transition.nextTaskRecord) rows.taskChildren
      (rows.taskChildren ++ [.taskStateTransition transition.taskStateTransition]) current
    replaceCurrent library unitRow.1.recordId .requestUnitRecord
      (.requestUnitRecord transition.expectedRequestUnitRecord)
      (.requestUnitRecord transition.nextRequestUnitRecord) [] [] middle

/-- A link of the Run is closed. -/
def replaceFinalLink (command : FinalizeRunCommand) (current : RecordTable)
    (link : RunTaskLinkRecord × table.Row) :
    Codec RecordTable := do
  let expected ← requireKey (Keyed.lastByKey (·.taskId) command.expectedActiveLinks link.1.taskId)
  let terminal ← requireKey (Keyed.lastByKey (·.taskId) command.terminalLinks link.1.taskId)
  replaceCurrent library link.2.1.recordId .runTaskLinkRecord (.runTaskLinkRecord expected)
    (.runTaskLinkRecord terminal) [] [] current

/-- `_finalize_run_in_transaction` -/
def finalizeRunInTransaction (command : FinalizeRunCommand) : Codec RecordTable := do
  let rows ← finalizeRows library table command
  let outputs ← outputEnvelopes library table command
  let advanced ← replaceFinalTask library table rows table command.taskTransition
  let ended ← replaceCurrent library rows.run.1.recordId .agentRunRecord
    (.agentRunRecord command.expectedActiveRecord)
    (.agentRunRecord command.terminalRecord) [] [] advanced
  let closed ← (Keyed.sortByKey (fun link => uuidText link.1.taskId) rows.links).foldlM
    (replaceFinalLink library table command) ended
  if outputs.isEmpty then return closed
  let (written, inserted) ← persistEnvelopes library stamps closed outputs
  requireCurrent (inserted.all id)
  return written

/-- `finalize_run_if_active` -/
def finalizeRunIfActive (command : FinalizeRunCommand) :
    Codec (RecordTable × ConditionalWriteResult) :=
  boundedDatabaseFailures <|
    match finalizeRunInTransaction library stamps table command with
    | .ok written => .ok (written, .applied)
    | .error failure =>
      if failure = finalizeRunNotApplicable then .ok (table, .notApplicable)
      else if failure = finalizeRunProjectionConflict then .ok (table, .projectionConflict)
      else .error failure

end Writing

end MiniAgent.Infrastructure
