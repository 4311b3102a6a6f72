import MiniAgent.Infrastructure.TableEffects

/-! # The commands of the store

Every write of the store is one command, executed in one transaction: what it raises leaves the
table as it was. Above the tables a command is a list of conditional writes to a keyed store, which
it makes only where it is admitted: a Run ends only when nothing of it is active any more, a
ToolCall is created only while its Run is running, and a Request Understanding or a link only where
the Run has no other.
-/

namespace MiniAgent.Infrastructure

open MiniAgent.Core MiniAgent.Application KeyedStore

/-- A write port with its argument. -/
inductive StoreCommand
  | putToolsetArtifact (artifact : ModelVisibleToolsetArtifact)
  | saveConversation (record : ConversationRecord)
  | appendMessage (record : MessageRecord)
  | saveContextManifest (record : ContextManifest)
  | saveGateDecision (record : GateDecision)
  | appendTraceEvent (record : TraceEvent)
  | appendEvalResult (record : EvalResultRecord)
  | appendEvalExecutionFailure (record : EvalExecutionFailureRecord)
  | saveObservation (command : SaveObservationCommand)
  | insertRun (command : CreateRunCommand)
  | startRunIfCreated (command : TransitionRunCommand)
  | finalizeRunIfActive (command : FinalizeRunCommand)
  | saveRequestUnderstandingV2NoTaskIfCurrent (command : SaveRequestUnderstandingV2NoTaskCommand)
  | createInitialTaskGraphV2IfCurrent (command : CreateInitialTaskGraphV2Command)
  | applyTaskTransitionIfCurrent (command : ApplyTaskTransitionCommand)
  | insertToolCall (command : CreateToolCallCommand)
  | startToolCallIfCreated (command : DispatchToolCallCommand)
  | finalizeToolCallAttemptIfRunning (command : FinalizeToolCallCommand)
  | claimAndApplyRestartRecovery (command : ApplyRestartRecoveryCommand)

/-- What a port answers. -/
inductive StoreAnswer
  | done
  | insertOnly (result : InsertOnlyWriteResult)
  | conditional (result : ConditionalWriteResult)
  | fence (result : ToolDispatchFenceWriteResult)
  | observation (result : ObservationWriteResult)
  | recovery (result : RecoveryWriteResult)
deriving DecidableEq

/-- The answer says that the command did not apply. -/
def StoreAnswer.declines : StoreAnswer → Bool
  | conditional result => result != .applied
  | fence result => result != .applied
  | observation result => result == .sourceProjectionConflict
  | recovery result => result != .applied
  | _ => false

/-- The outcome of a port after its transaction. -/
def inTransaction {α : Type} (table : RecordTable) (answer : α → StoreAnswer)
    (outcome : Codec (RecordTable × α)) :
    RecordTable × Codec StoreAnswer :=
  (table.afterTransaction outcome, do return answer (← outcome).2)

namespace StoreCommand

/-- The command passes its own validation; a port that takes a record takes any. -/
def IsValid : StoreCommand → Prop
  | saveObservation command => ContractModel.validates command = true
  | insertRun command => ContractModel.validates command = true
  | startRunIfCreated command => ContractModel.validates command = true
  | finalizeRunIfActive command => ContractModel.validates command = true
  | saveRequestUnderstandingV2NoTaskIfCurrent command => ContractModel.validates command = true
  | createInitialTaskGraphV2IfCurrent command => ContractModel.validates command = true
  | applyTaskTransitionIfCurrent command => ContractModel.validates command = true
  | insertToolCall command => ContractModel.validates command = true
  | startToolCallIfCreated command => ContractModel.validates command = true
  | finalizeToolCallAttemptIfRunning command => ContractModel.validates command = true
  | claimAndApplyRestartRecovery command => ContractModel.validates command = true
  | _ => True

section Executing

variable (library : ModelLibrary) (stamps : ℕ → RowStamp) (table : RecordTable)

/-- Execute a command: the table afterwards and the answer. -/
def execute : StoreCommand → RecordTable × Codec StoreAnswer
  | putToolsetArtifact artifact =>
    inTransaction table (fun _ => .done)
      (Infrastructure.putToolsetArtifact library stamps table artifact)
  | saveConversation record =>
    inTransaction table (fun _ => .done)
      (Infrastructure.saveConversation library stamps table record)
  | appendMessage record => inTransaction table (fun _ => .done)
      (Infrastructure.appendMessage library stamps table record)
  | saveContextManifest record =>
    inTransaction table (fun _ => .done)
      (Infrastructure.saveContextManifest library stamps table record)
  | saveGateDecision record =>
    inTransaction table (fun _ => .done)
      (Infrastructure.saveGateDecision library stamps table record)
  | appendTraceEvent record =>
    inTransaction table (fun _ => .done)
      (Infrastructure.appendTraceEvent library stamps table record)
  | appendEvalResult record =>
    inTransaction table .insertOnly (Infrastructure.appendEvalResult library stamps table record)
  | appendEvalExecutionFailure record =>
    inTransaction table (fun _ => .done)
      (Infrastructure.appendEvalExecutionFailure library stamps table record)
  | saveObservation command =>
    inTransaction table .observation (Infrastructure.saveObservation library stamps table command)
  | insertRun command =>
    inTransaction table .insertOnly (Infrastructure.insertRun library stamps table command)
  | startRunIfCreated command =>
    inTransaction table .conditional (Infrastructure.startRunIfCreated library table command)
  | finalizeRunIfActive command =>
    inTransaction table .conditional
      (Infrastructure.finalizeRunIfActive library stamps table command)
  | saveRequestUnderstandingV2NoTaskIfCurrent command =>
    inTransaction table .conditional
      (Infrastructure.saveRequestUnderstandingV2NoTaskIfCurrent library stamps table command)
  | createInitialTaskGraphV2IfCurrent command =>
    inTransaction table .conditional
      (Infrastructure.createInitialTaskGraphV2IfCurrent library stamps table command)
  | applyTaskTransitionIfCurrent command =>
    inTransaction table .conditional
      (Infrastructure.applyTaskTransitionIfCurrent library table command)
  | insertToolCall command =>
    inTransaction table .insertOnly (Infrastructure.insertToolCall library stamps table command)
  | startToolCallIfCreated command =>
    inTransaction table .fence (Infrastructure.startToolCallIfCreated library table command)
  | finalizeToolCallAttemptIfRunning command =>
    inTransaction table .conditional
      (Infrastructure.finalizeToolCallAttemptIfRunning library table command)
  | claimAndApplyRestartRecovery command =>
    let (written, result) :=
      Infrastructure.claimAndApplyRestartRecovery library none stamps table command
    (written, do return .recovery (← result))

end Executing

end StoreCommand

/-- What a keyed store holds. -/
abbrev Held := Store RecordKey Entry

/-- Replace a record by its successor. -/
def replacing (key : RecordKey) (expected next : SourceRecord) (children : List SourceRecord := [])
    (nextChildren : List SourceRecord := []) : Write RecordKey Entry :=
  .swap key ⟨expected, children⟩ ⟨next, canonicalChildren nextChildren⟩

/-- The children that are stored under a key. -/
def childrenAt (held : Held) (key : RecordKey) : List SourceRecord :=
  ((held key).map (·.children)).getD []

/-- A Task with a given history and its RequestUnit take one step. -/
def transitionWrites (history : List SourceRecord) (command : ApplyTaskTransitionCommand) :
    List (Write RecordKey Entry) :=
  [replacing (taskKey command.expectedTaskRecord.taskId) (.taskRecord command.expectedTaskRecord)
    (.taskRecord command.nextTaskRecord) history
      (history ++ [.taskStateTransition command.taskStateTransition]),
  replacing (unitKey command.expectedRequestUnitRecord.requestUnitId)
    (.requestUnitRecord command.expectedRequestUnitRecord)
      (.requestUnitRecord command.nextRequestUnitRecord)]

/-- A link is closed. -/
def linkWrite (expected terminal : RunTaskLinkRecord) : Write RecordKey Entry :=
  replacing (linkKey expected.runId expected.taskId) (.runTaskLinkRecord expected)
    (.runTaskLinkRecord terminal)

/-- The attempts of a ToolCall in a closure. -/
def attemptsIn (closure : RestartRecoveryClosure) (toolCallId : Uuid) : List SourceRecord :=
  ((Keyed.lastByKey (·.toolCallRecord.toolCallId) closure.toolCallAggregates toolCallId).map
      fun aggregate =>
    aggregate.toolAttemptRecords.map SourceRecord.toolAttemptRecord).getD []

/-- The history of a Task in a closure. -/
def historyIn (closure : RestartRecoveryClosure) (taskId : Uuid) : List SourceRecord :=
  ((Keyed.lastByKey (·.taskRecord.taskId) closure.taskAggregates taskId).map fun aggregate =>
    aggregate.taskStateTransitions.map SourceRecord.taskStateTransition).getD []

section Writes

variable (library : ModelLibrary)

/-- Enter a record unless it is there. -/
def ensuring (code : P0RecordCode) (record : SourceRecord) : Write RecordKey Entry :=
  .ensure (entryKey library code record) ⟨record, []⟩

/-- Enter a record that must not be there. -/
def inserting (code : P0RecordCode) (record : SourceRecord) (children : List SourceRecord := []) :
    Write RecordKey Entry :=
  .insert (entryKey library code record) ⟨record, children⟩

def finalizeWrites (held : Held) (command : FinalizeRunCommand) : List (Write RecordKey Entry) :=
  (command.taskTransition.toList.flatMap fun transition =>
      transitionWrites (childrenAt held (taskKey transition.expectedTaskRecord.taskId))
        transition) ++
    replacing (runKey command.expectedActiveRecord.runId)
      (.agentRunRecord command.expectedActiveRecord)
      (.agentRunRecord command.terminalRecord) ::
    (command.expectedActiveLinks.filterMap fun expected =>
      (Keyed.lastByKey (·.taskId) command.terminalLinks expected.taskId).map
        (linkWrite expected)) ++
    (command.assistantMessage.toList.map fun message =>
      inserting library .messageRecord (.messageRecord message)) ++
    command.terminalTraceEvents.map fun event =>
      inserting library .traceEventRecord (.traceEvent event)

def taskGraphWrites (command : CreateInitialTaskGraphV2Command) : List (Write RecordKey Entry) :=
  [inserting library .taskRecord (.taskRecord command.initialTask.initialRecord),
    inserting library .requestUnitRecord
      (.requestUnitRecord command.initialRequestUnit.initialRecord),
    inserting library .inputBindingRecord (.inputBinding command.inputBinding.record),
    inserting library .requestUnderstandingRecord
      (.requestUnderstandingRecordV2 command.requestUnderstanding.record)
      [.acceptedTaskDeltaV2 command.requestUnderstanding.acceptedDelta],
    inserting library .conversationTaskLinkRecord
      (.conversationTaskLinkRecord command.conversationTaskLink),
    inserting library .runTaskLinkRecord (.runTaskLinkRecord command.runTaskLink.activeRecord)]

def recoveryWrites (command : ApplyRestartRecoveryCommand) : List (Write RecordKey Entry) :=
  let closure := command.expectedClosure
  replacing (runKey closure.activeRunRecord.runId)
      (.agentRunRecord command.runTransition.expectedActiveRecord)
      (.agentRunRecord command.runTransition.incompleteRecord) ::
    (command.toolCallTransitions.map fun transition =>
      let attempts := attemptsIn closure transition.activeRecord.toolCallId
      replacing (toolCallKey transition.activeRecord.toolCallId)
        (.toolCallRecord transition.activeRecord)
        (.toolCallRecord transition.interruptedRecord) attempts attempts) ++
    (command.taskTransitions.flatMap fun transition =>
      transitionWrites (historyIn closure transition.expectedTaskRecord.taskId) transition) ++
    (command.terminalRunTaskLinks.filterMap fun terminal =>
      (Keyed.lastByKey (·.taskId) closure.runTaskLinks terminal.taskId).map fun expected =>
        linkWrite expected terminal) ++
    command.recoveryTraceEvents.map fun event =>
      ensuring library .traceEventRecord (.traceEvent event)

/-- The writes of a command. -/
def StoreCommand.writes (held : Held) : StoreCommand → List (Write RecordKey Entry)
  | putToolsetArtifact artifact =>
    [ensuring library .modelVisibleToolsetArtifact (.modelVisibleToolsetArtifact artifact)]
  | saveConversation record => [ensuring library .conversationRecord (.conversationRecord record)]
  | appendMessage record => [ensuring library .messageRecord (.messageRecord record)]
  | saveContextManifest record =>
    [ensuring library .contextManifestRecord (.contextManifest record)]
  | saveGateDecision record => [ensuring library .gateDecisionRecord (.gateDecision record)]
  | appendTraceEvent record => [ensuring library .traceEventRecord (.traceEvent record)]
  | appendEvalResult record => [ensuring library .evalResultRecord (.evalResultRecord record)]
  | appendEvalExecutionFailure record =>
    [ensuring library .evalExecutionFailureRecord (.evalExecutionFailureRecord record)]
  | saveObservation command =>
    [ensuring library .observationRecord (.orderObservation command.observationRecord)]
  | insertRun command => [ensuring library .agentRunRecord (.agentRunRecord command.createdRecord)]
  | startRunIfCreated command =>
    [replacing (runKey command.expectedActiveRecord.runId)
      (.agentRunRecord command.expectedActiveRecord)
      (.agentRunRecord command.nextRecord)]
  | finalizeRunIfActive command => finalizeWrites library held command
  | saveRequestUnderstandingV2NoTaskIfCurrent command =>
    [inserting library .requestUnderstandingRecord
      (.requestUnderstandingRecordV2 command.requestUnderstandingRecord)]
  | createInitialTaskGraphV2IfCurrent command => taskGraphWrites library command
  | applyTaskTransitionIfCurrent command =>
    transitionWrites (childrenAt held (taskKey command.expectedTaskRecord.taskId)) command
  | insertToolCall command =>
    [ensuring library .toolCallRecord (.toolCallRecord command.createdRecord)]
  | startToolCallIfCreated command =>
    [replacing (toolCallKey command.expectedCreatedRecord.toolCallId)
      (.toolCallRecord command.expectedCreatedRecord)
      (.toolCallRecord command.runningRecord) [] [.toolAttemptRecord command.startedAttempt]]
  | finalizeToolCallAttemptIfRunning command =>
    [replacing (toolCallKey command.expectedRunningRecord.toolCallId)
      (.toolCallRecord command.expectedRunningRecord)
      (.toolCallRecord command.terminalRecord) [.toolAttemptRecord command.expectedStartedAttempt]
      [.toolAttemptRecord command.finalizedAttempt]]
  | claimAndApplyRestartRecovery command => recoveryWrites library command

/-- Every active ToolCall of a Run is under one of these keys. -/
def ActiveToolCallsAt (held : Held) (runId : Uuid) (keys : List RecordKey) : Prop :=
  ∀ key call children, held key = some ⟨.toolCallRecord call, children⟩ → call.runId = runId →
    call.status.isTerminal = false → key ∈ keys

/-- Every link of a Run is under one of these keys. -/
def LinksAt (held : Held) (runId : Uuid) (keys : List RecordKey) : Prop :=
  ∀ key link children, held key = some ⟨.runTaskLinkRecord link, children⟩ → link.runId = runId →
    key ∈ keys

/-- Every Request Understanding of a Run is under this key. -/
def UnderstandingAt (held : Held) (runId : Uuid) (only : RecordKey) : Prop :=
  ∀ key record children, held key = some ⟨.requestUnderstandingRecordV2 record, children⟩ →
    record.runId = runId → key = only

/-- The Run is there, and running. -/
def RunStandsRunning (held : Held) (runId : Uuid) : Prop :=
  ∃ run children, held (runKey runId) = some ⟨.agentRunRecord run, children⟩ ∧ run.status = .running

/-- A Request Understanding is admitted to a running Run that has no other, and no link but this
one. -/
def AdmitsUnderstanding (held : Held) (record : RequestUnderstandingRecordV2)
    (links : List RecordKey) : Prop :=
  RunStandsRunning held record.runId ∧
    UnderstandingAt held record.runId
      (entryKey library .requestUnderstandingRecord (.requestUnderstandingRecordV2 record)) ∧
    LinksAt held record.runId links

/-- A command is admitted where it looks at more than what it replaces. -/
def StoreCommand.Admits (held : Held) : StoreCommand → Prop
  | finalizeRunIfActive command => ActiveToolCallsAt held command.expectedActiveRecord.runId [] ∧
      LinksAt held command.expectedActiveRecord.runId
        (command.expectedActiveLinks.map fun link => linkKey link.runId link.taskId)
  | saveRequestUnderstandingV2NoTaskIfCurrent command =>
      AdmitsUnderstanding library held command.requestUnderstandingRecord []
  | createInitialTaskGraphV2IfCurrent command =>
      AdmitsUnderstanding library held command.requestUnderstanding.record
        [entryKey library .runTaskLinkRecord (.runTaskLinkRecord command.runTaskLink.activeRecord)]
  | insertToolCall command => RunStandsRunning held command.createdRecord.runId
  | claimAndApplyRestartRecovery command =>
      ActiveToolCallsAt held command.expectedClosure.activeRunRecord.runId
          (command.toolCallTransitions.map (toolCallKey ·.activeRecord.toolCallId)) ∧
        LinksAt held command.expectedClosure.activeRunRecord.runId
          (command.terminalRunTaskLinks.map fun link => linkKey link.runId link.taskId)
  | _ => True

/-- The commands that write a Request Understanding are applied again where all that they write is
there. -/
def StoreCommand.writesUnderstanding : StoreCommand → Bool
  | saveRequestUnderstandingV2NoTaskIfCurrent _ | createInitialTaskGraphV2IfCurrent _ => true
  | _ => false

/-- What executing a command does: it is admitted and its writes are made, or it is a replay of a
Request Understanding write and all that it would enter is there. -/
inductive StoreCommand.Performs (command : StoreCommand) (table written : RecordTable) : Prop
  | makes (journal : List (Write RecordKey Entry))
      (admitted : command.Admits library (contents library table))
      (all : journal.Perm (command.writes library (contents library table)))
      (effects : Effects library table written journal)
  | finds (replays : command.writesUnderstanding = true) (same : written = table)
      (there : ∀ write ∈ command.writes library (contents library table),
        write.entered = some write.value ∧ contents library table write.key = some write.value)

end Writes

end MiniAgent.Infrastructure
