import MiniAgent.Application.TerminalBranches

/-! # The commands of a terminal branch

A branch builds a transition of its Task, a closed link, a terminal Run, a Message, its terminal
Trace and the finalization of all these. Each record is valid under a condition of its own on the
loaded records and on the readings of the branch; what remains of the finalization's own checks is
that the Task is the one of the link.
-/

namespace MiniAgent.Application

open MiniAgent.Core ContractModel
open Coroutine

/-- The clock readings of some events, in their order. -/
def readings (events : List (Event Answer)) : List Datetime := events.filterMap reading

/-- The readings never decrease. -/
abbrev NonDecreasing (events : List (Event Answer)) : Prop :=
  (readings events).Pairwise fun earlier later => earlier.instant ≤ later.instant

def generatedId : Event Answer → Option Uuid
  | ⟨.uuidFactory, value⟩ => some value
  | _ => none

/-- The identities that were drawn, in their order. -/
def generatedIds (events : List (Event Answer)) : List Uuid := events.filterMap generatedId

/-- A Trace event was recorded. -/
def recordsTrace : Event Answer → Bool
  | ⟨.port (.appendTraceEvent _), .ok _⟩ => true
  | _ => false

/-- `RESPONSE_RENDERED`, the only event that a branch appends, was recorded: the branch goes on to
its commands. -/
abbrev RecordsResponse (events : List (Event Answer)) : Prop :=
  ∃ event ∈ events, recordsTrace event = true

section Records

variable {turn : RunningTurn} {graph : CurrentGraph} {stop : TaskStop} {stopReason : StopReason}
  {result : AgentRunResult} {message : Option Text}

private theorem completedRun_valid_iff (started : turn.Started) (stopReason : StopReason)
    (completedAt : Datetime) :
    validates (completedRun turn.runningRun completedAt stopReason) = true ↔
      Projectable turn.runningRun completedAt := by
  have valid := started.valid
  unfold validates at valid ⊢
  simp only [AgentRunRecord.instContractModel, AgentRunRecord.lifecycleIsConsistent,
    Bool.and_eq_true] at valid
  obtain ⟨⟨⟨⟨lane, reason⟩, startedAt⟩, -⟩, -⟩ := valid
  simp only [completedRun, AgentRunRecord.instContractModel, AgentRunRecord.lifecycleIsConsistent,
    lane, reason, startedAt, AgentRunStatus.isActive, Option.all_some, Option.any_some]
  constructor
  · intro checked
    simp at checked
    exact ⟨checked.1, checked.2⟩
  · rintro ⟨utc, later⟩
    simp [utc, later]

/-- What a stop reason is mapped to. -/
structure Maps (turn : RunningTurn) (stopReason : StopReason) (result : AgentRunResult) : Prop where
  valid : validates result = true
  ofRun : result.runId = turn.runId
  outcome : result.outcome = mappedOutcome stopReason

private theorem maps_of_mapResult (mapped : mapResult turn.runId stopReason message = .ok result) :
    Maps turn stopReason result := by
  unfold mapResult at mapped
  split at mapped
  · next model constructs =>
    split at mapped
    · cases mapped
    · obtain rfl := Except.ok.inj mapped
      obtain ⟨valid, rfl⟩ := construct_eq_some.mp constructs
      refine ⟨valid, ?_, ?_⟩
      · cases stopReason <;> rfl
      · cases stopReason <;> rfl
  · split at mapped <;> cases mapped

private theorem assistantMessage_valid_iff (maps : Maps turn stopReason result) (messageId : Uuid)
    (completedAt : Datetime) :
    validates (assistantMessage turn.conversation messageId result completedAt) = true ↔
      completedAt.requireUtc = true := by
  have content : isMessageContent result.message = true := maps.valid
  unfold validates
  simp [instContractModelMessageRecord, assistantMessage, messageSchemaVersion, content]

private theorem runStoppedEvent_valid_iff (turn : RunningTurn) (result : AgentRunResult)
    (stopReason : StopReason) (traceEventId : Uuid) (completedAt : Datetime) :
    validates (runStoppedEvent traceEventId turn.runId result stopReason completedAt) = true ↔
      completedAt.requireUtc = true := by
  unfold validates
  simp [TraceEvent.instContractModel, runStoppedEvent, TraceEvent.optionalTexts,
    TraceEvent.stoppedEventHasOutcomeAndReason, toolTraceStatus]

/-- The Trace event that reports the transition. -/
def taskStateChangedEvent (turn : RunningTurn) (graph : CurrentGraph) (traceEventId : Uuid)
    (changedAt : Datetime) :
    TraceEvent where
  traceEventId := traceEventId
  eventType := .taskStateChanged
  occurredAt := changedAt
  runId := turn.runId
  taskId := some graph.task.taskId
  requestUnitId := some graph.unit.requestUnitId

private theorem taskStateChangedEvent_valid_iff (turn : RunningTurn) (graph : CurrentGraph)
    (traceEventId : Uuid) (changedAt : Datetime) :
    validates (taskStateChangedEvent turn graph traceEventId changedAt) = true ↔
    changedAt.requireUtc = true := by
  unfold validates
  simp [TraceEvent.instContractModel, taskStateChangedEvent, TraceEvent.optionalTexts,
    TraceEvent.stoppedEventHasOutcomeAndReason, toolTraceStatus]

/-- The Task and the RequestUnit can change to the status of the stop at an instant. -/
structure Changes (graph : CurrentGraph) (stop : TaskStop) (changedAt : Datetime) : Prop where
  utc : changedAt.requireUtc = true
  taskNotLater : graph.task.updatedAt.instant ≤ changedAt.instant
  unitNotLater : graph.unit.updatedAt.instant ≤ changedAt.instant
  otherStatus : graph.task.status ≠ stop.targetStatus
  sameStatus : graph.unit.status = graph.task.status
  sameVersion : graph.unit.stateVersion = graph.task.stateVersion
  ofTask : graph.unit.taskId = graph.task.taskId

private theorem nextTask_valid_iff (loaded : graph.Loaded turn) (stop : TaskStop)
    (changedAt : Datetime) :
    validates (stopTransition graph stop changedAt).nextTaskRecord = true ↔
      changedAt.requireUtc = true ∧ graph.task.createdAt.instant ≤ changedAt.instant := by
  have task := loaded.task
  unfold validates at task ⊢
  simp only [instContractModelTaskRecord, Bool.and_eq_true, decide_eq_true_eq, and_assoc] at task
  obtain ⟨owner, -, created, -⟩ := task
  simp [stopTransition, instContractModelTaskRecord, owner, created]

private theorem nextRequestUnit_valid_iff (loaded : graph.Loaded turn) (stop : TaskStop)
    (changedAt : Datetime) :
    validates (stopTransition graph stop changedAt).nextRequestUnitRecord = true ↔
      changedAt.requireUtc = true ∧ graph.unit.createdAt.instant ≤ changedAt.instant := by
  have unit := loaded.unit
  unfold validates at unit ⊢
  simp only [instContractModelRequestUnitRecord, Bool.and_eq_true, decide_eq_true_eq, and_assoc]
    at unit
  obtain ⟨goal, sources, bindings, questions, -, created, -⟩ := unit
  simp [stopTransition, instContractModelRequestUnitRecord, goal, sources, bindings, questions,
    created]

private theorem transition_valid_iff (loaded : graph.Loaded turn) (stop : TaskStop)
    (changedAt : Datetime) :
    validates (stopTransition graph stop changedAt).taskStateTransition = true ↔
      changedAt.requireUtc = true ∧ graph.task.status ≠ stop.targetStatus := by
  have task := loaded.task
  unfold validates at task ⊢
  simp only [instContractModelTaskRecord, Bool.and_eq_true, decide_eq_true_eq, and_assoc] at task
  simp [stopTransition, instContractModelTaskStateTransition, task.2.1]

/-- A record was not updated before it was created. -/
private theorem created_le_updated (loaded : graph.Loaded turn) :
    graph.task.createdAt.instant ≤ graph.task.updatedAt.instant ∧
    graph.unit.createdAt.instant ≤ graph.unit.updatedAt.instant := by
  have task := loaded.task
  have unit := loaded.unit
  unfold validates at task unit
  simp only [instContractModelTaskRecord, instContractModelRequestUnitRecord, Bool.and_eq_true,
    decide_eq_true_eq, and_assoc] at task unit
  exact ⟨task.2.2.2.2, unit.2.2.2.2.2.2.2⟩

private theorem stopTransition_valid_iff (loaded : graph.Loaded turn) (changedAt : Datetime) :
    validates (stopTransition graph stop changedAt) = true ↔ Changes graph stop changedAt := by
  have stable : (stopTransition graph stop changedAt).sameTaskStableFields = true ∧
      sameRequestUnitStableFields graph.unit
          (stopTransition graph stop changedAt).nextRequestUnitRecord = true := by
    simp [stopTransition, ApplyTaskTransitionCommand.sameTaskStableFields,
      sameRequestUnitStableFields]
  have binds : (stopTransition graph stop changedAt).bindsOneTaskAndUnit = true ↔
      graph.unit.taskId = graph.task.taskId := by
    simp [stopTransition, ApplyTaskTransitionCommand.bindsOneTaskAndUnit]
  have versions : (stopTransition graph stop changedAt).matchesVersions = true ↔
      graph.unit.stateVersion = graph.task.stateVersion := by
    simp [stopTransition, ApplyTaskTransitionCommand.matchesVersions]
  have statuses : (stopTransition graph stop changedAt).matchesStatuses = true ↔
      graph.unit.status = graph.task.status := by
    simp [stopTransition, ApplyTaskTransitionCommand.matchesStatuses]
  have timestamps : (stopTransition graph stop changedAt).usesChangeTimestamp = true ↔
      graph.task.updatedAt.instant ≤ changedAt.instant ∧
      graph.unit.updatedAt.instant ≤ changedAt.instant := by
    simp [stopTransition, ApplyTaskTransitionCommand.usesChangeTimestamp]
  have expected : validates (stopTransition graph stop changedAt).expectedTaskRecord = true :=
    loaded.task
  have expectedUnit : validates
    (stopTransition graph stop changedAt).expectedRequestUnitRecord = true := loaded.unit
  have checks : validates (stopTransition graph stop changedAt) = true ↔
      (changedAt.requireUtc = true ∧ graph.task.createdAt.instant ≤ changedAt.instant) ∧
        (changedAt.requireUtc = true ∧ graph.unit.createdAt.instant ≤ changedAt.instant) ∧
          (changedAt.requireUtc = true ∧ graph.task.status ≠ stop.targetStatus) ∧
            graph.unit.taskId = graph.task.taskId ∧
            graph.unit.stateVersion = graph.task.stateVersion ∧
              graph.unit.status = graph.task.status ∧
              graph.task.updatedAt.instant ≤ changedAt.instant ∧
                graph.unit.updatedAt.instant ≤ changedAt.instant := by
    rw [← nextTask_valid_iff loaded, ← nextRequestUnit_valid_iff loaded,
      ← transition_valid_iff loaded, ← binds, ← versions, ← statuses, ← timestamps]
    change (_ && _) = true ↔ _
    simp only [Bool.and_eq_true, expected, expectedUnit, and_assoc, true_and]
    constructor
    · rintro ⟨task, unit, transition, -, -, rest⟩
      exact ⟨task, unit, transition, rest⟩
    · rintro ⟨task, unit, transition, rest⟩
      exact ⟨task, unit, transition, stable.1, stable.2, rest⟩
  obtain ⟨taskCreated, unitCreated⟩ := created_le_updated loaded
  rw [checks]
  constructor
  · rintro ⟨⟨utc, -⟩, -, ⟨-, other⟩, ofTask, version, status, taskNotLater, unitNotLater⟩
    exact ⟨utc, taskNotLater, unitNotLater, other, status, version, ofTask⟩
  · rintro ⟨utc, taskNotLater, unitNotLater, other, status, version, ofTask⟩
    exact ⟨⟨utc, taskCreated.trans taskNotLater⟩, ⟨utc, unitCreated.trans unitNotLater⟩,
      ⟨utc, other⟩, ofTask, version, status, taskNotLater, unitNotLater⟩

/-- The finalization of a branch without a Task. -/
def taskFreeFinalization (turn : RunningTurn) (stopReason : StopReason) (result : AgentRunResult)
    (completedAt : Datetime) (messageId stoppedId : Uuid) : FinalizeRunCommand where
  expectedActiveRecord := turn.runningRun
  terminalRecord := completedRun turn.runningRun completedAt stopReason
  expectedActiveLinks := []
  terminalLinks := []
  resultTaskRecords := []
  terminalResult := some result
  assistantMessage := some (assistantMessage turn.conversation messageId result completedAt)
  terminalTraceEvents := [runStoppedEvent stoppedId turn.runId result stopReason completedAt]

/-- The finalization of a branch with a Task. -/
def taskFinalization (turn : RunningTurn) (graph : CurrentGraph) (stop : TaskStop)
    (result : AgentRunResult) (changedAt completedAt : Datetime)
    (messageId changedId stoppedId : Uuid) : FinalizeRunCommand :=
  let transition := stopTransition graph stop changedAt
  { expectedActiveRecord := turn.runningRun
    terminalRecord := completedRun turn.runningRun completedAt stop.stopReason
    expectedActiveLinks := [graph.activeLink]
    terminalLinks := [terminalLink graph.activeLink transition.nextTaskRecord]
    resultTaskRecords := [transition.nextTaskRecord]
    taskTransition := some transition
    terminalResult := some result
    assistantMessage := some (assistantMessage turn.conversation messageId result completedAt)
    terminalTraceEvents :=
      [taskStateChangedEvent turn graph changedId changedAt,
        runStoppedEvent stoppedId turn.runId result stop.stopReason completedAt] }

/-- A COMPLETED Run is the RUNNING one with its stop reason. -/
private theorem completedRun_consistent (started : turn.Started)
    (restart : stopReason ≠ .processRestartDetected) {command : FinalizeRunCommand}
    {completedAt : Datetime} (expected : command.expectedActiveRecord = turn.runningRun)
    (terminal : command.terminalRecord = completedRun turn.runningRun completedAt stopReason) :
    command.terminalRunIsConsistent = true := by
  obtain ⟨running, reason⟩ := started.running
  unfold FinalizeRunCommand.terminalRunIsConsistent
  rw [expected, terminal]
  simp [completedRun, running, reason, started.ofConversation, restart, sameRunStableFields]

/-- The rows of the matrix name no restart. -/
private theorem row_not_restart {hasTask : Bool} {outcome : AgentOutcome}
    {status : Option TaskStatus}
    (row : (stopReason, hasTask, outcome, status) ∈ completedFinalizationRows) :
    stopReason ≠ .processRestartDetected := by
  rintro rfl
  simp [completedFinalizationRows] at row

/-- The Message of a completed Run says what the result says. -/
private theorem assistantMessage_exact (started : turn.Started) (result : AgentRunResult)
    {command : FinalizeRunCommand} {completedAt : Datetime}
    (terminal : command.terminalRecord = completedRun turn.runningRun completedAt stopReason)
    (messageId : Uuid) :
    command.messageIsExact result
    (assistantMessage turn.conversation messageId result completedAt) = true := by
  unfold FinalizeRunCommand.messageIsExact
  rw [terminal]
  simp [assistantMessage, messageSchemaVersion, completedRun, started.ofConversation]

/-- A finalization that completes a Run is valid exactly if its links are closed and it is an exact
completion. -/
private theorem completion_valid_iff {command : FinalizeRunCommand}
    (nested : command.nestedModelsValidate = true) (bounds : command.boundsHold = true)
    (consistent : command.terminalRunIsConsistent = true)
    (completed : command.terminalRecord.status = .completed) :
    validates command = true ↔ command.linksAreClosed = true ∧
    command.completionIsExact = true := by
  unfold validates
  simp [FinalizeRunCommand.instContractModel, nested, bounds, consistent, completed]

private theorem taskFreeFinalization_valid (started : turn.Started)
    (listed : StopReason.ListedWithoutTask stopReason) (maps : Maps turn stopReason result)
    {completedAt : Datetime} (projectable : Projectable turn.runningRun completedAt)
    (messageId stoppedId : Uuid) :
    validates (taskFreeFinalization turn stopReason result completedAt messageId stoppedId) =
    true := by
  have run := (completedRun_valid_iff started stopReason completedAt).mpr projectable
  have message := (assistantMessage_valid_iff maps messageId completedAt).mpr projectable.utc
  have stopped :=
    (runStoppedEvent_valid_iff turn result stopReason stoppedId completedAt).mpr projectable.utc
  have nested : (taskFreeFinalization turn stopReason result completedAt messageId
    stoppedId).nestedModelsValidate =
      true := by
    simp [FinalizeRunCommand.nestedModelsValidate, taskFreeFinalization, started.valid, run,
      message, stopped, maps.valid]
  have row :
      completedFinalizationRows.contains (stopReason, false, result.outcome, none) = true := by
    rw [maps.outcome]
    exact List.contains_iff_mem.mpr listed
  generalize built : taskFreeFinalization turn stopReason result completedAt messageId stoppedId =
    command at nested ⊢
  have terminal : command.terminalRecord = completedRun turn.runningRun completedAt stopReason :=
    built ▸ rfl
  have trace : command.traceIsExact result = true := by
    subst built
    simp [FinalizeRunCommand.traceIsExact, FinalizeRunCommand.reportsStop, taskFreeFinalization,
      runStoppedEvent, completedRun, terminalTraceProjection, runStoppedProjection, allDistinct]
  have completion : command.completionIsExact = true := by
    have stated := assistantMessage_exact started result terminal messageId
    have transition : command.taskTransition = none := built ▸ rfl
    have links : command.expectedActiveLinks = [] := built ▸ rfl
    have returned : command.terminalResult = some result := built ▸ rfl
    have sent : command.assistantMessage =
        some (assistantMessage turn.conversation messageId result completedAt) :=
      built ▸ rfl
    have reason : command.terminalRecord.stopReason = some stopReason := terminal ▸ rfl
    have sameRun : command.terminalRecord.runId = turn.runId := terminal ▸ rfl
    simp [FinalizeRunCommand.completionIsExact, transition, links, returned, sent, reason, sameRun,
      maps.ofRun, stated, trace]
    simpa using row
  refine (completion_valid_iff nested ?_ ?_ ?_).mpr ⟨?_, completion⟩
  · exact built ▸ rfl
  · exact completedRun_consistent started (row_not_restart listed) (built ▸ rfl) terminal
  · exact built ▸ rfl
  · exact built ▸ rfl

/-- What the finalization of a branch with a Task checks beside its records. -/
structure Fits (graph : CurrentGraph) (changedId stoppedId : Uuid) : Prop where
  linked : graph.task.taskId = graph.activeLink.taskId
  apart : changedId ≠ stoppedId

variable {changedAt completedAt : Datetime} {messageId changedId stoppedId : Uuid}
  {command : FinalizeRunCommand}
  (built : taskFinalization turn graph stop result changedAt completedAt messageId changedId
    stoppedId = command)
include built

private theorem taskFinalization_links (loaded : graph.Loaded turn) :
    command.linksAreClosed = true ↔ graph.task.taskId = graph.activeLink.taskId := by
  have ofRun : graph.activeLink.runId = turn.runningRun.runId := loaded.ofRun
  subst built
  simp only [FinalizeRunCommand.linksAreClosed, taskFinalization, terminalLink, stopTransition,
    Keyed.lastByKey, sameSet, allDistinct, List.map_cons, List.map_nil, List.all_cons, List.all_nil]
  constructor
  · intro checked
    simp at checked
    exact checked.1.2.1
  · intro linked
    simp [linked, ofRun, loaded.unclosed, loaded.base]

private theorem taskFinalization_trace : command.traceIsExact result = true ↔
    changedId ≠ stoppedId := by
  subst built
  simp [FinalizeRunCommand.traceIsExact, FinalizeRunCommand.reportsStop,
    FinalizeRunCommand.reportsTransition, taskFinalization, taskStateChangedEvent, stopTransition,
    runStoppedEvent, completedRun, terminalTraceProjection,
    runStoppedProjection, taskStateChangedProjection, allDistinct]

private theorem taskFinalization_transition (loaded : graph.Loaded turn)
    (linked : graph.task.taskId = graph.activeLink.taskId) (changes : Changes graph stop changedAt)
    (later : changedAt.instant ≤ completedAt.instant) :
    command.transitionClosesLink (stopTransition graph stop changedAt) = true := by
  subst built
  simp [FinalizeRunCommand.transitionClosesLink, taskFinalization, stopTransition, completedRun,
    linked, loaded.base, later, changes.sameVersion]

/-- The records of the finalization are valid. -/
private theorem taskFinalization_nested (started : turn.Started) (loaded : graph.Loaded turn)
    (maps : Maps turn stop.stopReason result) (changes : Changes graph stop changedAt)
    (projectable : Projectable turn.runningRun completedAt) :
    command.nestedModelsValidate = true := by
  have run := (completedRun_valid_iff started stop.stopReason completedAt).mpr projectable
  have message := (assistantMessage_valid_iff maps messageId completedAt).mpr projectable.utc
  have stopped :=
    (runStoppedEvent_valid_iff turn result stop.stopReason stoppedId completedAt).mpr
      projectable.utc
  have changed := (taskStateChangedEvent_valid_iff turn graph changedId changedAt).mpr changes.utc
  have transition := (stopTransition_valid_iff loaded changedAt).mpr changes
  obtain ⟨taskCreated, -⟩ := created_le_updated loaded
  have next :=
    (nextTask_valid_iff loaded stop changedAt).mpr
      ⟨changes.utc, taskCreated.trans changes.taskNotLater⟩
  have closed := terminalLink_valid loaded.link loaded.base next
  subst built
  simp [FinalizeRunCommand.nestedModelsValidate, taskFinalization, started.valid, loaded.link, run,
    message, stopped, changed, transition, next, closed, maps.valid]

private theorem taskFinalization_valid_iff (started : turn.Started) (loaded : graph.Loaded turn)
    (listed : stop.Listed) (maps : Maps turn stop.stopReason result)
    (changes : Changes graph stop changedAt) (projectable : Projectable turn.runningRun completedAt)
    (later : changedAt.instant ≤ completedAt.instant) :
    validates command = true ↔ Fits graph changedId stoppedId := by
  have nested := taskFinalization_nested built started loaded maps changes projectable
  have terminal : command.terminalRecord =
    completedRun turn.runningRun completedAt stop.stopReason := built ▸ rfl
  have consistent := completedRun_consistent started (row_not_restart listed) (built ▸ rfl) terminal
  have row : completedFinalizationRows.contains
      (stop.stopReason, true, result.outcome, some stop.targetStatus) = true := by
    rw [maps.outcome]
    exact List.contains_iff_mem.mpr listed
  have completion (linked : graph.task.taskId = graph.activeLink.taskId) :
      command.completionIsExact = true ↔ changedId ≠ stoppedId := by
    have stated := assistantMessage_exact started result terminal messageId
    have closes := taskFinalization_transition built loaded linked changes later
    have transition : command.taskTransition = some (stopTransition graph stop changedAt) :=
      built ▸ rfl
    have target : (stopTransition graph stop changedAt).nextTaskRecord.status = stop.targetStatus :=
      rfl
    have links : command.expectedActiveLinks = [graph.activeLink] := built ▸ rfl
    have returned : command.terminalResult = some result := built ▸ rfl
    have sent : command.assistantMessage =
        some (assistantMessage turn.conversation messageId result completedAt) :=
      built ▸ rfl
    have reason : command.terminalRecord.stopReason = some stop.stopReason := terminal ▸ rfl
    have sameRun : command.terminalRecord.runId = turn.runId := terminal ▸ rfl
    rw [← taskFinalization_trace built]
    simp only [FinalizeRunCommand.completionIsExact, transition, links, returned, sent, reason,
      sameRun, maps.ofRun, stated, closes, target, row, Option.isSome_some, List.isEmpty_cons,
      Bool.not_false, BEq.rfl, Option.all_some, Option.map_some,
      Bool.true_and]
  rw [completion_valid_iff nested (built ▸ rfl) consistent (built ▸ rfl),
    taskFinalization_links built loaded]
  constructor
  · rintro ⟨linked, complete⟩
    exact ⟨linked, (completion linked).mp complete⟩
  · rintro ⟨linked, apart⟩
    exact ⟨linked, (completion linked).mpr apart⟩

end Records

section Preparing

variable {turn : RunningTurn} {graph : CurrentGraph} {stop : TaskStop} {stopReason : StopReason}
  {state : RunFailureState}

/-- What a branch with a Task needs of the loaded records, and of the readings and identities after
the one of the rendered response. -/
structure TaskStopNeeds (graph : CurrentGraph) (stop : TaskStop) (after : List (Event Answer)) :
    Prop where
  otherStatus : graph.task.status ≠ stop.targetStatus
  sameStatus : graph.unit.status = graph.task.status
  sameVersion : graph.unit.stateVersion = graph.task.stateVersion
  ofTask : graph.unit.taskId = graph.task.taskId
  linked : graph.task.taskId = graph.activeLink.taskId
  notLater : ∀ changedAt, (readings after)[1]? = some changedAt →
    graph.task.updatedAt.instant ≤ changedAt.instant ∧
    graph.unit.updatedAt.instant ≤ changedAt.instant
  utc : ∀ read ∈ (readings after).tail, read.requireUtc = true
  apart : ∀ changedId stoppedId, (generatedIds after)[2]? = some changedId →
    (generatedIds after)[3]? = some stoppedId → changedId ≠ stoppedId

/-- What a branch without a Task needs. -/
def TaskFreeStopNeeds (after : List (Event Answer)) : Prop :=
  ∀ read ∈ (readings after).tail, read.requireUtc = true

/-- The run so far was started no later than the readings of the branch, which never decrease. -/
structure Timely (turn : RunningTurn) (after : List (Event Answer)) : Prop where
  started : ∀ read ∈ readings after, turn.runningRun.startedAt.instant ≤ read.instant
  ordered : NonDecreasing after

/-- The commands of the branch are built exactly if it has what it needs. -/
def BuiltIff (turn : RunningTurn) (needs : List (Event Answer) → Prop)
    (outcome : Except Raised PreparedStop) (after : List (Event Answer)) : Prop :=
  RecordsResponse after → Timely turn after → ((∃ prepared, outcome = .ok prepared) ↔ needs after)

/-- The rest runs after the event was recorded. -/
private theorem appendTrace_bind {α : Type} {eventType : TraceEventType} {runId : Uuid}
    {fields : TraceEvent → TraceEvent} {next : Unit → Service α}
    {post : Except Raised α → RunFailureState → List (Event Answer) → Prop}
    (recorded : ∀ traceEventId occurredAt record,
      (next ()).Ensures state fun outcome final events =>
      post outcome final (⟨.uuidFactory, traceEventId⟩ :: ⟨.clock, occurredAt⟩ ::
        ⟨.port (.appendTraceEvent record), .ok ()⟩ :: events))
    (unrecorded : ∀ raised events, ¬RecordsResponse events → post (.error raised) state events) :
    (appendTrace eventType runId fields none >>= next).Ensures state post := by
  unfold appendTrace
  simp only [bind_assoc]
  refine ensures_ask_bind_iff.mpr fun traceEventId => ensures_ask_bind_iff.mpr fun occurredAt => ?_
  apply constructed_bind
  · intro valid
    apply request_bind
    · intro reply
      exact recorded traceEventId occurredAt _
    · intro raised
      apply unrecorded
      rintro ⟨event, member, recorded⟩
      simp only [List.mem_cons, List.not_mem_nil, or_false] at member
      rcases member with rfl | rfl | rfl <;> cases recorded
  · intro invalid
    apply unrecorded
    rintro ⟨event, member, recorded⟩
    simp only [List.mem_cons, List.not_mem_nil, or_false] at member
    rcases member with rfl | rfl <;> cases recorded

/-- A branch that raised has failed at a record that its needs make valid. -/
private theorem builtIff_of_raised {needs : List (Event Answer) → Prop} {raised : Raised}
    {after : List (Event Answer)} (failed : Timely turn after → ¬needs after) :
    BuiltIff turn needs (.error raised) after := by
  intro _ timely
  apply iff_of_false
  · rintro ⟨prepared, same⟩
    cases same
  · exact failed timely

private theorem builtIff_of_unrecorded {needs : List (Event Answer) → Prop}
    {outcome : Except Raised PreparedStop} {after : List (Event Answer)}
    (unrecorded : ¬RecordsResponse after) : BuiltIff turn needs outcome after :=
  fun recorded => absurd recorded unrecorded

private theorem prepareStopWithoutTask_builtIff (started : turn.Started)
    (listed : StopReason.ListedWithoutTask stopReason) :
    (prepareStopWithoutTask turn stopReason).Ensures state fun outcome _ after =>
      BuiltIff turn TaskFreeStopNeeds outcome after := by
  apply ensures_ofExcept_bind
  · intro result mapped
    have maps := maps_of_mapResult (mapResult_eq_ok mapped)
    refine appendTrace_bind (fun traceEventId renderedAt record => ?_) fun _ _ =>
      builtIff_of_unrecorded
    refine ensures_ask_bind_iff.mpr fun completedAt => ?_
    -- a reading that is UTC and not before the start makes every record valid
    have projects {after : List (Event Answer)} (read : readings after = [renderedAt, completedAt])
        (timely : Timely turn after) (needs : TaskFreeStopNeeds after) :
            Projectable turn.runningRun completedAt :=
      ⟨needs completedAt (by simp [read]), timely.started completedAt (by simp [read])⟩
    have fails {after : List (Event Answer)} {raised : Raised}
        (read : readings after = [renderedAt, completedAt])
        (invalid : ¬Projectable turn.runningRun completedAt) :
        BuiltIff turn TaskFreeStopNeeds (.error raised) after :=
      builtIff_of_raised fun timely needs => invalid (projects read timely needs)
    apply constructed_bind
    · intro run
      have projectable := (completedRun_valid_iff started stopReason completedAt).mp run
      refine ensures_ask_bind_iff.mpr fun messageId => ?_
      apply constructed_bind
      · intro message
        refine ensures_ask_bind_iff.mpr fun stoppedId => ?_
        apply constructed_bind
        · intro stopped
          apply constructed_bind
          · intro valid
            refine ensures_pure_iff.mpr fun _ _ => iff_of_true ⟨_, rfl⟩ ?_
            intro read member
            obtain rfl := List.mem_singleton.mp member
            exact projectable.utc
          · intro invalid
            have valid :=
              taskFreeFinalization_valid started listed maps projectable messageId stoppedId
            exact absurd (valid.symm.trans invalid) nofun
        · intro invalid
          have valid :=
            (runStoppedEvent_valid_iff turn result stopReason stoppedId completedAt).mpr
              projectable.utc
          exact absurd (valid.symm.trans invalid) nofun
      · intro invalid
        have valid := (assistantMessage_valid_iff maps messageId completedAt).mpr projectable.utc
        exact absurd (valid.symm.trans invalid) nofun
    · intro invalid
      apply fails rfl
      intro projectable
      exact absurd (((completedRun_valid_iff started stopReason completedAt).mpr
        projectable).symm.trans invalid) nofun
  · intro raised _
    apply builtIff_of_unrecorded
    rintro ⟨event, member, -⟩
    cases member

/-- What the needs of a branch say of its second reading. -/
theorem TaskStopNeeds.changes {after : List (Event Answer)} {renderedAt changedAt : Datetime}
    {rest : List Datetime} (needs : TaskStopNeeds graph stop after)
    (read : readings after = renderedAt :: changedAt :: rest) :
    Changes graph stop changedAt := by
  obtain ⟨taskNotLater, unitNotLater⟩ := needs.notLater changedAt (by simp [read])
  exact ⟨needs.utc changedAt (by simp [read]), taskNotLater, unitNotLater, needs.otherStatus,
    needs.sameStatus, needs.sameVersion, needs.ofTask⟩

theorem TaskStopNeeds.projectable {after : List (Event Answer)}
    {renderedAt changedAt completedAt : Datetime} (needs : TaskStopNeeds graph stop after)
    (timely : Timely turn after) (read : readings after = [renderedAt, changedAt, completedAt]) :
    Projectable turn.runningRun completedAt :=
  ⟨needs.utc completedAt (by simp [read]), timely.started completedAt (by simp [read])⟩

private theorem prepareStopWithTask_builtIff (started : turn.Started) (loaded : graph.Loaded turn)
    (listed : stop.Listed) :
    (prepareStopWithTask turn graph stop).Ensures state fun outcome _ after =>
      BuiltIff turn (TaskStopNeeds graph stop) outcome after := by
  apply ensures_ofExcept_bind
  · intro result mapped
    have maps := maps_of_mapResult (mapResult_eq_ok mapped)
    refine appendTrace_bind (fun traceEventId renderedAt record => ?_) fun _ _ =>
      builtIff_of_unrecorded
    refine ensures_ask_bind_iff.mpr fun changedAt => ?_
    apply constructed_bind
    · intro valid
      have changes := (stopTransition_valid_iff loaded changedAt).mp valid
      obtain ⟨taskCreated, -⟩ := created_le_updated loaded
      have next := (nextTask_valid_iff loaded stop changedAt).mpr
        ⟨changes.utc, taskCreated.trans changes.taskNotLater⟩
      apply constructed_bind
      · intro closed
        refine ensures_ask_bind_iff.mpr fun completedAt => ?_
        apply constructed_bind
        · intro run
          have projectable := (completedRun_valid_iff started stop.stopReason completedAt).mp run
          refine ensures_ask_bind_iff.mpr fun messageId => ?_
          apply constructed_bind
          · intro message
            refine ensures_ask_bind_iff.mpr fun changedId => ?_
            apply constructed_bind
            · intro changed
              refine ensures_ask_bind_iff.mpr fun stoppedId => ?_
              apply constructed_bind
              · intro stopped
                -- only the finalization's own checks are left
                have fits {after : List (Event Answer)} (timely : Timely turn after)
                    (read : readings after = [renderedAt, changedAt, completedAt]) :
                    validates (taskFinalization turn graph stop result changedAt completedAt
                      messageId changedId
                      stoppedId) = true ↔ Fits graph changedId stoppedId := by
                  have ordered := timely.ordered
                  rw [NonDecreasing, read] at ordered
                  have later : changedAt.instant ≤ completedAt.instant := by
                    simp at ordered; exact ordered.2
                  exact taskFinalization_valid_iff rfl started loaded listed maps changes
                    projectable later
                apply constructed_bind
                · intro valid
                  refine ensures_pure_iff.mpr fun _ timely => iff_of_true ⟨_, rfl⟩ ?_
                  have checked := (fits timely rfl).mp valid
                  refine ⟨changes.otherStatus, changes.sameStatus, changes.sameVersion,
                    changes.ofTask, checked.linked, ?_, ?_, ?_⟩
                  · intro read same
                    obtain rfl := Option.some.inj same
                    exact ⟨changes.taskNotLater, changes.unitNotLater⟩
                  · intro read member
                    rcases List.mem_cons.mp member with rfl | member
                    · exact changes.utc
                    · obtain rfl := List.mem_singleton.mp member
                      exact projectable.utc
                  · intro first second firstSame secondSame
                    obtain rfl := Option.some.inj firstSame
                    obtain rfl := Option.some.inj secondSame
                    exact checked.apart
                · intro invalid
                  apply builtIff_of_raised
                  intro timely needs
                  have valid :=
                    (fits timely rfl).mpr ⟨needs.linked, needs.apart changedId stoppedId rfl rfl⟩
                  exact absurd (valid.symm.trans invalid) nofun
              · intro invalid
                have valid :=
                  (runStoppedEvent_valid_iff turn result stop.stopReason stoppedId completedAt).mpr
                  projectable.utc
                exact absurd (valid.symm.trans invalid) nofun
            · intro invalid
              have valid :=
                (taskStateChangedEvent_valid_iff turn graph changedId changedAt).mpr changes.utc
              exact absurd (valid.symm.trans invalid) nofun
          · intro invalid
            have valid :=
              (assistantMessage_valid_iff maps messageId completedAt).mpr projectable.utc
            exact absurd (valid.symm.trans invalid) nofun
        · intro invalid
          apply builtIff_of_raised
          intro timely needs
          have valid :=
            (completedRun_valid_iff started stop.stopReason completedAt).mpr
              (needs.projectable timely rfl)
          exact absurd (valid.symm.trans invalid) nofun
      · intro invalid
        have valid := terminalLink_valid loaded.link loaded.base next
        exact absurd (valid.symm.trans invalid) nofun
    · intro invalid
      apply builtIff_of_raised
      intro timely needs
      have valid := (stopTransition_valid_iff loaded changedAt).mpr (needs.changes rfl)
      exact absurd (valid.symm.trans invalid) nofun
  · intro raised _
    apply builtIff_of_unrecorded
    rintro ⟨event, member, -⟩
    cases member

end Preparing

/-- What a branch needs of its loaded records and of its readings. -/
def TerminalBranch.Needs : TerminalBranch → List (Event Answer) → Prop
  | .withTask _ graph stop, after => TaskStopNeeds graph stop after
  | .withoutTask .., after => TaskFreeStopNeeds after

private theorem TerminalBranch.Admissible.builtIff {branch : TerminalBranch}
    (admissible : branch.Admissible) (state : RunFailureState) :
    branch.prepare.Ensures state fun outcome _ after =>
    BuiltIff branch.turn branch.Needs outcome after ∧
      ∀ stop, outcome = .ok stop → validates stop.command = true := by
  cases branch with
  | withTask turn graph stop =>
    obtain ⟨started, loaded, listed⟩ := admissible
    refine ((prepareStopWithTask_builtIff started loaded listed).and
      (prepareStopWithTask_spec turn graph stop state)).mono ?_
    rintro outcome _ after ⟨built, stops⟩
    exact ⟨built, fun prepared same => (stops prepared same).valid⟩
  | withoutTask turn stopReason =>
    obtain ⟨started, listed⟩ := admissible
    refine ((prepareStopWithoutTask_builtIff started listed).and
      (prepareStopWithoutTask_spec turn stopReason state)).mono ?_
    rintro outcome _ after ⟨built, stops⟩
    exact ⟨built, fun prepared same => (stops prepared same).valid⟩

/-- The readings of a branch are not before the start of its Run, which was read earlier. -/
private theorem timely_of_nonDecreasing {turn : RunningTurn} {before after : List (Event Answer)}
    (started : ⟨.clock, turn.runningRun.startedAt⟩ ∈ before)
    (ordered : NonDecreasing (before ++ after)) :
    Timely turn after := by
  rw [NonDecreasing, readings, List.filterMap_append, List.pairwise_append] at ordered
  obtain ⟨-, later, across⟩ := ordered
  refine ⟨fun read member => across _ ?_ read member, later⟩
  exact List.mem_filterMap.mpr ⟨_, started, rfl⟩

/-- A turn is its terminal branch and what the branch does. On a clock that never decreases, the
commands of every branch that is taken are built and valid if and only if the branch has what it
needs: readings in UTC, two Trace identities apart, and with a Task, a loaded Task and RequestUnit
that fit each other, the link and the stop. -/
theorem terminal_commands_valid_iff (service : AgentRunService) (command : AgentRunCommand) :
    handleTurn service command = terminalBranch service command >>= TerminalBranch.finish ∧
    (terminalBranch service command).Ensures {} fun reached state before =>
    ∀ branch, reached = .ok branch →
      branch.prepare.Ensures state fun prepared _ after => RecordsResponse after →
      NonDecreasing (before ++ after) →
        ((∃ stop, prepared = .ok stop ∧ validates stop.command = true) ↔ branch.Needs after) := by
  refine ⟨handleTurn_eq service command, ?_⟩
  refine (terminalBranch_spec service command).mono ?_
  intro reached state before spec branch same
  obtain ⟨admissible, started⟩ := spec branch same
  refine (admissible.builtIff state).mono ?_
  rintro prepared _ after ⟨built, valid⟩ recorded ordered
  rw [← built recorded (timely_of_nonDecreasing started ordered)]
  constructor
  · rintro ⟨stop, same, -⟩
    exact ⟨stop, same⟩
  · rintro ⟨stop, same⟩
    exact ⟨stop, same, valid stop same⟩

/-- The environment of the concrete service in which the loaded Task and RequestUnit were blocked
meanwhile. -/
def blockedWorld (history : List (Event Answer)) : (call : Call) → Answer call
  | .port (.loadTaskForOwner ..) => .ok ((committedGraph history).bind fun graph =>
    validated { graph.initialTask.initialRecord with status := .blocked, stateVersion := 2 })
  | .port (.loadRequestUnitForOwner ..) => .ok ((committedGraph history).bind fun graph =>
    validated { graph.initialRequestUnit.initialRecord with status := .blocked, stateVersion := 2 })
  | call => exampleWorld (fun _ => .utc 1) (fun _ => .error runtimeError) history call

/-- The turn up to its branch in that environment. -/
def blockedBranch : List (Event Answer) × Except Raised TerminalBranch × RunFailureState :=
  (terminalBranch exampleService exampleCommand {}).simulate blockedWorld []

/-- The branch that was reached, as it is prepared. -/
def blockedPreparation :
    Option (List (Event Answer) × Except Raised PreparedStop × RunFailureState) :=
  blockedBranch.2.1.toOption.map fun branch =>
    (branch.prepare blockedBranch.2.2).simulate blockedWorld blockedBranch.1

/-- A run whose outcome is known ends with that outcome. -/
private theorem runs_of_ended {α σ : Type} {program : Program Answer (Except Raised α × σ)}
    {run : List (Event Answer) × Except Raised α × σ}
    {value : α} (runs : program.Runs run.1 run.2) (same : run.2.1.toOption = some value) :
    program.Runs run.1 (.ok value, run.2.2) := by
  obtain ⟨events, outcome, state⟩ := run
  obtain rfl : outcome = .ok value := Except.toOption_eq_some_iff.mp same
  exact runs

/-- The gate rejects the blocked Task, and the transition from BLOCKED to BLOCKED that the branch
builds is invalid. -/
theorem blocked_task_has_no_commands : ∃ before branch state after outcome,
    (terminalBranch exampleService exampleCommand {}).Runs before (.ok branch, state) ∧
      (branch.prepare state).Runs after outcome ∧ RecordsResponse after ∧
      NonDecreasing (before ++ after) ∧ ¬∃ stop, outcome.1 = .ok stop := by
  have evaluated : blockedBranch.2.1.toOption.isSome = true ∧
      blockedPreparation.all (fun prepared =>
      prepared.2.1.toOption.isNone && decide (RecordsResponse prepared.1) &&
        decide (NonDecreasing (blockedBranch.1 ++ prepared.1))) = true := by
    simp only [blockedPreparation, blockedBranch, terminalBranch, openTurn, resolveArtifact,
      startedBranch, reduceProposal, validateAndReduceInitialRequestV2,
      preflightInitialRequestProjectionV2, buildRequestUnderstandingClosureV2,
      canonicalRequestInputV2, isExactCanonicalModelV2_eq, constructed_eq,
      validates_modelVisibleToolsetArtifact, validates_requestUnderstandingInput]
    decide +kernel
  obtain ⟨reached, fails⟩ := evaluated
  obtain ⟨branch, same⟩ := Option.isSome_iff_exists.mp reached
  rw [blockedPreparation, same, Option.map_some, Option.all_some, Bool.and_eq_true,
    Bool.and_eq_true] at fails
  obtain ⟨⟨failed, recorded⟩, ordered⟩ := fails
  have runs :
      (terminalBranch exampleService exampleCommand {}).Runs blockedBranch.1 blockedBranch.2 :=
    Program.runs_simulate _ _ _
  have prepares :=
    Program.runs_simulate blockedWorld (branch.prepare blockedBranch.2.2) blockedBranch.1
  refine ⟨_, branch, _, _, _, runs_of_ended runs same, prepares, of_decide_eq_true recorded,
    of_decide_eq_true ordered, ?_⟩
  rintro ⟨stop, built⟩
  rw [built] at failed
  cases failed

end MiniAgent.Application
