import MiniAgent.Application.RecoveryRecords

/-! # What a valid command changes

The validator of a command relates what it expects to what it leaves: the identities stay, and the
record takes one step of its lifecycle.
-/

namespace MiniAgent.Application

open MiniAgent.Core ContractModel

private theorem sameRun_of_stableFields {expected next : AgentRunRecord}
    (stable : sameRunStableFields expected next = true) :
    next.runId = expected.runId := by
  simp only [sameRunStableFields, Bool.and_eq_true, beq_iff_eq] at stable
  exact stable.1.1.1.symm

/-- A Run is entered as created. -/
theorem CreateRunCommand.created {command : CreateRunCommand} (valid : validates command = true) :
    command.createdRecord.status = .created := by
  change (_ && _ && _ && _ && _) = true at valid
  simp only [Bool.and_eq_true, beq_iff_eq] at valid
  exact valid.1.1.1.2

/-- A Run that starts was created, and is running. -/
theorem TransitionRunCommand.step {command : TransitionRunCommand}
    (valid : validates command = true) :
    command.nextRecord.runId = command.expectedActiveRecord.runId ∧
    command.expectedActiveRecord.status = .created ∧ command.nextRecord.status = .running := by
  change (_ && _ && _ && _ && _ && _ && _) = true at valid
  simp only [Bool.and_eq_true, beq_iff_eq] at valid
  obtain ⟨⟨⟨⟨⟨-, created⟩, -⟩, running⟩, -⟩, stable⟩ := valid
  exact ⟨sameRun_of_stableFields stable, created, running⟩

theorem MarkRunIncompleteForRecoveryCommand.step {command : MarkRunIncompleteForRecoveryCommand}
    (valid : validates command = true) :
    command.incompleteRecord.runId = command.expectedActiveRecord.runId := by
  change (_ && _ && _ && _ && _ && _ && _ && _) = true at valid
  rw [Bool.and_eq_true] at valid
  exact sameRun_of_stableFields valid.2

/-- A Task and its RequestUnit take one step together. -/
structure TaskStep (command : ApplyTaskTransitionCommand) : Prop where
  sameTask : command.nextTaskRecord.taskId = command.expectedTaskRecord.taskId
  sameUnit : command.nextRequestUnitRecord.requestUnitId =
    command.expectedRequestUnitRecord.requestUnitId
  unitOfTask : command.expectedRequestUnitRecord.taskId = command.expectedTaskRecord.taskId ∧
    command.nextRequestUnitRecord.taskId = command.expectedTaskRecord.taskId
  transitionOf : command.taskStateTransition.taskId = command.expectedTaskRecord.taskId ∧
    command.taskStateTransition.requestUnitId = command.expectedRequestUnitRecord.requestUnitId
  bases : command.expectedTaskRecord.stateVersion = command.taskStateTransition.baseStateVersion ∧
    command.expectedRequestUnitRecord.stateVersion = command.taskStateTransition.baseStateVersion
  results : command.nextTaskRecord.stateVersion = command.taskStateTransition.resultStateVersion ∧
    command.nextRequestUnitRecord.stateVersion = command.taskStateTransition.resultStateVersion
  advances : command.taskStateTransition.resultStateVersion =
    command.taskStateTransition.baseStateVersion + 1
  starts : command.expectedTaskRecord.status = command.taskStateTransition.fromStatus ∧
    command.expectedRequestUnitRecord.status = command.taskStateTransition.fromStatus
  ends : command.nextTaskRecord.status = command.taskStateTransition.toStatus ∧
    command.nextRequestUnitRecord.status = command.taskStateTransition.toStatus

theorem ApplyTaskTransitionCommand.step {command : ApplyTaskTransitionCommand}
    (valid : validates command = true) :
    TaskStep command := by
  change (_ && _ && _ && _ && validates command.taskStateTransition && _ && _ && _ && _ && _ && _) =
    true at valid
  simp only [Bool.and_eq_true] at valid
  obtain ⟨⟨⟨⟨⟨⟨⟨-, transition⟩, task⟩, unit⟩, binds⟩, versions⟩, statuses⟩, -⟩ := valid
  change (_ && _ && _ && _ && _) = true at transition
  simp only [Bool.and_eq_true, sameTaskStableFields, sameRequestUnitStableFields,
    bindsOneTaskAndUnit, matchesVersions, matchesStatuses,
    beq_iff_eq] at transition task unit binds versions statuses
  obtain ⟨⟨-, advances⟩, -⟩ := transition
  obtain ⟨⟨sameTask, -⟩, -⟩ := task
  obtain ⟨⟨⟨expectedUnit, nextUnit⟩, ofTask⟩, ofUnit⟩ := binds
  obtain ⟨⟨⟨taskBase, unitBase⟩, taskResult⟩, unitResult⟩ := versions
  obtain ⟨⟨⟨taskFrom, unitFrom⟩, taskTo⟩, unitTo⟩ := statuses
  exact {
    sameTask := sameTask.symm
    sameUnit := unit.1.1.1.1.1.1.1.1.symm
    unitOfTask := ⟨expectedUnit, nextUnit.trans sameTask.symm⟩
    transitionOf := ⟨ofTask, ofUnit⟩
    bases := ⟨taskBase, unitBase⟩
    results := ⟨taskResult, unitResult⟩
    advances := advances
    starts := ⟨taskFrom, unitFrom⟩
    ends := ⟨taskTo, unitTo⟩ }

/-- One step of a ToolCall that was active. -/
structure ToolCallStep (expected next : ToolCallRecord) : Prop where
  sameCall : next.toolCallId = expected.toolCallId
  sameRun : next.runId = expected.runId
  active : expected.status.isTerminal = false
  advances : next.status = .running ∧ expected.status = .created ∨ next.status.isTerminal = true

private theorem sameCall_of_immutableFields {expected next : ToolCallRecord}
    (same : sameToolImmutableFields expected next = true) :
    next.toolCallId = expected.toolCallId ∧ next.runId = expected.runId := by
  simp only [sameToolImmutableFields, Bool.and_eq_true, beq_iff_eq] at same
  exact ⟨same.1.1.1.1.1.1.1.1.1.1.1.1.1.symm, same.1.1.1.1.1.1.1.1.1.1.1.1.2.symm⟩

/-- A ToolCall is entered as created. -/
theorem CreateToolCallCommand.created {command : CreateToolCallCommand}
    (valid : validates command = true) :
    command.createdRecord.status = .created := by
  change (_ && _ && _ && _) = true at valid
  simp only [Bool.and_eq_true, beq_iff_eq] at valid
  exact valid.1.1.2

theorem DispatchToolCallCommand.step {command : DispatchToolCallCommand}
    (valid : validates command = true) :
    ToolCallStep command.expectedCreatedRecord command.runningRecord := by
  change (_ && _ && _ && _ && _ && _ && _ && _ && _ && _ && _ && _ && _ && _) = true at valid
  simp only [Bool.and_eq_true, beq_iff_eq] at valid
  obtain ⟨⟨⟨⟨⟨⟨⟨⟨⟨⟨⟨-, created⟩, -⟩, running⟩, -⟩, -⟩, same⟩, -⟩, -⟩, -⟩, -⟩, -⟩ := valid
  obtain ⟨sameCall, sameRun⟩ := sameCall_of_immutableFields same
  exact ⟨sameCall, sameRun, by rw [created]; rfl, .inl ⟨running, created⟩⟩

theorem FinalizeToolCallCommand.step {command : FinalizeToolCallCommand}
    (valid : validates command = true) :
    ToolCallStep command.expectedRunningRecord command.terminalRecord := by
  change (_ && _ && _ && _ && _ && _ && _ && _ && _ && _ && _ && _ && _ && _ && _ && _ && _ && _ &&
    _ && _ && _ && _) = true
    at valid
  simp only [Bool.and_eq_true, beq_iff_eq] at valid
  obtain ⟨⟨⟨⟨⟨⟨⟨⟨⟨⟨⟨⟨⟨⟨⟨⟨⟨⟨-, running⟩, -⟩, terminal⟩, -⟩, -⟩, -⟩, -⟩, -⟩, same⟩, -⟩, -⟩, -⟩, -⟩,
    -⟩, -⟩, -⟩, -⟩, -⟩ := valid
  obtain ⟨sameCall, sameRun⟩ := sameCall_of_immutableFields same
  have ended : command.terminalRecord.status.isTerminal = true := by
    revert terminal
    cases command.terminalRecord.status <;> simp [terminalToolOutcomes, ToolCallStatus.isTerminal]
  exact ⟨sameCall, sameRun, by rw [running]; rfl, .inr ended⟩

theorem InterruptToolCallForRecoveryCommand.step {command : InterruptToolCallForRecoveryCommand}
    (valid : validates command = true) :
    ToolCallStep command.activeRecord command.interruptedRecord := by
  change (_ && _ && _ && _ && _ && _ && _ && _ && _) = true at valid
  simp only [Bool.and_eq_true, Bool.not_eq_true', beq_iff_eq] at valid
  obtain ⟨⟨⟨⟨⟨⟨⟨-, active⟩, interrupted⟩, -⟩, -⟩, -⟩, -⟩, stable⟩ := valid
  simp only [sameRecoveryStableToolFields, Bool.and_eq_true] at stable
  obtain ⟨sameCall, sameRun⟩ := sameCall_of_immutableFields stable.1.1.1.1
  exact ⟨sameCall, sameRun, active, .inr (by rw [interrupted]; rfl)⟩

/-- A Run ends together with its links. -/
structure EndsWithLinks (expected terminal : AgentRunRecord)
    (links terminalLinks : List RunTaskLinkRecord) : Prop where
  sameRun : terminal.runId = expected.runId
  active : expected.status.isActive = true
  ended : terminal.status.isActive = false
  /-- Every link that is closed is one of the Run, and was open. -/
  closes : ∀ terminal ∈ terminalLinks, ∃ link ∈ links,
    Keyed.lastByKey (·.taskId) links terminal.taskId = some link ∧
    terminal.taskId = link.taskId ∧ terminal.runId = link.runId ∧
    terminal.resultTaskStateVersion.isSome = true
  ofRun : ∀ link ∈ links, link.runId = expected.runId ∧ link.resultTaskStateVersion = none
  distinct : (links.map (·.taskId)).Nodup
  /-- No link of the Run stays open. -/
  all : ∀ link ∈ links, link.taskId ∈ terminalLinks.map (·.taskId)

theorem FinalizeRunCommand.ends {command : FinalizeRunCommand} (valid : validates command = true) :
    EndsWithLinks command.expectedActiveRecord command.terminalRecord command.expectedActiveLinks
    command.terminalLinks := by
  change (_ && _ && _ && _ && _) = true at valid
  simp only [Bool.and_eq_true] at valid
  obtain ⟨⟨⟨⟨-, -⟩, run⟩, links⟩, -⟩ := valid
  simp only [terminalRunIsConsistent, Bool.and_eq_true, Bool.or_eq_true, beq_iff_eq] at run
  simp only [linksAreClosed, Bool.and_eq_true, List.all_eq_true, Option.any_eq_true,
    allDistinct_iff, sameSet_iff, beq_iff_eq, Option.isNone_iff_eq_none] at links
  obtain ⟨⟨⟨⟨⟨⟨⟨running, -⟩, ended⟩, -⟩, -⟩, -⟩, -⟩, stable⟩ := run
  obtain ⟨⟨⟨⟨⟨⟨⟨⟨ofRun, distinct⟩, closed⟩, -⟩, sameTasks⟩, -⟩, -⟩, -⟩, -⟩ := links
  refine {
    sameRun := sameRun_of_stableFields stable
    active := by rw [running]; rfl
    ended := by rcases ended with completed | failed <;> simp [*, AgentRunStatus.isActive]
    closes := fun terminal member => ?_
    ofRun, distinct
    all := fun link member => (sameTasks _).mp (List.mem_map_of_mem member) }
  obtain ⟨link, listed, sameTask⟩ :=
    List.mem_map.mp ((sameTasks _).mpr (List.mem_map_of_mem member))
  refine ⟨link, listed, ?_, sameTask.symm,
    (closed terminal member).1.trans (ofRun link listed).1.symm, (closed terminal member).2⟩
  rw [← sameTask]
  exact Keyed.lastByKey_of_mem distinct listed

theorem FinalizeRunCommand.transition_valid {command : FinalizeRunCommand}
    (valid : validates command = true) {transition : ApplyTaskTransitionCommand}
    (chosen : command.taskTransition = some transition) :
    validates transition = true := by
  change (_ && _ && _ && _ && _) = true at valid
  simp only [Bool.and_eq_true, nestedModelsValidate] at valid
  have nested := valid.1.1.1.1.1.1.1.2
  rwa [chosen, Option.all_some] at nested

/-- No more than one link, and so in any order. -/
theorem FinalizeRunCommand.oneLink {command : FinalizeRunCommand}
    (valid : validates command = true) :
    command.expectedActiveLinks.length ≤ 1 ∧ command.terminalLinks.length ≤ 1 := by
  change (_ && _ && _ && _ && _) = true at valid
  simp only [Bool.and_eq_true, boundsHold, decide_eq_true_eq] at valid
  exact valid.1.1.1.2.1.1

namespace ApplyRestartRecoveryCommand

variable {command : ApplyRestartRecoveryCommand}

/-- What the validator of a recovery says of the Run, the ToolCalls, the Tasks and the links. -/
structure RecoveryEnds (command : ApplyRestartRecoveryCommand) : Prop where
  closure : validates command.expectedClosure = true
  expects : command.runTransition.expectedActiveRecord = command.expectedClosure.activeRunRecord
  ends : EndsWithLinks command.expectedClosure.activeRunRecord
    command.runTransition.incompleteRecord
    command.expectedClosure.runTaskLinks command.terminalRunTaskLinks
  calls : ∀ transition ∈ command.toolCallTransitions,
    ToolCallStep transition.activeRecord transition.interruptedRecord
  interrupted : ∀ transition ∈ command.toolCallTransitions,
    transition.interruptedRecord.status = .interrupted
  allCalls : ∀ aggregate ∈ command.expectedClosure.toolCallAggregates,
    aggregate.toolCallRecord.toolCallId ∈ command.toolCallTransitions.map
      (·.activeRecord.toolCallId)
  tasks : ∀ transition ∈ command.taskTransitions, validates transition = true
  oneCall : command.toolCallTransitions.length ≤ 1
  oneTask : command.taskTransitions.length ≤ 1
  oneLink : command.terminalRunTaskLinks.length ≤ 1

/-- What the validator of a closure says of its Run, its links and its ToolCalls. -/
private theorem closureFacts {closure : RestartRecoveryClosure} (valid : validates closure = true) :
    closure.activeRunRecord.status.isActive = true ∧
      ((∀ link ∈ closure.runTaskLinks, link.runId = closure.activeRunRecord.runId ∧
        link.resultTaskStateVersion = none) ∧ (closure.runTaskLinks.map (·.taskId)).Nodup) ∧
      ∀ aggregate ∈ closure.toolCallAggregates,
      aggregate.toolCallRecord.runId = closure.activeRunRecord.runId := by
  change (_ && _ && _ && _ && _ && _ && _ && _ && _ && _ && _ && _ && _ && _ && _ && _ && _ && _ &&
    _ && _) = true at valid
  simp only [Bool.and_eq_true] at valid
  obtain ⟨⟨⟨⟨⟨⟨⟨⟨-, run⟩, -⟩, links⟩, -⟩, -⟩, -⟩, -⟩, calls⟩ := valid
  simp only [RestartRecoveryClosure.runIsActive, RestartRecoveryClosure.runLinksAreActive,
    Bool.and_eq_true, List.all_eq_true, beq_iff_eq, Option.isNone_iff_eq_none,
    allDistinct_iff] at run links
  simp only [List.all_eq_true, RestartRecoveryClosure.toolCallIsOwned, Bool.and_eq_true, beq_iff_eq]
    at calls
  exact ⟨run.1.1.1, ⟨fun link member => ⟨links.1.1.1.1 link member, links.1.1.1.2 link member⟩,
    links.1.1.2⟩, fun aggregate member => (calls aggregate member).1.1.2⟩

theorem recoveryEnds (valid : validates command = true) : RecoveryEnds command := by
  change (_ && _ && _ && _ && _ && _ && _ && _ && _ && _ && _ && _ && _ && _ && _ && _) = true
    at valid
  simp only [Bool.and_eq_true, decide_eq_true_eq, beq_iff_eq] at valid
  obtain ⟨⟨⟨⟨⟨⟨⟨⟨⟨⟨⟨⟨⟨⟨⟨closure, transition⟩, calls⟩, tasks⟩, -⟩, -⟩, oneCall⟩, oneTask⟩, oneLink⟩,
    -⟩, -⟩, expects⟩, exactCalls⟩, -⟩, exactLinks⟩, -⟩ := valid
  obtain ⟨active, ⟨ofRun, distinct⟩, -⟩ := closureFacts closure
  have statuses := MarkRunIncompleteForRecoveryCommand.statuses transition
  simp only [terminalLinksAreExact, Bool.and_eq_true, List.all_eq_true, terminalLinkIsExact,
    Option.any_eq_true, sameSet_iff, beq_iff_eq] at exactLinks
  obtain ⟨⟨-, exact_⟩, sameTasks⟩ := exactLinks
  simp only [toolCallTransitionsAreExact, Bool.and_eq_true, sameSet_iff] at exactCalls
  rw [List.all_eq_true] at calls tasks
  have eachCall : ∀ transition ∈ command.toolCallTransitions,
      transition.interruptedRecord.status = .interrupted := by
    intro transition member
    have valid := calls transition member
    change (_ && _ && _ && _ && _ && _ && _ && _ && _) = true at valid
    simp only [Bool.and_eq_true, beq_iff_eq] at valid
    exact valid.1.1.1.1.1.2
  refine {
    closure, expects
    ends := {
      sameRun :=
        (MarkRunIncompleteForRecoveryCommand.step transition).trans
          (congrArg AgentRunRecord.runId expects)
      active
      ended := statuses.2
      closes := fun terminal member => ?_
      ofRun, distinct
      all := fun link member => (sameTasks _).mpr (List.mem_map_of_mem member) }
    calls := fun transition member =>
      InterruptToolCallForRecoveryCommand.step (calls transition member)
    interrupted := eachCall
    allCalls := fun aggregate member => ?_
    tasks, oneCall, oneTask, oneLink }
  · obtain ⟨link, found, ⟨⟨⟨sameRun, -⟩, -⟩, closed⟩, -⟩ := exact_ terminal member
    obtain ⟨listed, sameTask⟩ := Keyed.mem_of_lastByKey found
    exact ⟨link, listed, found, sameTask.symm, sameRun, closed⟩
  · refine (exactCalls.2 _).mpr ?_
    rw [List.map_map]
    exact List.mem_map_of_mem (f := fun aggregate : ToolCallRecoveryAggregate =>
      aggregate.toolCallRecord.toolCallId) member

end ApplyRestartRecoveryCommand

/-- A Request Understanding is written for a running Run. -/
private theorem runIsRunning_of_roots {ownerScope : TrustedOwnerScope}
    {conversation : ConversationRecord} {messages : List MessageRecord} {run : AgentRunRecord}
    {record : RequestUnderstandingRecordV2}
    (valid : validateV2OwnerRootsAndMessages ownerScope conversation messages run record = true) :
    run.status = .running ∧ record.runId = run.runId := by
  simp only [validateV2OwnerRootsAndMessages, Bool.and_eq_true, beq_iff_eq] at valid
  exact ⟨valid.1.1.1.1.1.2, valid.1.1.2⟩

theorem SaveRequestUnderstandingV2NoTaskCommand.runs
    {command : SaveRequestUnderstandingV2NoTaskCommand} (valid : validates command = true) :
    command.expectedActiveRunRecord.status = .running ∧
      command.requestUnderstandingRecord.runId = command.expectedActiveRunRecord.runId := by
  change (_ && _ && _ && _ && _ && _ && _ && _ && _) = true at valid
  simp only [Bool.and_eq_true] at valid
  exact runIsRunning_of_roots valid.1.1.1.1.1.2

/-- A Task and its RequestUnit start together, at version 1. -/
structure GraphStarts (command : CreateInitialTaskGraphV2Command) : Prop where
  running : command.expectedActiveRunRecord.status = .running
  understands : command.requestUnderstanding.record.runId = command.expectedActiveRunRecord.runId
  links : command.runTaskLink.activeRecord.runId = command.expectedActiveRunRecord.runId
  opens : command.runTaskLink.activeRecord.resultTaskStateVersion = none
  task : command.initialTask.initialRecord.stateVersion = 1 ∧
    command.initialTask.initialRecord.status = .active
  unit : command.initialRequestUnit.initialRecord.stateVersion = 1 ∧
    command.initialRequestUnit.initialRecord.status = .active
  unitOfTask : command.initialRequestUnit.initialRecord.taskId =
    command.initialTask.initialRecord.taskId

theorem CreateInitialTaskGraphV2Command.starts {command : CreateInitialTaskGraphV2Command}
    (valid : validates command = true) : GraphStarts command := by
  change (_ && _ && _ && _ && _ && _ && _ && _ && _ && _ && _ && _ && _ && _ && _ && _ && _) = true
    at valid
  simp only [Bool.and_eq_true] at valid
  obtain ⟨⟨⟨⟨⟨⟨⟨⟨⟨⟨-, link⟩, roots⟩, -⟩, task⟩, unit⟩, -⟩, -⟩, -⟩, links⟩, -⟩ := valid
  obtain ⟨running, understands⟩ := runIsRunning_of_roots roots
  change (_ && _) = true at link
  simp only [isCleanTask, isCleanRequestUnit, linksInitialTask, Bool.and_eq_true, beq_iff_eq,
    Option.isNone_iff_eq_none] at task unit links link
  exact {
    running, understands
    links := links.1.1.1.2
    opens := link.2
    task := ⟨task.1.2, task.1.1.2⟩
    unit := ⟨unit.1.1.1.1.1.1.1.1.2, unit.1.1.1.1.1.1.1.1.1.2⟩
    unitOfTask := unit.1.1.1.1.1.1.1.1.1.1.1.1.1 }

end MiniAgent.Application
