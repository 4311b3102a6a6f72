import MiniAgent.Infrastructure.StoreRuns

/-! # Task histories

A Task and its RequestUnit start together at version 1 and take every step together, one version at
a time. What is stored with the Task are exactly the transitions that have led to its version and
status, in their order and without a gap.
-/

namespace MiniAgent.Infrastructure

open MiniAgent.Core MiniAgent.Application KeyedStore

variable {library : ModelLibrary} {held after : Held} {journal : List (Write RecordKey Entry)}
  {taskId requestUnitId : Uuid} {history : List SourceRecord} {version : ℕ} {status : TaskStatus}

/-- Transitions of a Task and its RequestUnit that lead from the start to a version and a status. -/
inductive TaskHistory (taskId requestUnitId : Uuid) : List SourceRecord → ℕ → TaskStatus → Prop
  | start : TaskHistory taskId requestUnitId [] 1 .active
  | step {history : List SourceRecord} (transition : TaskStateTransition)
      (earlier : TaskHistory taskId requestUnitId history transition.baseStateVersion
        transition.fromStatus)
      (ofTask : transition.taskId = taskId) (ofUnit : transition.requestUnitId = requestUnitId)
      (advances : transition.resultStateVersion = transition.baseStateVersion + 1) :
      TaskHistory taskId requestUnitId (history ++ [.taskStateTransition transition])
        transition.resultStateVersion transition.toStatus

/-- A history is in the order of its children. -/
theorem TaskHistory.sorted (steps : TaskHistory taskId requestUnitId history version status) :
    (history.Pairwise fun first second => childOrderKey first ≤ childOrderKey second) ∧
      ∀ child ∈ history, ∃ transition, child = .taskStateTransition transition ∧
      transition.resultStateVersion ≤ version := by
  induction steps with
  | start => exact ⟨.nil, by simp⟩
  | @step history transition _ _ _ advances ih =>
    obtain ⟨sorted, below⟩ := ih
    refine ⟨List.pairwise_append.mpr ⟨sorted, List.pairwise_singleton ..,
      fun child member last isLast => ?_⟩, fun child member => ?_⟩
    · obtain ⟨earlier, rfl, least⟩ := below child member
      obtain rfl := List.mem_singleton.mp isLast
      have less : earlier.resultStateVersion < transition.resultStateVersion := by omega
      exact le_of_lt (List.Lex.rel less)
    · rcases List.mem_append.mp member with before | isLast
      · obtain ⟨earlier, rfl, least⟩ := below child before
        exact ⟨earlier, rfl, by omega⟩
      · obtain rfl := List.mem_singleton.mp isLast
        exact ⟨transition, rfl, le_rfl⟩

/-- So it is stored as it is. -/
theorem TaskHistory.canonical (steps : TaskHistory taskId requestUnitId history version status) :
    canonicalChildren history = history :=
  Keyed.sortByKey_of_pairwise steps.sorted.1

/-- The RequestUnit of a Task is where the Task is, and the history of the Task has led there. -/
structure InLockstep (task : TaskRecord) (history : List SourceRecord) (unit : RequestUnitRecord) :
    Prop where
  unitOfTask : unit.taskId = task.taskId
  version : unit.stateVersion = task.stateVersion
  status : unit.status = task.status
  history : TaskHistory task.taskId unit.requestUnitId history task.stateVersion task.status

/-- Every Task has one RequestUnit, in lockstep with it, and every RequestUnit has its Task. -/
structure TasksInLockstep (held : Held) : Prop where
  paired : ∀ key task history, held key = some ⟨.taskRecord task, history⟩ → ∃ unitAt unit children,
    held unitAt = some ⟨.requestUnitRecord unit, children⟩ ∧ InLockstep task history unit
  owned : ∀ key unit children, held key = some ⟨.requestUnitRecord unit, children⟩ → ∃ task history,
    held (taskKey unit.taskId) = some ⟨.taskRecord task, history⟩
  only : ∀ key unit children other otherUnit otherChildren,
    held key = some ⟨.requestUnitRecord unit, children⟩ →
    held other = some ⟨.requestUnitRecord otherUnit, otherChildren⟩ →
    taskKey unit.taskId = taskKey otherUnit.taskId → key = other

theorem OwnKeys.task (ownKeys : OwnKeys held) {key : RecordKey} {task : TaskRecord}
    (there : held key = some ⟨.taskRecord task, history⟩) : key = taskKey task.taskId :=
  ownKeys _ _ _ there rfl

theorem OwnKeys.unit (ownKeys : OwnKeys held) {key : RecordKey} {unit : RequestUnitRecord}
    {children : List SourceRecord} (there : held key = some ⟨.requestUnitRecord unit, children⟩) :
    key = unitKey unit.requestUnitId :=
  ownKeys _ _ _ there rfl

private theorem taskKey_ne_unitKey : taskKey taskId ≠ unitKey requestUnitId := fun same => by
  cases congrArg Prod.fst same

/-- Where nothing is written to Tasks and RequestUnits, they stay in lockstep. -/
theorem TasksInLockstep.congr (lockstep : TasksInLockstep held) (before : OwnKeys held)
    (ownKeys : OwnKeys after) (same : ∀ key, isTaskFamily key.1 = true → after key = held key) :
    TasksInLockstep after := by
  constructor
  · intro key task history there
    obtain rfl := ownKeys.task there
    obtain ⟨unitAt, unit, children, found, inLockstep⟩ :=
      lockstep.paired _ task history ((same (taskKey _) rfl).symm.trans there)
    obtain rfl := before.unit found
    exact ⟨_, unit, children, (same (unitKey _) rfl).trans found, inLockstep⟩
  · intro key unit children there
    obtain rfl := ownKeys.unit there
    obtain ⟨task, history, found⟩ :=
      lockstep.owned _ unit children ((same (unitKey _) rfl).symm.trans there)
    exact ⟨task, history, (same (taskKey _) rfl).trans found⟩
  · intro key unit children other otherUnit otherChildren there otherThere alike
    obtain rfl := ownKeys.unit there
    obtain rfl := ownKeys.unit otherThere
    exact lockstep.only _ unit children _ otherUnit otherChildren
      ((same (unitKey _) rfl).symm.trans there)
      ((same (unitKey _) rfl).symm.trans otherThere) alike

/-- A Task and a RequestUnit in lockstep are written together, and no other RequestUnit is of this
Task. -/
theorem TasksInLockstep.write (lockstep : TasksInLockstep held) (before : OwnKeys held)
    (ownKeys : OwnKeys after) {task : TaskRecord} {unit : RequestUnitRecord}
    {children : List SourceRecord}
    (taskAfter : after (taskKey task.taskId) = some ⟨.taskRecord task, history⟩)
    (unitAfter : after (unitKey unit.requestUnitId) = some ⟨.requestUnitRecord unit, children⟩)
    (inLockstep : InLockstep task history unit)
    (others : ∀ key, isTaskFamily key.1 = true → key ≠ taskKey task.taskId →
      key ≠ unitKey unit.requestUnitId → after key = held key)
    (theUnit : ∀ key other children, held key = some ⟨.requestUnitRecord other, children⟩ →
      (taskKey other.taskId = taskKey task.taskId ↔ key = unitKey unit.requestUnitId)) :
      TasksInLockstep after := by
  -- what another Task and another RequestUnit hold is what they held
  have otherTask : ∀ {taskId}, taskKey taskId ≠ taskKey task.taskId →
      after (taskKey taskId) = held (taskKey taskId) :=
    fun differs => others _ rfl differs taskKey_ne_unitKey
  have otherUnit : ∀ {unitId}, unitKey unitId ≠ unitKey unit.requestUnitId →
      after (unitKey unitId) = held (unitKey unitId) :=
    fun differs => others _ rfl taskKey_ne_unitKey.symm differs
  constructor
  · intro key found foundHistory there
    obtain rfl := ownKeys.task there
    by_cases same : taskKey found.taskId = taskKey task.taskId
    · rw [same] at there
      obtain ⟨rfl, rfl⟩ : task = found ∧ history = foundHistory := by
        simpa using taskAfter.symm.trans there
      exact ⟨_, unit, children, unitAfter, inLockstep⟩
    · obtain ⟨unitAt, ofFound, itsChildren, unitThere, itsLockstep⟩ :=
        lockstep.paired _ found foundHistory ((otherTask same).symm.trans there)
      obtain rfl := before.unit unitThere
      refine ⟨_, ofFound, itsChildren, (otherUnit fun clash => same ?_).trans unitThere,
        itsLockstep⟩
      rw [← itsLockstep.unitOfTask]
      exact (theUnit _ ofFound itsChildren unitThere).mpr clash
  · intro key found itsChildren there
    obtain rfl := ownKeys.unit there
    by_cases same : taskKey found.taskId = taskKey task.taskId
    · exact ⟨task, history, same ▸ taskAfter⟩
    · by_cases clash : unitKey found.requestUnitId = unitKey unit.requestUnitId
      · rw [clash] at there
        obtain ⟨rfl, -⟩ : unit = found ∧ children = itsChildren := by
          simpa using unitAfter.symm.trans there
        exact absurd (congrArg taskKey inLockstep.unitOfTask) same
      · obtain ⟨itsTask, itsHistory, taskThere⟩ :=
          lockstep.owned _ found itsChildren ((otherUnit clash).symm.trans there)
        exact ⟨itsTask, itsHistory, (otherTask same).trans taskThere⟩
  · -- a RequestUnit of the Task is the one that is written
    have ofTheTask : ∀ {found : RequestUnitRecord} {itsChildren},
        after (unitKey found.requestUnitId) = some ⟨.requestUnitRecord found, itsChildren⟩ →
        taskKey found.taskId = taskKey task.taskId →
            unitKey found.requestUnitId = unitKey unit.requestUnitId := by
      intro found itsChildren there same
      by_contra differs
      exact differs ((theUnit _ found itsChildren ((otherUnit differs).symm.trans there)).mp same)
    intro key found itsChildren other otherFound otherChildren there otherThere alike
    obtain rfl := ownKeys.unit there
    obtain rfl := ownKeys.unit otherThere
    by_cases same : taskKey found.taskId = taskKey task.taskId
    · exact (ofTheTask there same).trans (ofTheTask otherThere (alike ▸ same)).symm
    · have notWritten : ∀ {candidate : RequestUnitRecord} {candidateChildren},
          after (unitKey candidate.requestUnitId) =
            some ⟨.requestUnitRecord candidate, candidateChildren⟩ →
          taskKey candidate.taskId ≠ taskKey task.taskId →
          after (unitKey candidate.requestUnitId) = held (unitKey candidate.requestUnitId) := by
        intro candidate candidateChildren present differs
        refine otherUnit fun clash => differs ?_
        rw [clash] at present
        obtain ⟨rfl, -⟩ : unit = candidate ∧ children = candidateChildren := by
          simpa using unitAfter.symm.trans present
        exact congrArg taskKey inLockstep.unitOfTask
      exact lockstep.only _ found itsChildren _ otherFound otherChildren
        ((notWritten there same).symm.trans there)
          ((notWritten otherThere (alike ▸ same)).symm.trans otherThere) alike

/-- Both writes of a transition find what they expect, since no other write is to their keys. -/
private theorem transition_found (commits : Commits held journal after)
    {command : ApplyTaskTransitionCommand} (step : TaskStep command)
    (made : ∀ write ∈ transitionWrites history command, write ∈ journal)
    (only : ∀ write ∈ journal, isTaskFamily write.key.1 = true →
      write ∈ transitionWrites history command) :
    (held (taskKey command.expectedTaskRecord.taskId) =
      some ⟨.taskRecord command.expectedTaskRecord, history⟩ ∧
      after (taskKey command.expectedTaskRecord.taskId) = some ⟨.taskRecord command.nextTaskRecord,
        canonicalChildren (history ++ [.taskStateTransition command.taskStateTransition])⟩) ∧
      held (unitKey command.expectedRequestUnitRecord.requestUnitId) =
        some ⟨.requestUnitRecord command.expectedRequestUnitRecord, []⟩ ∧
      after (unitKey command.expectedRequestUnitRecord.requestUnitId) =
        some ⟨.requestUnitRecord command.nextRequestUnitRecord, []⟩ := by
  have apart : ((transitionWrites history command).map (·.key.1)).Nodup :=
    show [P0RecordCode.taskRecord, .requestUnitRecord].Nodup by decide
  have alone : ∀ write ∈ transitionWrites history command, ∀ other ∈ journal,
      other.key = write.key → other = write := by
    intro write member other listed same
    have sameCode : other.key.1 = write.key.1 := congrArg Prod.fst same
    have family : isTaskFamily other.key.1 = true :=
      sameCode ▸ (legal_transitionWrites step member).2.2
    exact List.inj_on_of_nodup_map apart (only other listed family) member sameCode
  have both := fun write member => commits.of_only (made write member) (alone write member)
  exact ⟨both _ List.mem_cons_self, both _ (List.mem_cons_of_mem _ (List.mem_singleton_self _))⟩

/-- The only Task and the only RequestUnit that are written take one step. -/
theorem TasksInLockstep.steps (lockstep : TasksInLockstep held) (before : OwnKeys held)
    (ownKeys : OwnKeys after) (commits : Commits held journal after)
    {command : ApplyTaskTransitionCommand} (step : TaskStep command)
    (made : ∀ write ∈ transitionWrites history command, write ∈ journal)
    (only : ∀ write ∈ journal, isTaskFamily write.key.1 = true →
      write ∈ transitionWrites history command) :
    TasksInLockstep after := by
  obtain ⟨⟨taskBefore, taskAfter⟩, unitBefore, unitAfter⟩ := transition_found commits step made only
  -- the RequestUnit that is expected is the one that is in lockstep with the Task
  obtain ⟨unitAt, unit, children, unitThere, inLockstep⟩ := lockstep.paired _ _ _ taskBefore
  obtain rfl := lockstep.only _ _ _ _ _ _ unitThere unitBefore
    (congrArg taskKey (inLockstep.unitOfTask.trans step.unitOfTask.1.symm))
  obtain ⟨rfl, rfl⟩ : unit = command.expectedRequestUnitRecord ∧ children = [] := by
    simpa using unitThere.symm.trans unitBefore
  have steps : TaskHistory command.nextTaskRecord.taskId command.nextRequestUnitRecord.requestUnitId
      (history ++ [.taskStateTransition command.taskStateTransition])
        command.nextTaskRecord.stateVersion
      command.nextTaskRecord.status := by
    rw [step.results.1, step.ends.1, step.sameTask, step.sameUnit]
    refine .step _ ?_ step.transitionOf.1 step.transitionOf.2 step.advances
    rw [← step.bases.1, ← step.starts.1]
    exact inLockstep.history
  rw [steps.canonical, ← step.sameTask] at taskAfter
  rw [← step.sameUnit] at unitAfter
  refine lockstep.write before ownKeys taskAfter unitAfter ?_ ?_ ?_
  · exact ⟨step.unitOfTask.2.trans step.sameTask.symm, step.results.2.trans step.results.1.symm,
      step.ends.2.trans step.ends.1.symm, steps⟩
  · intro key family notTask notUnit
    refine commits.frame fun write member same => ?_
    have among := only write member (same ▸ family)
    rcases List.mem_cons.mp among with rfl | last
    · exact notTask (step.sameTask ▸ same.symm)
    · obtain rfl := List.mem_singleton.mp last
      exact notUnit (step.sameUnit ▸ same.symm)
  · intro key other children there
    rw [step.sameTask, step.sameUnit]
    refine ⟨fun alike => lockstep.only _ _ _ _ _ _ there unitBefore ?_, ?_⟩
    · rw [alike, step.unitOfTask.1]
    · rintro rfl
      obtain ⟨rfl, -⟩ : other = command.expectedRequestUnitRecord ∧ children = [] := by
        simpa using there.symm.trans unitBefore
      rw [step.unitOfTask.1]

/-- Both writes of the start of a Task find their keys free. -/
private theorem start_found (commits : Commits held journal after)
    {command : CreateInitialTaskGraphV2Command}
    (made : ∀ write ∈ taskGraphWrites library command, write ∈ journal)
    (only : ∀ write ∈ journal, isTaskFamily write.key.1 = true →
      write ∈ taskGraphWrites library command) :
    (held (entryKey library .taskRecord (.taskRecord command.initialTask.initialRecord)) = none ∧
      after (entryKey library .taskRecord (.taskRecord command.initialTask.initialRecord)) =
        some ⟨.taskRecord command.initialTask.initialRecord, []⟩) ∧
      held (entryKey library .requestUnitRecord
        (.requestUnitRecord command.initialRequestUnit.initialRecord)) = none ∧
      after (entryKey library .requestUnitRecord
        (.requestUnitRecord command.initialRequestUnit.initialRecord)) =
        some ⟨.requestUnitRecord command.initialRequestUnit.initialRecord, []⟩ := by
  have apart : ((taskGraphWrites library command).map (·.key.1)).Nodup :=
    show [P0RecordCode.taskRecord, .requestUnitRecord, .inputBindingRecord,
      .requestUnderstandingRecord, .conversationTaskLinkRecord, .runTaskLinkRecord].Nodup by decide
  have alone : ∀ write ∈ taskGraphWrites library command, isTaskFamily write.key.1 = true →
      ∀ other ∈ journal, other.key = write.key → other = write := by
    intro write member family other listed same
    have sameCode : other.key.1 = write.key.1 := congrArg Prod.fst same
    exact List.inj_on_of_nodup_map apart (only other listed (sameCode ▸ family)) member sameCode
  have both := fun write member family =>
    commits.of_only (made write member) (alone write member family)
  exact ⟨both _ List.mem_cons_self rfl, both _ (List.mem_cons_of_mem _ List.mem_cons_self) rfl⟩

/-- A Task and its RequestUnit start. -/
theorem TasksInLockstep.starts (lockstep : TasksInLockstep held) (before : OwnKeys held)
    (ownKeys : OwnKeys after) (commits : Commits held journal after)
    {command : CreateInitialTaskGraphV2Command} (start : GraphStarts command)
    (made : ∀ write ∈ taskGraphWrites library command, write ∈ journal)
    (only : ∀ write ∈ journal, isTaskFamily write.key.1 = true →
      write ∈ taskGraphWrites library command) :
    TasksInLockstep after := by
  obtain ⟨⟨taskBefore, taskAfter⟩, unitBefore, unitAfter⟩ := start_found commits made only
  have taskAt := ownKeys.task taskAfter
  have unitAt := ownKeys.unit unitAfter
  rw [taskAt] at taskBefore taskAfter
  rw [unitAt] at unitBefore unitAfter
  refine lockstep.write before ownKeys taskAfter unitAfter
    ⟨start.unitOfTask, start.unit.1.trans start.task.1.symm, start.unit.2.trans start.task.2.symm,
      ?_⟩ ?_ ?_
  · rw [start.task.1, start.task.2]
    exact .start
  · intro key family notTask notUnit
    refine commits.frame fun write member same => ?_
    have among := only write member (same ▸ family)
    subst same
    simp only [taskGraphWrites, List.mem_cons, List.not_mem_nil, or_false] at among
    rcases among with rfl | rfl | rfl | rfl | rfl | rfl
    · exact notTask taskAt
    · exact notUnit unitAt
    all_goals cases family
  · intro key other children there
    constructor
    · -- another RequestUnit of the Task would have had the Task
      intro alike
      obtain ⟨_, _, already⟩ := lockstep.owned _ _ _ there
      rw [alike, taskBefore] at already
      cases already
    · rintro rfl
      cases unitBefore.symm.trans there

theorem TasksInLockstep.step (step : HeldStep library held after)
    (lockstep : TasksInLockstep held) :
    TasksInLockstep after := by
  obtain ⟨journal, transaction, commits⟩ := step.made
  cases transaction.tasks with
  | none others =>
    refine lockstep.congr step.before step.ownKeys fun key family =>
      commits.frame fun write member same => ?_
    rw [← same, others write member] at family
    cases family
  | steps command history taskStep made only =>
    exact lockstep.steps step.before step.ownKeys commits taskStep made only
  | starts command start made only =>
    exact lockstep.starts step.before step.ownKeys commits start made only

private theorem tasksInLockstep_empty : TasksInLockstep fun _ => none := by
  constructor
  · intro key task history there
    cases there
  · intro key unit children there
    cases there
  · intro key unit children other otherUnit otherChildren there
    cases there

/-- Whatever has been executed, every Task that is stored has exactly one RequestUnit, at the same
version and with the same status, and the transitions that are stored with it lead from version 1 to
there, one version at a time. -/
theorem tasks_stay_in_lockstep (library : ModelLibrary) (laws : StoreLaws library)
    (calls : List StoreCall) :
    TasksInLockstep (contents library (tableAfter library .empty calls)) :=
  held_of_calls laws tasksInLockstep_empty (fun _ _ step lockstep => lockstep.step step) calls

/-- The Task of a Run is created and blocked, with its RequestUnit, before the Run ends. -/
theorem tasks_stay_in_lockstep_blocked :
    TasksInLockstep (contents storeLibrary
      (tableAfter storeLibrary .empty (storedCalls ++ startCall :: taskCalls ++ [endCall]))) :=
  tasks_stay_in_lockstep storeLibrary storeLibrary_storeLaws _

end MiniAgent.Infrastructure
