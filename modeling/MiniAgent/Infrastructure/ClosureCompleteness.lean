import Mathlib
import MiniAgent.Infrastructure.OwnerDerivation
import MiniAgent.Infrastructure.RecoveryLoader

/-! # A closure that is loaded is complete

What the loader returns belongs to the oldest active Run, and holds all rows that the columns
connect to it within the scope of its owner: none is left out, and none is there twice. With no
active Run it returns nothing; in every other case it raises.
-/

namespace MiniAgent.Application.SourceRecord

open MiniAgent.Core

variable {record : SourceRecord}

private theorem asAgentRunRecord_eq_some {run : AgentRunRecord} :
    record.asAgentRunRecord = some run ↔
    record = .agentRunRecord run := by
  cases record <;> simp [asAgentRunRecord]

private theorem asConversationRecord_eq_some {conversation : ConversationRecord} :
    record.asConversationRecord = some conversation ↔
    record = .conversationRecord conversation := by
  cases record <;> simp [asConversationRecord]

private theorem asConversationTaskLinkRecord_eq_some {link : ConversationTaskLinkRecord} :
    record.asConversationTaskLinkRecord = some link ↔
    record = .conversationTaskLinkRecord link := by
  cases record <;> simp [asConversationTaskLinkRecord]

theorem asRunTaskLinkRecord_eq_some {link : RunTaskLinkRecord} :
    record.asRunTaskLinkRecord = some link ↔ record = .runTaskLinkRecord link := by
  cases record <;> simp [asRunTaskLinkRecord]

private theorem asTaskRecord_eq_some {task : TaskRecord} : record.asTaskRecord = some task ↔
    record = .taskRecord task := by
  cases record <;> simp [asTaskRecord]

private theorem asRequestUnitRecord_eq_some {unit : RequestUnitRecord} :
    record.asRequestUnitRecord = some unit ↔ record = .requestUnitRecord unit := by
  cases record <;> simp [asRequestUnitRecord]

private theorem asToolCallRecord_eq_some {call : ToolCallRecord} :
    record.asToolCallRecord = some call ↔
    record = .toolCallRecord call := by
  cases record <;> simp [asToolCallRecord]

private theorem asTaskStateTransition_eq_some {transition : TaskStateTransition} :
    record.asTaskStateTransition = some transition ↔ record = .taskStateTransition transition := by
  cases record <;> simp [asTaskStateTransition]

private theorem asToolAttemptRecord_eq_some {attempt : ToolAttemptRecord} :
    record.asToolAttemptRecord = some attempt ↔ record = .toolAttemptRecord attempt := by
  cases record <;> simp [asToolAttemptRecord]

end MiniAgent.Application.SourceRecord

namespace MiniAgent.Application.RestartRecoveryClosure

open MiniAgent.Core

/-- The Run of a closure is one of its Conversation. -/
private theorem conversationId_of_validates {closure : RestartRecoveryClosure}
    (valid : ContractModel.validates closure = true) :
    closure.activeRunRecord.conversationId = some closure.conversationRecord.conversationId := by
  have active : closure.runIsActive = true := by
    change (_ && _ && _ && _ && _ && _ && _ && _ && _ && _ && _ && _ && _ && _ && _ && _ && _ &&
      _ && _ && _) = true at valid
    simp only [Bool.and_eq_true] at valid
    exact valid.1.1.1.1.1.1.1.2
  simp only [runIsActive, Bool.and_eq_true, beq_iff_eq] at active
  exact active.1.2

end MiniAgent.Application.RestartRecoveryClosure

namespace MiniAgent.Infrastructure

open MiniAgent.Core MiniAgent.Application

variable {library : ModelLibrary} {table : RecordTable} {owner : Text} {runRow : table.Row}

/-- The rows of one family, in the scope of an owner, that pass a filter: all of them, and at most
one. -/
structure AllRows (table : RecordTable) (owner : Text) (code : P0RecordCode)
    (filter : P0RecordModel → Prop) (rows : List table.Row) : Prop where
  all : ∀ row : table.Row, row ∈ rows ↔
    row.1.recordCode = code ∧ filter row.1 ∧ row.1.scopeOwnerCustomerId = some owner
  single : rows.length ≤ 1

private theorem boundedRows_eq_ok {code : P0RecordCode} {filter : P0RecordModel → Bool}
    {rows : List table.Row} (success : boundedRows table owner code filter = .ok rows) :
    AllRows table owner code (filter · = true) rows := by
  simp only [boundedRows, Except.bind_eq_ok_iff, requireIntegrity_eq_ok_iff, decide_eq_true_eq,
    Except.pure_eq_ok_iff] at success
  obtain ⟨-, short, rfl⟩ := success
  -- two rows would have been taken, so that at most one was there
  have whole : ∀ selected : List table.Row, (selected.take 2).length ≤ 1 →
      selected.take 2 = selected := by
    intro selected short
    rw [List.length_take] at short
    exact List.take_of_length_le (by omega)
  refine ⟨fun row => ?_, short⟩
  rw [whole _ short, RecordTable.mem_select]
  simp only [Bool.and_eq_true, beq_iff_eq]
  tauto

/-- The rows of a closure, family by family. -/
structure CompleteRows (table : RecordTable) (owner : Text) (conversationId runId : Uuid)
    (rows : RecoveryRows table) :
    Prop where
  conversations : AllRows table owner .conversationRecord
    (·.conversationId = some conversationId) rows.conversations
  conversationLinks : AllRows table owner .conversationTaskLinkRecord
    (·.conversationId = some conversationId)
    rows.conversationLinks
  runLinks : AllRows table owner .runTaskLinkRecord (·.runId = some runId) rows.runLinks
  tasks : AllRows table owner .taskRecord
    (fun row => ∃ link ∈ rows.runLinks, row.taskId = link.1.taskId) rows.tasks
  units : AllRows table owner .requestUnitRecord
    (fun row => ∃ link ∈ rows.runLinks, row.taskId = link.1.taskId) rows.units
  toolCalls : AllRows table owner .toolCallRecord
    (fun row => row.runId = some runId ∧ hasActiveStatus row = true)
    rows.toolCalls

/-- Without a link there is nothing to find. -/
private theorem allRows_nil {code : P0RecordCode} :
    AllRows table owner code (fun row => ∃ link ∈ ([] : List table.Row),
      row.taskId = link.1.taskId) [] :=
  ⟨fun row => by simp, by simp⟩

theorem AllRows.congr {code : P0RecordCode} {filter other : P0RecordModel → Prop}
    {rows : List table.Row} (found : AllRows table owner code filter rows)
    (same : ∀ row, filter row ↔ other row) :
    AllRows table owner code other rows :=
  ⟨fun row => (found.all row).trans (and_congr_right fun _ => and_congr_left fun _ => same row.1),
    found.single⟩

private theorem taskGraphRows_eq_ok {links tasks units : List table.Row} (single : links.length ≤ 1)
    (success : taskGraphRows table owner links = .ok (tasks, units)) :
    AllRows table owner .taskRecord (fun row => ∃ link ∈ links, row.taskId = link.1.taskId) tasks ∧
      AllRows table owner .requestUnitRecord
      (fun row => ∃ link ∈ links, row.taskId = link.1.taskId) units := by
  unfold taskGraphRows at success
  split at success
  · obtain ⟨rfl, rfl⟩ := Prod.mk.inj (Except.pure_eq_ok_iff.mp success)
    exact ⟨allRows_nil, allRows_nil⟩
  · next link rest =>
    obtain rfl : rest = [] := List.length_eq_zero_iff.mp (by simpa using single)
    simp only [Except.bind_eq_ok_iff, orIntegrity_eq_ok, Except.pure_eq_ok_iff, Prod.mk.injEq]
      at success
    obtain ⟨taskId, linked, _, taskRows, _, unitRows, -, -, rfl, rfl⟩ := success
    have same : ∀ row : P0RecordModel, ((row.taskId == some taskId) = true) ↔
        ∃ only ∈ [link], row.taskId = only.1.taskId := by
      intro row
      simp [linked]
    exact ⟨(boundedRows_eq_ok taskRows).congr same, (boundedRows_eq_ok unitRows).congr same⟩

private theorem recoveryRows_eq_ok {conversationId : Uuid} {run : AgentRunRecord}
    {rows : RecoveryRows table} (success : recoveryRows table owner conversationId run = .ok rows) :
    CompleteRows table owner conversationId run.runId rows ∧ rows.conversations.length = 1 := by
  simp only [recoveryRows, Except.bind_eq_ok_iff, requireIntegrity_eq_ok_iff, beq_iff_eq,
    Except.pure_eq_ok_iff, Prod.exists] at success
  obtain ⟨conversations, conversationRows, links, linkRows, runLinks, runLinkRows, toolCalls,
    toolCallRows, -, one, tasks, units, graph, -, -, -, -, -, -, rfl⟩ := success
  obtain ⟨taskRows, unitRows⟩ := taskGraphRows_eq_ok (boundedRows_eq_ok runLinkRows).single graph
  refine ⟨⟨?_, ?_, ?_, taskRows, unitRows, ?_⟩, one⟩
  · exact (boundedRows_eq_ok conversationRows).congr fun row => by rw [beq_iff_eq]
  · exact (boundedRows_eq_ok linkRows).congr fun row => by rw [beq_iff_eq]
  · exact (boundedRows_eq_ok runLinkRows).congr fun row => by rw [beq_iff_eq]
  · exact (boundedRows_eq_ok toolCallRows).congr fun row => by rw [Bool.and_eq_true, beq_iff_eq]

variable (library) (table) (owner) in
/-- A row is valid for an owner, and reads as a record with its children. -/
def ReadsAs (row : table.Row) (record : SourceRecord) (children : List SourceRecord) : Prop :=
  ∃ decoded, validatePhysicalProjection library table (some owner) row = .ok decoded ∧
    decoded.sourceRecord = record ∧ decoded.logicalChildren = children

variable (library) (owner) in
/-- The records of a closure are those of its rows. -/
structure HoldsRows (runRow : table.Row) (rows : RecoveryRows table)
    (closure : RestartRecoveryClosure) : Prop where
  run : ∃ children, ReadsAs library table owner runRow
    (.agentRunRecord closure.activeRunRecord) children
  conversations : List.Forall₂ (fun row record => ∃ children,
    ReadsAs library table owner row (.conversationRecord record) children)
    rows.conversations [closure.conversationRecord]
  conversationLinks : List.Forall₂ (fun row link => ∃ children,
    ReadsAs library table owner row (.conversationTaskLinkRecord link) children)
      rows.conversationLinks closure.conversationTaskLinks
  runLinks : List.Forall₂ (fun row link => ∃ children,
    ReadsAs library table owner row (.runTaskLinkRecord link) children)
    rows.runLinks closure.runTaskLinks
  tasks : List.Forall₂
    (fun row aggregate => ReadsAs library table owner row (.taskRecord aggregate.taskRecord)
    (aggregate.taskStateTransitions.map .taskStateTransition)) rows.tasks closure.taskAggregates
  units : List.Forall₂ (fun row unit => ∃ children,
    ReadsAs library table owner row (.requestUnitRecord unit) children)
    rows.units closure.requestUnitRecords
  toolCalls : List.Forall₂
    (fun row aggregate => ReadsAs library table owner row (.toolCallRecord aggregate.toolCallRecord)
    (aggregate.toolAttemptRecords.map .toolAttemptRecord)) rows.toolCalls closure.toolCallAggregates
  validates : ContractModel.validates closure = true

private theorem requireInstance_eq_ok {α : Type} {candidate : Option α} {found : α} :
    requireInstance candidate = .ok found ↔ candidate = some found := by
  cases candidate <;> simp [requireInstance]

private theorem taskAggregate_eq_ok {decoded : DecodedP0PersistenceRecord}
    {aggregate : TaskRecoveryAggregate} (success : taskAggregate decoded = .ok aggregate) :
    decoded.sourceRecord = .taskRecord aggregate.taskRecord ∧
      decoded.logicalChildren = aggregate.taskStateTransitions.map .taskStateTransition := by
  simp only [taskAggregate, Except.bind_eq_ok_iff, orIntegrity_eq_ok, Except.mapM_eq_ok_iff,
    requireInstance_eq_ok, constructModel_eq_ok, SourceRecord.asTaskRecord_eq_some,
    SourceRecord.asTaskStateTransition_eq_some] at success
  obtain ⟨task, isTask, transitions, children, -, rfl⟩ := success
  exact ⟨isTask, List.forall₂_eq_eq_eq ▸ List.forall₂_map_right_iff.mpr children⟩

private theorem toolCallAggregate_eq_ok {decoded : DecodedP0PersistenceRecord}
    {aggregate : ToolCallRecoveryAggregate} (success : toolCallAggregate decoded = .ok aggregate) :
    decoded.sourceRecord = .toolCallRecord aggregate.toolCallRecord ∧
      decoded.logicalChildren = aggregate.toolAttemptRecords.map .toolAttemptRecord := by
  simp only [toolCallAggregate, Except.bind_eq_ok_iff, orIntegrity_eq_ok, Except.mapM_eq_ok_iff,
    requireInstance_eq_ok, constructModel_eq_ok, SourceRecord.asToolCallRecord_eq_some,
    SourceRecord.asToolAttemptRecord_eq_some] at success
  obtain ⟨call, isCall, attempts, children, -, rfl⟩ := success
  exact ⟨isCall, List.forall₂_eq_eq_eq ▸ List.forall₂_map_right_iff.mpr children⟩

/-- Two traversals in a row relate the first list to the last one. -/
private theorem forall₂_trans {α β γ : Type} {R : α → β → Prop} {S : β → γ → Prop} {lefts : List α}
    {middles : List β} {rights : List γ} (first : List.Forall₂ R lefts middles)
    (second : List.Forall₂ S middles rights) :
    List.Forall₂ (fun left right => ∃ middle, R left middle ∧ S middle right) lefts rights := by
  induction first generalizing rights with
  | nil =>
    obtain rfl := List.forall₂_nil_left_iff.mp second
    exact .nil
  | cons related _ ih =>
    obtain ⟨right, rest, following, others, rfl⟩ := List.forall₂_cons_left_iff.mp second
    exact .cons ⟨_, related, following⟩ (ih others)

private theorem assembleClosure_eq_ok {rows : RecoveryRows table} {closure : RestartRecoveryClosure}
    (one : rows.conversations.length = 1)
    (success : assembleClosure library table owner runRow rows = .ok closure) :
    HoldsRows library owner runRow rows closure := by
  simp only [assembleClosure, Except.bind_eq_ok_iff, Except.mapM_eq_ok_iff, orIntegrity_eq_ok,
    requireInstance_eq_ok, constructModel_eq_ok, SourceRecord.asAgentRunRecord_eq_some,
    SourceRecord.asRequestUnitRecord_eq_some,
    SourceRecord.asConversationTaskLinkRecord_eq_some,
    SourceRecord.asRunTaskLinkRecord_eq_some] at success
  obtain ⟨decodedRun, runValid, conversations, conversationsValid, links, linksValid, runLinks,
    runLinksValid, tasks, tasksValid, units, unitsValid, toolCalls, toolCallsValid, run, isRun,
    taskAggregates, areTasks, unitRecords, areUnits,
    toolCallAggregates, areToolCalls, fence, -, conversation, isConversation, linkRecords, areLinks,
    runLinkRecords,
    areRunLinks, valid, rfl⟩ := success
  have withoutChildren : ∀ {row : table.Row} {record : SourceRecord}, (∃ decoded,
      validatePhysicalProjection library table (some owner) row = .ok decoded ∧
        decoded.sourceRecord = record) →
        ∃ children, ReadsAs library table owner row record children :=
    fun ⟨decoded, reads, same⟩ => ⟨_, decoded, reads, same, rfl⟩
  refine ⟨withoutChildren ⟨decodedRun, runValid, isRun⟩, ?_, ?_, ?_, ?_, ?_, ?_, valid⟩
  · obtain ⟨row, only⟩ := List.length_eq_one_iff.mp one
    rw [only] at conversationsValid ⊢
    obtain ⟨decoded, rest, reads, others, rfl⟩ := List.forall₂_cons_left_iff.mp conversationsValid
    obtain ⟨found, first, isFound⟩ := Option.bind_eq_some_iff.mp isConversation
    obtain rfl := Option.some.inj first
    exact .cons (withoutChildren ⟨_, reads, SourceRecord.asConversationRecord_eq_some.mp isFound⟩)
      .nil
  · exact (forall₂_trans linksValid areLinks).imp fun row link => withoutChildren
  · exact (forall₂_trans runLinksValid areRunLinks).imp fun row link => withoutChildren
  · refine (forall₂_trans tasksValid areTasks).imp fun row aggregate => ?_
    rintro ⟨decoded, reads, made⟩
    exact ⟨decoded, reads, taskAggregate_eq_ok made⟩
  · exact (forall₂_trans unitsValid areUnits).imp fun row unit => withoutChildren
  · refine (forall₂_trans toolCallsValid areToolCalls).imp fun row aggregate => ?_
    rintro ⟨decoded, reads, made⟩
    exact ⟨decoded, reads, toolCallAggregate_eq_ok made⟩

/-- No active Run comes before this one. -/
structure OldestActive (table : RecordTable) (runRow : table.Row) : Prop where
  active : isActiveRun runRow.1 = true
  oldest : ∀ row ∈ table.rows, isActiveRun row = true → recoveryOrder runRow.1 ≤ recoveryOrder row

private theorem candidateRows_cons {rest : List table.Row}
    (candidates : candidateRows table none = runRow :: rest) :
    OldestActive table runRow := by
  have selected : ∀ row : table.Row,
      row ∈ Keyed.sortByKey (fun row : table.Row => recoveryOrder row.1)
      (table.select fun row => isActiveRun row && (none : Option Uuid).all fun wanted =>
        row.runId == some wanted) ↔
        isActiveRun row.1 = true := by
    intro row
    rw [(Keyed.sortByKey_perm _ _).mem_iff, RecordTable.mem_select]
    simp
  have sorted := Keyed.sortByKey_pairwise (fun row : table.Row => recoveryOrder row.1)
    (table.select fun row => isActiveRun row && (none : Option Uuid).all fun wanted =>
      row.runId == some wanted)
  unfold candidateRows at candidates
  generalize Keyed.sortByKey (fun row : table.Row => recoveryOrder row.1)
    (table.select fun row => isActiveRun row && (none : Option Uuid).all fun wanted =>
      row.runId == some wanted) = ordered
    at candidates selected sorted
  cases ordered with
  | nil => cases candidates
  | cons first others =>
    obtain rfl : first = runRow := (List.cons.inj candidates).1
    refine ⟨(selected first).mp (List.mem_cons_self ..), fun row member active => ?_⟩
    rcases List.mem_cons.mp ((selected ⟨row, member⟩).mpr active) with rfl | later
    · exact le_rfl
    · exact (List.pairwise_cons.mp sorted).1 _ later

/-- What is loaded is the whole closure of the oldest active Run. -/
structure LoadsOldest (library : ModelLibrary) (table : RecordTable)
    (closure : RestartRecoveryClosure) : Prop where
  complete : ∃ (runRow : table.Row) (owner : Text) (rows : RecoveryRows table),
    OldestActive table runRow ∧
    runRow.1.scopeOwnerCustomerId = some owner ∧ HoldsRows library owner runRow rows closure ∧
    CompleteRows table owner closure.conversationRecord.conversationId
      closure.activeRunRecord.runId rows

/-- What is loaded comes from the first candidate, with all rows in the scope of its owner. -/
theorem rows_of_load {runId : Option Uuid} {closure : RestartRecoveryClosure}
    (success : loadClosureInTransaction library table runId = .ok (some closure)) :
    ∃ (runRow : table.Row) (owner : Text) (rows : RecoveryRows table),
    (candidateRows table runId).head? = some runRow ∧
      runRow.1.scopeOwnerCustomerId = some owner ∧ HoldsRows library owner runRow rows closure ∧
      CompleteRows table owner closure.conversationRecord.conversationId
      closure.activeRunRecord.runId rows := by
  unfold loadClosureInTransaction at success
  split at success
  · cases Except.ok.inj success
  · next runRow rest candidates =>
    simp only [Except.bind_eq_ok_iff, orIntegrity_eq_ok, Except.pure_eq_ok_iff, Option.some.injEq]
      at success
    obtain ⟨decoded, valid, run, isRun, owner, scope, conversationId, named, rows, found, _,
      assembled, rfl⟩ := success
    have selected := recoveryRows_eq_ok found
    have holds := assembleClosure_eq_ok selected.2 assembled
    obtain ⟨_, again, reads, isActive, -⟩ := holds.run
    obtain rfl := Except.ok.inj ((decodeRow_of_valid valid).symm.trans (decodeRow_of_valid reads))
    obtain rfl :=
      SourceRecord.agentRunRecord.inj
        ((SourceRecord.asAgentRunRecord_eq_some.mp isRun).symm.trans isActive)
    have conversation := RestartRecoveryClosure.conversationId_of_validates holds.validates
    obtain rfl := Option.some.inj (named.symm.trans conversation)
    exact ⟨runRow, owner, rows, by rw [candidates, List.head?_cons], scope, holds, selected.1⟩

private theorem loadsOldest_of_load {closure : RestartRecoveryClosure}
    (success : loadClosureInTransaction library table none = .ok (some closure)) :
    LoadsOldest library table closure := by
  obtain ⟨runRow, owner, rows, first, scope, holds, complete⟩ := rows_of_load success
  obtain ⟨rest, candidates⟩ := List.head?_eq_some_iff.mp first
  exact ⟨runRow, owner, rows, candidateRows_cons candidates, scope, holds, complete⟩

/-- The loader finds nothing exactly when no Run is active by its columns; and whatever it returns
is the whole closure of the oldest active Run, with every row in scope and no other. -/
theorem loaded_closure_is_complete (library : ModelLibrary) (table : RecordTable) :
    (loadClosureInTransaction library table none = .ok none ↔ activeRuns table = []) ∧
      ∀ closure, loadClosureInTransaction library table none = .ok (some closure) →
      LoadsOldest library table closure :=
  ⟨loadClosure_eq_none_iff, fun _ => loadsOldest_of_load⟩

end MiniAgent.Infrastructure
