import MiniAgent.Application.RestartRecovery
import MiniAgent.Infrastructure.RecordRows
import Mathlib.Algebra.Order.Ring.Int
import Mathlib.Order.WithBot

/-! # Loading the closure of the oldest active Run

The loader selects the oldest Run whose lifecycle column is active and then, family by family, the
rows that the columns connect to it. A second row of a family is noticed before it is loaded. Every
row is validated, the decoded records form the closure, and its fence is a digest of the rows as
they are stored.
-/

namespace MiniAgent.Application.SourceRecord

open MiniAgent.Core

def asAgentRunRecord : SourceRecord → Option AgentRunRecord
  | agentRunRecord record => some record
  | _ => none

def asConversationRecord : SourceRecord → Option ConversationRecord
  | conversationRecord record => some record
  | _ => none

def asConversationTaskLinkRecord : SourceRecord → Option ConversationTaskLinkRecord
  | conversationTaskLinkRecord record => some record
  | _ => none

def asRunTaskLinkRecord : SourceRecord → Option RunTaskLinkRecord
  | runTaskLinkRecord record => some record
  | _ => none

def asTaskRecord : SourceRecord → Option TaskRecord
  | taskRecord record => some record
  | _ => none

def asRequestUnitRecord : SourceRecord → Option RequestUnitRecord
  | requestUnitRecord record => some record
  | _ => none

def asToolCallRecord : SourceRecord → Option ToolCallRecord
  | toolCallRecord record => some record
  | _ => none

end MiniAgent.Application.SourceRecord

namespace MiniAgent.Infrastructure

open MiniAgent.Core MiniAgent.Application

/-- `lifecycle_status in ("CREATED", "RUNNING")` -/
def hasActiveStatus (row : P0RecordModel) : Bool :=
  row.lifecycleStatus == some AgentRunStatus.created.value ||
    row.lifecycleStatus == some AgentRunStatus.running.value

/-- A row that the loader takes for an active Run. -/
def isActiveRun (row : P0RecordModel) : Bool :=
  row.recordCode == .agentRunRecord && hasActiveStatus row

/-- `order_by(recovery_sort_at, record_id)`; a row without a time comes last. -/
def recoveryOrder (row : P0RecordModel) : WithTop ℤ ×ₗ Uuid :=
  toLex (row.recoverySortAt.elim ⊤ fun time => (time.instant : WithTop ℤ), row.recordId)

/-- Under which rows are sorted and digested: `_row_key`. -/
def rowKey (row : P0RecordModel) : List Text :=
  [row.recordCode.value.toList, row.logicalIdentity.dumps]

section Loading

variable (library : ModelLibrary) (table : RecordTable)

/-- The candidates for a recovery, of all Runs or of one. -/
def candidateRows (runId : Option Uuid) : List table.Row :=
  (Keyed.sortByKey (fun row : table.Row => recoveryOrder row.1) (table.select fun row =>
    isActiveRun row && runId.all fun wanted => row.runId == some wanted)).take 2

/-- `_bounded_rows`, of one family in the scope of an owner. -/
def boundedRows (owner : Text) (code : P0RecordCode) (filter : P0RecordModel → Bool) :
    Codec (List table.Row) := do
  let rows := (table.select fun row =>
    row.recordCode == code && filter row && row.scopeOwnerCustomerId == some owner).take 2
  requireIntegrity (decide (rows.length ≤ 1)) .linkCardinalityMismatch
  return rows

/-- `_preflight_child_count` -/
def preflightChildCount (maximum : ℕ) (row : table.Row) : Codec Unit :=
  let children := (((Json.lookup row.1.envelope "payload").bind readObject).bind
    (Json.lookup · "logical_children")).bind readArray
  requireIntegrity (children.any fun items => decide (items.length ≤ maximum)) .childMismatch

/-- The rows of a closure besides the Run. -/
structure RecoveryRows where
  conversations : List table.Row
  conversationLinks : List table.Row
  runLinks : List table.Row
  tasks : List table.Row
  units : List table.Row
  toolCalls : List table.Row

/-- The Task and the RequestUnit that the link of the Run leads to. -/
def taskGraphRows (owner : Text) (runLinkRows : List table.Row) :
    Codec (List table.Row × List table.Row) :=
  match runLinkRows with
  | [] => return ([], [])
  | link :: _ => do
    let taskId ← orIntegrity .linkProjectionMismatch link.1.taskId
    let taskRows ← boundedRows table owner .taskRecord (·.taskId == some taskId)
    let unitRows ← boundedRows table owner .requestUnitRecord (·.taskId == some taskId)
    requireIntegrity (taskRows.length == 1 && unitRows.length == 1) .linkCardinalityMismatch
    return (taskRows, unitRows)

/-- Select and count the rows around a Run. -/
def recoveryRows (owner : Text) (conversationId : Uuid) (run : AgentRunRecord) :
    Codec (RecoveryRows table) := do
  let conversations ← boundedRows table owner .conversationRecord
    (·.conversationId == some conversationId)
  let conversationLinks ← boundedRows table owner .conversationTaskLinkRecord
    (·.conversationId == some conversationId)
  let runLinks ← boundedRows table owner .runTaskLinkRecord (·.runId == some run.runId)
  let toolCalls ← boundedRows table owner .toolCallRecord fun row =>
    row.runId == some run.runId && hasActiveStatus row
  requireIntegrity (conversations.length == 1) .linkCardinalityMismatch
  let (tasks, units) ← taskGraphRows table owner runLinks
  requireIntegrity (!(run.status == .created &&
    !(conversationLinks.isEmpty && runLinks.isEmpty && tasks.isEmpty &&
    units.isEmpty && toolCalls.isEmpty))) .childMismatch
  tasks.forM (preflightChildCount table 1)
  toolCalls.forM (preflightChildCount table 1)
  return { conversations, conversationLinks, runLinks, tasks, units, toolCalls }

/-- A row as it enters the digest. -/
def fencedRow (row : table.Row) : Codec Json := do
  let references ← normalizedReferences library row.1
  return .object [("record_code", ownText row.1.recordCode.value),
    ("logical_identity", row.1.logicalIdentity), ("envelope", .object row.1.envelope),
    ("references", referencesJson references)]

/-- `UUID(bytes=sha256(text).digest()[:16])` -/
def digestUuid (text : Text) : Uuid :=
  ((Sha256.digest (text.flatMap String.utf8EncodeChar)).take 4).foldl
    (fun value word => value * 2 ^ 32 + word.toNat) 0

/-- `_closure_fence` -/
def closureFence (rows : List table.Row) : Codec Uuid := do
  let materialized ← (Keyed.sortByKey (fun row : table.Row => rowKey row.1) rows).mapM
    (fencedRow library table)
  return digestUuid (Json.array materialized).dumps

/-- A field whose value has to be an instance of its class. -/
def requireInstance {α : Type} (instance? : Option α) : Codec α :=
  match instance? with
  | some value => .ok value
  | none => .error (.uncaught "ValidationError")

/-- `TaskRecoveryAggregate(...)` of a decoded Task. -/
def taskAggregate (decoded : DecodedP0PersistenceRecord) : Codec TaskRecoveryAggregate := do
  let taskRecord ← orIntegrity .sourceModelMismatch decoded.sourceRecord.asTaskRecord
  let taskStateTransitions ← decoded.logicalChildren.mapM fun child =>
    requireInstance child.asTaskStateTransition
  constructModel { taskRecord, taskStateTransitions }

/-- `ToolCallRecoveryAggregate(...)` of a decoded ToolCall. -/
def toolCallAggregate (decoded : DecodedP0PersistenceRecord) : Codec ToolCallRecoveryAggregate := do
  let toolCallRecord ← orIntegrity .sourceModelMismatch decoded.sourceRecord.asToolCallRecord
  let toolAttemptRecords ← decoded.logicalChildren.mapM fun child =>
    requireInstance child.asToolAttemptRecord
  constructModel { toolCallRecord, toolAttemptRecords }

/-- Validate the rows, the Run first, and put what they hold together. -/
def assembleClosure (owner : Text) (runRow : table.Row) (rows : RecoveryRows table) :
    Codec RestartRecoveryClosure := do
  let validate := validatePhysicalProjection library table (some owner)
  let decodedRun ← validate runRow
  let conversations ← rows.conversations.mapM validate
  let conversationLinks ← rows.conversationLinks.mapM validate
  let runLinks ← rows.runLinks.mapM validate
  let tasks ← rows.tasks.mapM validate
  let units ← rows.units.mapM validate
  let toolCalls ← rows.toolCalls.mapM validate
  let activeRunRecord ← orIntegrity .sourceModelMismatch decodedRun.sourceRecord.asAgentRunRecord
  let taskAggregates ← tasks.mapM taskAggregate
  let requestUnitRecords ← units.mapM fun unit =>
    orIntegrity .sourceModelMismatch unit.sourceRecord.asRequestUnitRecord
  let toolCallAggregates ← toolCalls.mapM toolCallAggregate
  let closureFence ← closureFence library table
    (runRow :: rows.conversations ++ rows.conversationLinks ++
    rows.runLinks ++ rows.tasks ++ rows.units ++ rows.toolCalls)
  let conversationRecord ← requireInstance
    (conversations.head?.bind (·.sourceRecord.asConversationRecord))
  let conversationTaskLinks ← conversationLinks.mapM fun link =>
    requireInstance link.sourceRecord.asConversationTaskLinkRecord
  let runTaskLinks ← runLinks.mapM fun link => requireInstance link.sourceRecord.asRunTaskLinkRecord
  constructModel
    { closureFence, conversationRecord, activeRunRecord, conversationTaskLinks, runTaskLinks,
      taskAggregates
      requestUnitRecords, toolCallAggregates }

/-- `_load_closure_in_transaction` -/
def loadClosureInTransaction (runId : Option Uuid) : Codec (Option RestartRecoveryClosure) :=
  match candidateRows table runId with
  | [] => return none
  | runRow :: _ => do
    let runDecoded ← validatePhysicalProjection library table none runRow
    let run ← orIntegrity .sourceModelMismatch runDecoded.sourceRecord.asAgentRunRecord
    let owner ← orIntegrity .ownerProjectionMismatch runRow.1.scopeOwnerCustomerId
    let conversationId ← orIntegrity .ownerProjectionMismatch run.conversationId
    let rows ← recoveryRows table owner conversationId run
    let closure ← assembleClosure library table owner runRow rows
    return some closure

/-- `_load_closure_in_transaction` for an update. The rows are locked as they were read, since the
transaction has one snapshot, and the closure is read once more. -/
def loadClosureForUpdate (runId : Uuid) : Codec (Option RestartRecoveryClosure) := do
  match ← loadClosureInTransaction library table (some runId) with
  | none => return none
  | some closure =>
    let reread ← loadClosureInTransaction library table (some closure.activeRunRecord.runId)
    if reread = some closure then return some closure
    return reread

end Loading

/-- The Runs that are active by their columns, by their keys. -/
def activeRuns (table : RecordTable) : List RecordKey :=
  (table.rows.filter isActiveRun).map P0RecordModel.key

variable {library : ModelLibrary} {table : RecordTable}

private theorem candidateRows_eq_nil : candidateRows table none = [] ↔ activeRuns table = [] := by
  rw [candidateRows, List.take_eq_nil_iff, activeRuns, List.map_eq_nil_iff,
    ← RecordTable.map_select, List.map_eq_nil_iff]
  simp only [OfNat.ofNat_ne_zero, false_or, Option.all_none, Bool.and_true]
  exact ⟨fun empty => (empty ▸ Keyed.sortByKey_perm _ _).symm.eq_nil,
    fun empty => by rw [empty]; rfl⟩

/-- A load that finds nothing has seen no active Run; with an active Run it finds one or raises. -/
theorem loadClosure_eq_none_iff :
    loadClosureInTransaction library table none = .ok none ↔ activeRuns table = [] := by
  rw [← candidateRows_eq_nil, loadClosureInTransaction]
  cases candidateRows table none with
  | nil => exact iff_of_true rfl rfl
  | cons runRow rest =>
    refine iff_of_false ?_ (List.cons_ne_nil _ _)
    simp only [Except.bind_eq_ok_iff, Except.pure_eq_ok_iff]
    rintro ⟨_, -, _, -, _, -, _, -, _, -, _, -, found⟩
    cases found

end MiniAgent.Infrastructure
