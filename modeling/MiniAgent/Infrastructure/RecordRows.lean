import MiniAgent.Application.EnumValues
import MiniAgent.Application.PersistenceDecode
import MiniAgent.Library.GraphWalk
import Mathlib.Data.List.Dedup
import Mathlib.Data.Prod.Lex

/-! # The rows of `p0_records` and how they are read

A row carries an envelope as JSON, the columns that were projected out of it and its reference rows.
A row is trusted only as far as it can be checked: its envelope decodes, its columns are those of
the decoded record, and its owner is the one that a walk along the references derives.

JSON columns are compared by their normal forms. A record code is closed by a check constraint of
the table, so that no row has an unknown one.
-/

namespace MiniAgent.Application.SourceRecord

open MiniAgent.Core

/-- `getattr(record, "conversation_id", None)` -/
def conversationId : SourceRecord → Option Uuid
  | conversationRecord record => some record.conversationId
  | messageRecord record => some record.conversationId
  | conversationTaskLinkRecord record => some record.conversationId
  | agentRunRecord record => record.conversationId
  | _ => none

/-- `getattr(record, "run_id", None)` -/
def runId : SourceRecord → Option Uuid
  | runTaskLinkRecord record => some record.runId
  | agentRunRecord record => some record.runId
  | toolCallRecord record => some record.runId
  | contextManifest record => some record.runId
  | traceEvent record => some record.runId
  | requestUnderstandingRecordV2 record => some record.runId
  | _ => none

/-- `getattr(record, "task_id", None)` -/
def taskId : SourceRecord → Option Uuid
  | taskRecord record => some record.taskId
  | requestUnitRecord record => some record.taskId
  | conversationTaskLinkRecord record => some record.taskId
  | runTaskLinkRecord record => some record.taskId
  | toolCallRecord record => some record.taskId
  | traceEvent record => record.taskId
  | acceptedTaskDeltaV2 record => some record.taskId
  | taskStateTransition record => some record.taskId
  | _ => none

/-- `getattr(record, "request_unit_id", None)` -/
def requestUnitId : SourceRecord → Option Uuid
  | requestUnitRecord record => some record.requestUnitId
  | toolCallRecord record => some record.requestUnitId
  | traceEvent record => record.requestUnitId
  | taskStateTransition record => some record.requestUnitId
  | _ => none

/-- `_enum_value(getattr(record, "status", None))` -/
def lifecycleStatus : SourceRecord → Option String
  | taskRecord record => some record.status.value
  | requestUnitRecord record => some record.status.value
  | agentRunRecord record => some record.status.value
  | toolCallRecord record => some record.status.value
  | evalResultRecord record => some record.status.value
  | _ => none

/-- `getattr(record, "state_version", None)` -/
def stateVersion : SourceRecord → Option ℕ
  | taskRecord record => some record.stateVersion
  | requestUnitRecord record => some record.stateVersion
  | _ => none

/-- `getattr(record, "attempt_count", None)` -/
def attemptCount : SourceRecord → Option ℕ
  | toolCallRecord record => some record.attemptCount
  | _ => none

/-- `getattr(record, "started_at", None)` of a Run -/
def recoverySortAt : SourceRecord → Option Datetime
  | agentRunRecord record => some record.startedAt
  | _ => none

def asTraceEvent : SourceRecord → Option TraceEvent
  | traceEvent record => some record
  | _ => none

end MiniAgent.Application.SourceRecord

namespace MiniAgent.Infrastructure

open MiniAgent.Core MiniAgent.Application

/-- `P0RecordReferenceModel`, as it stands under the row that it belongs to. -/
structure P0RecordReferenceModel where
  ordinal : ℕ
  relation : String
  targetRecordCode : P0RecordCode
  targetLogicalIdentity : Json
deriving DecidableEq

/-- The columns that are computed from an envelope: `_projection_values`. -/
structure Projection where
  recordCode : P0RecordCode
  recordSchemaVersion : String
  logicalIdentity : Json
  directOwnerCustomerId : Option Text
  scopeOwnerCustomerId : Option Text
  conversationId : Option Uuid
  runId : Option Uuid
  taskId : Option Uuid
  requestUnitId : Option Uuid
  lifecycleStatus : Option String
  stateVersion : Option ℕ
  attemptCount : Option ℕ
  recoverySortAt : Option Datetime
  envelope : Fields
deriving DecidableEq

/-- What the database generates for a row. -/
structure RowStamp where
  recordId : Uuid
  storedAt : Datetime
deriving DecidableEq

/-- `P0RecordModel`, with its reference rows in the order of their ordinals. -/
structure P0RecordModel extends Projection, RowStamp where
  references : List P0RecordReferenceModel
deriving DecidableEq

/-- A record code and an identity, which is compared as a JSON value. -/
abbrev RecordKey := P0RecordCode × Json

def Projection.key (projection : Projection) : RecordKey :=
  (projection.recordCode, projection.logicalIdentity.norm)

abbrev P0RecordModel.key (row : P0RecordModel) : RecordKey := row.toProjection.key

/-- `p0_records`: no two rows have one primary key, or one code and one identity. -/
structure RecordTable where
  rows : List P0RecordModel
  uniqueRecordIds : (rows.map (·.recordId)).Nodup
  uniqueIdentities : (rows.map P0RecordModel.key).Nodup

namespace RecordTable

variable (table : RecordTable)

/-- A row of the table. -/
abbrev Row := {row // row ∈ table.rows}

def empty : RecordTable := ⟨[], List.nodup_nil, List.nodup_nil⟩

/-- `session.scalars(select(P0RecordModel).where(condition))` -/
def select (condition : P0RecordModel → Bool) : List table.Row :=
  table.rows.attach.filter (condition ·.1)

/-- `session.scalar(select(P0RecordModel).where(condition))` -/
def selectOne (condition : P0RecordModel → Bool) : Option table.Row :=
  table.rows.attach.find? (condition ·.1)

variable {table}

theorem mem_select {condition : P0RecordModel → Bool} {row : table.Row} :
    row ∈ table.select condition ↔ condition row.1 = true := by
  simp [select]

theorem map_select (condition : P0RecordModel → Bool) :
    (table.select condition).map Subtype.val = table.rows.filter condition := by
  have mapped := List.filter_map (p := condition) (f := Subtype.val) (l := table.rows.attach)
  rw [List.attach_map_subtype_val] at mapped
  exact mapped.symm

theorem selectOne_eq_some {condition : P0RecordModel → Bool} {row : table.Row}
    (found : table.selectOne condition = some row) : condition row.1 = true := by
  simpa using List.find?_some found

theorem selectOne_eq_none {condition : P0RecordModel → Bool} :
    table.selectOne condition = none ↔ ∀ row ∈ table.rows, condition row = false := by
  simp [selectOne]

/-- A row is determined by its key. -/
theorem key_injective : Function.Injective fun row : table.Row => row.1.key := by
  intro left right same
  exact Subtype.ext (List.inj_on_of_nodup_map table.uniqueIdentities left.2 right.2 same)

end RecordTable

/-- `where record_code = ... and logical_identity = ...` -/
def hasIdentity (code : P0RecordCode) (identity : Json) (row : P0RecordModel) : Bool :=
  row.recordCode == code && row.logicalIdentity.norm == identity.norm

theorem hasIdentity_iff {code : P0RecordCode} {identity : Json} {row : P0RecordModel} :
    hasIdentity code identity row = true ↔ row.key = (code, identity.norm) := by
  simp [hasIdentity, Projection.key]

/-- `_PRIVATE_RECORD_CODES` -/
def isPrivate : P0RecordCode → Bool
  | .modelVisibleToolsetArtifact | .evalResultRecord | .evalExecutionFailureRecord => false
  | _ => true

/-- The filter on the scope owner that a reference's target must pass for an expected owner. -/
def inScope (expectedOwner : Option Text) (row : P0RecordModel) : Bool :=
  match expectedOwner with
  | none => true
  | some owner =>
    if isPrivate row.recordCode then row.scopeOwnerCustomerId == some owner
    else row.scopeOwnerCustomerId.isNone

section Reading

variable (library : ModelLibrary)

/-- `decode_persistence_record`, which does not serve Request Understanding. -/
def decodePersistenceRecord (envelope : Fields) (code : P0RecordCode) :
    Codec DecodedP0PersistenceRecord :=
  if code = .requestUnderstandingRecord then .error (.integrity .unknownRecordSchemaVersion)
  else do
    let rawJson ← jsonInput library (.mapping envelope)
    decode library rawJson code

/-- `_parse_envelope` -/
def parseEnvelope (raw : Fields) : Codec P0PersistenceEnvelope :=
  orIntegrity .payloadValidationFailed
    ((library.readText (Json.object raw).compact).bind readEnvelope)

/-- A reference row as the JSON of a reference. -/
def P0RecordReferenceModel.toJson (reference : P0RecordReferenceModel) : Json := .object
  [("relation", ownText reference.relation),
    ("target_record_code", ownText reference.targetRecordCode.value),
    ("target_logical_identity", reference.targetLogicalIdentity)]

/-- `_normalized_references` -/
def normalizedReferences (row : P0RecordModel) : Codec (List P0RecordReference) := do
  requireIntegrity (row.references.map (·.ordinal) == List.range row.references.length)
    .linkProjectionMismatch
  orIntegrity .linkProjectionMismatch
    (row.references.mapM fun reference =>
      (library.readText reference.toJson.compact).bind readReference)

/-- `_decode_row` -/
def decodeRow (row : P0RecordModel) : Codec DecodedP0PersistenceRecord := do
  let decoded ← decodePersistenceRecord library row.envelope row.recordCode
  let envelope ← parseEnvelope library row.envelope
  requireIntegrity (row.recordSchemaVersion == envelope.recordSchemaVersion &&
    row.logicalIdentity.norm == envelope.logicalIdentity.toJson.norm &&
    row.directOwnerCustomerId == envelope.directOwnerCustomerId) .metadataPayloadMismatch
  let references ← normalizedReferences library row
  requireIntegrity ((referencesJson references).norm ==
    (referencesJson envelope.recordReferences).norm) .metadataPayloadMismatch
  return decoded

/-- The columns of a decoded record. -/
def projectionOf (envelope : P0PersistenceEnvelope) (record : SourceRecord)
    (scopeOwner : Option Text) :
    Projection where
  recordCode := envelope.recordCode
  recordSchemaVersion := envelope.recordSchemaVersion
  logicalIdentity := envelope.logicalIdentity.toJson
  directOwnerCustomerId := envelope.directOwnerCustomerId
  scopeOwnerCustomerId := scopeOwner
  conversationId := record.conversationId
  runId := record.runId
  taskId := record.taskId
  requestUnitId := record.requestUnitId
  lifecycleStatus := record.lifecycleStatus
  stateVersion := record.stateVersion
  attemptCount := record.attemptCount
  recoverySortAt := record.recoverySortAt
  envelope := envelope.modelDump

/-- `_projection_values` -/
def projectionValues (envelope : P0PersistenceEnvelope) (scopeOwner : Option Text) :
    Codec Projection := do
  let decoded ← decodePersistenceRecord library envelope.modelDump envelope.recordCode
  return projectionOf envelope decoded.sourceRecord scopeOwner

/-- The columns of a row up to its scope owner. -/
def sameMetadata (row expected : Projection) : Bool :=
  row.recordCode == expected.recordCode &&
    row.recordSchemaVersion == expected.recordSchemaVersion &&
    row.logicalIdentity.norm == expected.logicalIdentity.norm &&
    row.directOwnerCustomerId == expected.directOwnerCustomerId

/-- The columns of a row after its scope owner. -/
def samePayload (row expected : Projection) : Bool :=
  row.conversationId == expected.conversationId && row.runId == expected.runId &&
    row.taskId == expected.taskId && row.requestUnitId == expected.requestUnitId &&
    row.lifecycleStatus == expected.lifecycleStatus && row.stateVersion == expected.stateVersion &&
    row.attemptCount == expected.attemptCount &&
    row.recoverySortAt.map (·.instant) == expected.recoverySortAt.map (·.instant) &&
    (Json.object row.envelope).norm == (Json.object expected.envelope).norm

/-- Compare a row with its expected columns, one after the other. -/
def requireProjection (row expected : Projection) : Codec Unit := do
  requireIntegrity (sameMetadata row expected) .metadataPayloadMismatch
  requireIntegrity (row.scopeOwnerCustomerId == expected.scopeOwnerCustomerId)
    .ownerProjectionMismatch
  requireIntegrity (samePayload row expected) .metadataPayloadMismatch

/-- Compare a row with the columns that its own envelope and a scope owner give. -/
def validateColumns (scopeOwner : Option Text) (row : P0RecordModel) : Codec Unit := do
  let envelope ← parseEnvelope library row.envelope
  let expected ← projectionValues library envelope scopeOwner
  requireProjection row.toProjection expected

variable (table : RecordTable)

/-- Decode a row and select the targets of its references. -/
def openRow (expectedOwner : Option Text) (row : table.Row) : Codec (List table.Row) := do
  discard (decodeRow library row.1)
  let envelope ← parseEnvelope library row.1.envelope
  envelope.recordReferences.mapM fun reference =>
    orIntegrity .linkProjectionMismatch (table.selectOne fun target =>
      hasIdentity reference.targetRecordCode reference.targetLogicalIdentity.toJson target &&
        inScope expectedOwner target)

theorem row_covered (row : table.Row) : row.1.key ∈ table.rows.map P0RecordModel.key :=
  List.mem_map_of_mem row.2

/-- Every row that a walk from the given one meets. -/
def visitRows (expectedOwner : Option Text) (root : table.Row) : Codec (List table.Row) :=
  GraphWalk.walk (fun row : table.Row => row.1.key) (openRow library table expectedOwner)
    (row_covered table)
    [root] []

/-- `_derive_owner_from_graph` -/
def deriveOwnerFromGraph (expectedOwner : Option Text) (validatePhysicalProjections : Bool)
    (root : table.Row) :
    Codec (Option Text) := do
  let visited ← visitRows library table expectedOwner root
  let envelopes ← visited.mapM fun row => parseEnvelope library row.1.envelope
  let owners := (envelopes.filterMap (·.directOwnerCustomerId)).dedup
  requireIntegrity (decide (owners.length ≤ 1)) .ownerProjectionMismatch
  let derivedOwner := owners.head?
  requireIntegrity (expectedOwner.isNone || derivedOwner == expectedOwner) .ownerProjectionMismatch
  if validatePhysicalProjections then
    visited.forM fun row =>
      validateColumns library (if isPrivate row.1.recordCode then derivedOwner else none) row.1
  return derivedOwner

/-- `_validate_physical_projection` -/
def validatePhysicalProjection (expectedOwner : Option Text) (row : table.Row) :
    Codec DecodedP0PersistenceRecord := do
  let envelope ← parseEnvelope library row.1.envelope
  let derivedOwner ← deriveOwnerFromGraph library table expectedOwner true row
  let expected ← projectionValues library envelope derivedOwner
  requireProjection row.1.toProjection expected
  decodeRow library row.1

/-- `_row_for_identity` -/
def rowForIdentity (code : P0RecordCode) (identity : Json) : Option table.Row :=
  table.selectOne (hasIdentity code identity)

/-- `_row_for_identity` with an owner scope -/
def scopedRowForIdentity (owner : Text) (code : P0RecordCode) (identity : Json) :
    Option table.Row :=
  table.selectOne fun row => hasIdentity code identity row && row.scopeOwnerCustomerId == some owner

/-- `_owner_scoped_row` -/
def ownerScopedRow (owner : Text) (code : P0RecordCode) (identity : Json) :
    Codec (Option table.Row) :=
  match scopedRowForIdentity table owner code identity with
  | none => .ok none
  | some row => do
    discard (validatePhysicalProjection library table (some owner) row)
    return some row

/-- `_load_for_owner` -/
def loadForOwner (owner : Text) (code : P0RecordCode) (identity : Json)
    (expectedType : SourceModel) :
    Codec (Option SourceRecord) := do
  match ← ownerScopedRow library table owner code identity with
  | none => return none
  | some row =>
    let decoded ← decodeRow library row.1
    requireIntegrity (decoded.sourceRecord.sourceModel == expectedType) .sourceModelMismatch
    return some decoded.sourceRecord

/-- `order_by(stored_at, record_id)` -/
def storedOrder (row : P0RecordModel) : ℤ ×ₗ Uuid := toLex (row.storedAt.instant, row.recordId)

/-- The rows of one family that are in an owner's scope and pass a filter. -/
def scopedRows (owner : Text) (code : P0RecordCode) (filter : P0RecordModel → Bool) :
    List table.Row :=
  Keyed.sortByKey (fun row : table.Row => storedOrder row.1) (table.select fun row =>
    row.recordCode == code && row.scopeOwnerCustomerId == some owner && filter row)

/-- Validate a listed row and check the class of its record. -/
def listedRecord (owner : Text) (expectedType : SourceModel) (row : table.Row) :
    Codec SourceRecord := do
  let decoded ← validatePhysicalProjection library table (some owner) row
  requireIntegrity (decoded.sourceRecord.sourceModel == expectedType) .sourceModelMismatch
  return decoded.sourceRecord

/-- `_list_for_owner` -/
def listForOwner (owner : Text) (code : P0RecordCode) (filter : P0RecordModel → Bool)
    (expectedType : SourceModel) :
    Codec (List SourceRecord) :=
  (scopedRows table owner code filter).mapM (listedRecord library table owner expectedType)

/-- `list_messages_for_owner` -/
def listMessagesForOwner (owner : Text) (conversationId : Uuid) (limit : ℕ) :
    Codec (List SourceRecord) :=
  ((scopedRows table owner .messageRecord (·.conversationId == some conversationId)).take
    limit).mapM
    fun row => do return (← validatePhysicalProjection library table (some owner) row).sourceRecord

/-- The terminal pair of a normal turn, which one transaction has stored at one time. -/
def normalTerminalTie (group : List TraceEvent) : Option (List TraceEvent) := do
  let taskChanged ← group.find? (·.eventType == .taskStateChanged)
  let runStopped ← group.find? (·.eventType == .runStopped)
  if group.length == 2 && decide (taskChanged.occurredAt.instant ≤ runStopped.occurredAt.instant) &&
      runStopped.stopReason != some .processRestartDetected then
    return [taskChanged, runStopped]
  else none

/-- `list_trace_events_for_owner` -/
def listTraceEventsForOwner (owner : Text) (runId : Uuid) : Codec (List TraceEvent) := do
  let history ← (scopedRows table owner .traceEventRecord (·.runId == some runId)).mapM
      fun row => do
    let record ← listedRecord library table owner .traceEvent row
    return (row.1.storedAt.instant, record)
  return (history.splitBy fun left right => left.1 == right.1).flatMap fun group =>
    let events := group.filterMap fun entry => entry.2.asTraceEvent
    (normalTerminalTie events).getD events

end Reading

end MiniAgent.Infrastructure
