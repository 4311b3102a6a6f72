import MiniAgent.Application.Commands
import MiniAgent.Infrastructure.RecordRows

/-! # How envelopes are written

Envelopes are inserted under their identities: one that is new gets a row, and one that is there
must be the same. A row is replaced only where it still holds the expected record. Each write runs
in one transaction, so a failure leaves the table as it was; a session does not flush by itself, so
reference rows that are pending are not seen by its own queries.
-/

namespace MiniAgent.Infrastructure

open MiniAgent.Core MiniAgent.Application

/-- The table with these rows, if they meet its unique constraints. -/
def RecordTable.ofRows (rows : List P0RecordModel) : Codec RecordTable :=
  if unique : (rows.map (·.recordId)).Nodup ∧ (rows.map P0RecordModel.key).Nodup then
    .ok ⟨rows, unique.1, unique.2⟩
  else .error (.uncaught "IntegrityError")

/-- A write that failed is rolled back. -/
def RecordTable.afterTransaction {α : Type} (table : RecordTable) :
    Codec (RecordTable × α) → RecordTable
  | .ok (written, _) => written
  | .error _ => table

/-- The key of the row that an envelope is stored under. -/
def recordKey (envelope : P0PersistenceEnvelope) : RecordKey :=
  (envelope.recordCode, envelope.logicalIdentity.toJson.norm)

/-- `str(value)` of an identifier -/
def uuidText (value : Uuid) : Text :=
  let digits := (List.range 32).map fun place => Json.hexDigit (value / 16 ^ (31 - place) % 16)
  ['-'].intercalate [digits.take 8, (digits.drop 8).take 4, (digits.drop 12).take 4,
    (digits.drop 16).take 4, digits.drop 20]

def uuidJson (value : Uuid) : Json := .string (uuidText value)

/-- An identity of one identifier, as it is stored. -/
def uuidIdentity (fieldName : String) (value : Uuid) : Json :=
  .array [.array [ownText fieldName, uuidJson value]]

/-- `_envelope_key` -/
def envelopeKey (envelope : P0PersistenceEnvelope) : List Text :=
  [envelope.recordCode.value.toList, envelope.logicalIdentity.toJson.compact]

/-- `_reference_model`, for each reference of an envelope. -/
def referenceModels (envelope : P0PersistenceEnvelope) : List P0RecordReferenceModel :=
  envelope.recordReferences.zipIdx.map fun (reference, ordinal) =>
    { ordinal, relation := reference.relation, targetRecordCode := reference.targetRecordCode
      targetLogicalIdentity := reference.targetLogicalIdentity.toJson }

/-- The unique constraint on the references of one source. -/
def referencesAreUnique (references : List P0RecordReferenceModel) : Bool :=
  decide (references.map fun reference =>
    (reference.relation, reference.targetRecordCode, reference.targetLogicalIdentity.norm)).Nodup

/-- An envelope that has been persisted, by its position in the call. -/
structure PersistedEnvelope where
  envelope : P0PersistenceEnvelope
  index : ℕ
  wasInserted : Bool

section Writing

variable (library : ModelLibrary)

/-- `_persist_one_envelope`: insert, and on a conflict of the identities do nothing. -/
def persistOneEnvelope (stamp : RowStamp) (table : RecordTable) (envelope : P0PersistenceEnvelope) :
    Codec (RecordTable × Bool) := do
  let values ← projectionValues library envelope envelope.directOwnerCustomerId
  if values.key ∈ table.rows.map P0RecordModel.key then return (table, false)
  let table ← RecordTable.ofRows
    (table.rows ++ [{ toProjection := values, toRowStamp := stamp, references := [] }])
  return (table, true)

/-- The first loop of `_persist_envelopes`. -/
def persistEach (stamps : ℕ → RowStamp) :
    List (P0PersistenceEnvelope × ℕ) → RecordTable → Codec (RecordTable × List PersistedEnvelope)
  | [], table => return (table, [])
  | (envelope, index) :: rest, table => do
    let (table, wasInserted) ← persistOneEnvelope library (stamps index) table envelope
    let (table, persisted) ← persistEach stamps rest table
    return (table, ⟨envelope, index, wasInserted⟩ :: persisted)

/-- The row of an envelope that has been persisted. -/
def rowOf (table : RecordTable) (envelope : P0PersistenceEnvelope) : Codec table.Row :=
  orIntegrity .missingRecordCode
    (rowForIdentity table envelope.recordCode envelope.logicalIdentity.toJson)

/-- The second loop: what is stored is what was given. The references of a row that this call has
inserted are pending, so that another envelope of its identity finds none. -/
def checkStored (table : RecordTable) (persisted : PersistedEnvelope) : Codec Unit := do
  let row ← rowOf table persisted.envelope
  requireIntegrity ((Json.object row.1.envelope).norm == persisted.envelope.toJson.norm)
    .metadataPayloadMismatch
  if !persisted.wasInserted then
    let references ← normalizedReferences library row.1
    requireIntegrity ((referencesJson references).norm ==
      (referencesJson persisted.envelope.recordReferences).norm)
      .linkProjectionMismatch

/-- Change the row of one envelope. -/
def RecordTable.modify (table : RecordTable) (envelope : P0PersistenceEnvelope)
    (change : P0RecordModel → P0RecordModel) : Codec RecordTable :=
  RecordTable.ofRows (table.rows.map fun row => if row.key = recordKey envelope then change row
    else row)

/-- Flush the pending references of an inserted row. -/
def writeReferences (table : RecordTable) (persisted : PersistedEnvelope) : Codec RecordTable :=
  if persisted.wasInserted then
    if referencesAreUnique (referenceModels persisted.envelope) then
      table.modify persisted.envelope fun row =>
        { row with references := referenceModels persisted.envelope }
    else .error (.uncaught "IntegrityError")
  else .ok table

/-- The third loop: the derived owner becomes the scope of an inserted row and is that of any
other. -/
def settleOwner (table : RecordTable) (persisted : PersistedEnvelope) : Codec RecordTable := do
  let row ← rowOf table persisted.envelope
  let derivedOwner ← deriveOwnerFromGraph library table none false row
  requireIntegrity (!(isPrivate persisted.envelope.recordCode && derivedOwner.isNone))
    .ownerProjectionMismatch
  if persisted.wasInserted then
    table.modify persisted.envelope fun row => { row with scopeOwnerCustomerId := derivedOwner }
  else do
    requireIntegrity (row.1.scopeOwnerCustomerId == derivedOwner) .ownerProjectionMismatch
    return table

/-- The fourth loop. -/
def validatePersisted (table : RecordTable) (persisted : PersistedEnvelope) : Codec Unit := do
  discard (validatePhysicalProjection library table none (← rowOf table persisted.envelope))

/-- `_persist_envelopes`, with the stamps that the database gives to the rows. The answer tells for
each envelope whether it was inserted. -/
def persistEnvelopes (stamps : ℕ → RowStamp) (table : RecordTable)
    (envelopes : List P0PersistenceEnvelope) :
    Codec (RecordTable × List Bool) := do
  let ordered := Keyed.sortByKey (fun item => envelopeKey item.1) envelopes.zipIdx
  let (table, persisted) ← persistEach library stamps ordered table
  persisted.forM (checkStored library table)
  let table ← persisted.foldlM writeReferences table
  let table ← persisted.foldlM (settleOwner library) table
  persisted.forM (validatePersisted library table)
  return (table, (List.range envelopes.length).map fun index =>
    persisted.any fun entry => entry.index == index && entry.wasInserted)

/-- `_replace_row_envelope`; no table stands for `False`. The row has just been read in the same
transaction, so the update meets it as it was. -/
def replaceRowEnvelope (table : RecordTable) (row : table.Row) (expectedRecord : SourceRecord)
    (expectedChildren : List SourceRecord) (nextEnvelope : P0PersistenceEnvelope) :
    Codec (Option RecordTable) := do
  let decoded ← validatePhysicalProjection library table none row
  if decoded.sourceRecord != expectedRecord || decoded.logicalChildren != expectedChildren then
    return none
  let nextValues ← projectionValues library nextEnvelope row.1.scopeOwnerCustomerId
  if !referencesAreUnique (referenceModels nextEnvelope) then .error (.uncaught "IntegrityError")
  let nextTable ← RecordTable.ofRows (table.rows.map fun other =>
    if other.recordId = row.1.recordId then
      { toProjection := nextValues, toRowStamp := other.toRowStamp,
        references := referenceModels nextEnvelope }
    else other)
  let nextRow ← rowOf nextTable nextEnvelope
  discard (validatePhysicalProjection library nextTable row.1.scopeOwnerCustomerId nextRow)
  return some nextTable

/-- `encode_persistence_record`, which does not serve Request Understanding. -/
def encodePersistenceRecord (code : P0RecordCode) (record : SourceRecord)
    (externalReferences : List P0RecordReference := [])
    (logicalChildren : List SourceRecord := []) :
    Codec P0PersistenceEnvelope :=
  buildEnvelope library code record externalReferences logicalChildren

def insertOnlyWriteResult (inserted : List Bool) : InsertOnlyWriteResult :=
  if inserted = [true] then .inserted else .alreadyExists

variable (stamps : ℕ → RowStamp) (table : RecordTable)

/-- `insert_run` -/
def insertRun (command : CreateRunCommand) : Codec (RecordTable × InsertOnlyWriteResult) := do
  let envelope ← encodePersistenceRecord library .agentRunRecord
    (.agentRunRecord command.createdRecord)
  let (table, inserted) ← persistEnvelopes library stamps table [envelope]
  return (table, insertOnlyWriteResult inserted)

/-- `insert_tool_call`, for a Run that is RUNNING. -/
def insertToolCall (command : CreateToolCallCommand) :
    Codec (RecordTable × InsertOnlyWriteResult) := do
  let record := command.createdRecord
  let envelope ← encodePersistenceRecord library .toolCallRecord (.toolCallRecord record)
  let runRow ← orIntegrity
    .linkProjectionMismatch
      (rowForIdentity table .agentRunRecord (uuidIdentity "run_id" record.runId))
  let decodedRun ← validatePhysicalProjection library table none runRow
  requireIntegrity (match decodedRun.sourceRecord with
    | .agentRunRecord run => run.runId == record.runId && run.status == .running
    | _ => false) .linkProjectionMismatch
  let (table, inserted) ← persistEnvelopes library stamps table [envelope]
  return (table, insertOnlyWriteResult inserted)

/-- The envelope of an observation, which refers to its source and to what the source belongs to. -/
def observationEnvelope (command : SaveObservationCommand) : Codec P0PersistenceEnvelope := do
  let source := command.sourceToolCallRecord
  let references ←
    [("source_tool_call_id", P0RecordCode.toolCallRecord, "tool_call_id", source.toolCallId),
      ("source_run_id", .agentRunRecord, "run_id", source.runId),
      ("source_task_id", .taskRecord, "task_id", source.taskId),
      ("source_request_unit_id", .requestUnitRecord, "request_unit_id", source.requestUnitId)].mapM
    fun (relation, code, fieldName, value) => do
      return {
        relation
        targetRecordCode := code
        targetLogicalIdentity := ← scalarIdentity [(fieldName, uuidJson value)] }
  encodePersistenceRecord library .observationRecord
    (.orderObservation command.observationRecord) references

/-- `save_observation`, for a source that is as expected. -/
def saveObservation
    (command : SaveObservationCommand) : Codec (RecordTable × ObservationWriteResult) := do
  let source := command.sourceToolCallRecord
  let envelope ← observationEnvelope library command
  match scopedRowForIdentity table command.ownerScope.customerId.toList .toolCallRecord
      (uuidIdentity "tool_call_id" source.toolCallId) with
  | none => return (table, .sourceProjectionConflict)
  | some sourceRow =>
    let decoded ← validatePhysicalProjection library table
      (some command.ownerScope.customerId.toList) sourceRow
    if decoded.sourceRecord != .toolCallRecord source then return (table, .sourceProjectionConflict)
    let (table, inserted) ← persistEnvelopes library stamps table [envelope]
    return (table, if inserted = [true] then .inserted else .alreadyApplied)

/-- `append_trace_event` -/
def appendTraceEvent (record : TraceEvent) : Codec (RecordTable × Unit) := do
  let envelope ← encodePersistenceRecord library .traceEventRecord (.traceEvent record)
  let (table, _) ← persistEnvelopes library stamps table [envelope]
  return (table, ())

/-- `append_eval_result` -/
def appendEvalResult (record : EvalResultRecord) : Codec (RecordTable × InsertOnlyWriteResult) := do
  let envelope ← encodePersistenceRecord library .evalResultRecord (.evalResultRecord record)
  let (table, inserted) ← persistEnvelopes library stamps table [envelope]
  return (table, insertOnlyWriteResult inserted)

end Writing

end MiniAgent.Infrastructure
