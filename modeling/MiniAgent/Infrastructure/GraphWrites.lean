import MiniAgent.Infrastructure.RecordWrites
import MiniAgent.Infrastructure.ReorderJson

/-! # Writing Request Understanding and the initial Task graph

The two ports that write a Request Understanding read their roots first: the Conversation, its
Messages and the Run have to stand as the command expects them. A Run has one Request Understanding
and one link, so that any other one is a conflict. The targets are either all new, or all there with
the same content; what is written is read back, and every reference of it has to stay inside what
was read.
-/

namespace MiniAgent.Infrastructure

open MiniAgent.Core MiniAgent.Application

/-- `_RuV2WriteNotApplicable` -/
def ruV2WriteNotApplicable : PersistenceFailure := .uncaught "_RuV2WriteNotApplicable"

/-- `_RuV2WriteProjectionConflict` -/
def ruV2WriteProjectionConflict : PersistenceFailure := .uncaught "_RuV2WriteProjectionConflict"

/-- Go on only as long as nothing conflicts. -/
def requireNoConflict (condition : Bool) : Codec Unit :=
  Except.require condition ruV2WriteProjectionConflict

/-- `_RU_V2_WRITE_VERSION_BY_CODE` -/
def ruV2WriteVersionByCode : P0RecordCode → Option String
  | .conversationRecord => some "conversation_record.p0.v1"
  | .messageRecord => some "message_record.p0.v1"
  | .agentRunRecord => some "agent_run_record.p0.v1"
  | .requestUnderstandingRecord => some "request_understanding_record.p0.v2"
  | .taskRecord => some "task_record.p0.v1"
  | .requestUnitRecord => some "request_unit_record.p0.v1"
  | .inputBindingRecord => some "input_binding_record.p0.v1"
  | .conversationTaskLinkRecord => some "conversation_task_link_record.p0.v1"
  | .runTaskLinkRecord => some "run_task_link_record.p0.v1"
  | _ => none

/-- `_ru_v2_write_version` -/
def ruV2WriteVersion (code : P0RecordCode) : Codec String :=
  orIntegrity .unknownRecordCode (ruV2WriteVersionByCode code)

/-- `_EXACT_RUN_REFERENCE_CAP` -/
def exactRunReferenceCap : ℕ := 64

section Writing

variable (library : ModelLibrary) (stamps : ℕ → RowStamp)

/-- `_exact_run_normalized_references`; reference rows with one ordinal would be refused in any
order. -/
def exactRunNormalizedReferences (row : P0RecordModel) : Codec (List P0RecordReference) := do
  requireIntegrity (decide (row.references.length ≤ exactRunReferenceCap)) .linkCardinalityMismatch
  normalizedReferences library row

/-- One stored object in the order of the dump of the model that it loads as. -/
def reorderedData (model : SourceModel) (data : Fields) : Option Fields := do
  let loaded ← loadData library model data
  readObject (exactRunReorderJsonLike (.object data) (.object (library.modelDump loaded)))

/-- A child payload with its data in the order of its model. -/
def reorderedChild (child : Json) : Option Json := do
  let fields ← readObject child
  let data ← readObject (← Json.lookup fields "data")
  let reordered ← reorderedData library .acceptedTaskDeltaV2 data
  return .object (fields.map fun field => if field.1 = "data" then ("data", .object reordered)
    else field)

/-- The payload of a Request Understanding, with the data of its record and of its children
reordered. -/
def reorderedPayload (payload : Fields) : Option Fields := do
  let data ← readObject (← Json.lookup payload "data")
  let children ← readArray (← Json.lookup payload "logical_children")
  let source ← reorderedData library .requestUnderstandingRecordV2 data
  let reordered ← children.mapM (reorderedChild library)
  return payload.map fun field =>
    if field.1 = "data" then ("data", .object source)
    else if field.1 = "logical_children" then ("logical_children", .array reordered) else field

/-- `_exact_run_versioned_decode_input`: where anything fails to load, the envelope is left as it
is. -/
def exactRunVersionedDecodeInput (row : P0RecordModel) (code : P0RecordCode) : Fields :=
  if code ≠ .requestUnderstandingRecord then row.envelope
  else
    match ((Json.lookup row.envelope "payload").bind readObject).bind
        (reorderedPayload library) with
    | none => row.envelope
    | some payload => row.envelope.map fun field => if field.1 = "payload" then
        ("payload", .object payload) else field

/-- `_ru_v2_write_projection_values` -/
def ruV2WriteProjectionValues (envelope : P0PersistenceEnvelope)
    (decoded : DecodedP0PersistenceRecord) (owner : Text) :
    Codec Projection := do
  let expectedVersion ← ruV2WriteVersion envelope.recordCode
  requireIntegrity (envelope.recordSchemaVersion == expectedVersion &&
    decoded.recordCode == envelope.recordCode &&
    decoded.recordSchemaVersion == expectedVersion) .recordSchemaVersionMismatch
  return projectionOf envelope decoded.sourceRecord (some owner)

/-- `_ru_v2_write_validate_row` -/
def ruV2WriteValidateRow (row : P0RecordModel) (expectedCode : P0RecordCode) (owner : Text) :
    Codec (DecodedP0PersistenceRecord × P0PersistenceEnvelope) := do
  let expectedVersion ← ruV2WriteVersion expectedCode
  requireIntegrity (row.recordCode == expectedCode) .recordCodeMismatch
  requireIntegrity (row.recordSchemaVersion == expectedVersion) .recordSchemaVersionMismatch
  requireIntegrity (row.scopeOwnerCustomerId == some owner) .ownerProjectionMismatch
  let envelope ← parseEnvelope library row.envelope
  let decoded ← decodePersistenceRecordVersioned library
    (.mapping (exactRunVersionedDecodeInput library row expectedCode))
    expectedCode expectedVersion
  let expectedProjection ← ruV2WriteProjectionValues envelope decoded owner
  requireProjection row.toProjection expectedProjection
  let references ← exactRunNormalizedReferences library row
  requireIntegrity (envelope.recordCode == expectedCode &&
    envelope.recordSchemaVersion == expectedVersion &&
    (envelope.directOwnerCustomerId.isNone || envelope.directOwnerCustomerId == some owner) &&
    (referencesJson references).norm ==
      (referencesJson envelope.recordReferences).norm) .linkProjectionMismatch
  return (decoded, envelope)

variable (table : RecordTable)

/-- `_ru_v2_write_metadata_for_run`. Identities of one family have one shape, so that the column is
ordered as their texts are. -/
def ruV2WriteMetadataForRun (code : P0RecordCode) (runId : Uuid) : List table.Row :=
  (Keyed.sortByKey (fun row : table.Row => row.1.logicalIdentity.norm.compact)
      (table.select fun row =>
    row.recordCode == code && row.runId == some runId)).take 2

/-- `_ru_v2_write_check_metadata_rows` -/
def ruV2WriteCheckMetadataRows (rows : List table.Row) (code : P0RecordCode) (owner : Text)
    (allowedIdentity : Option Json) : Codec Unit := do
  rows.forM fun row =>
    requireIntegrity (row.1.scopeOwnerCustomerId == some owner) .ownerProjectionMismatch
  requireNoConflict (decide (rows.length ≤ 1))
  match rows with
  | [] => return ()
  | row :: _ => do
    let expectedVersion ← ruV2WriteVersion code
    if row.1.recordSchemaVersion ≠ expectedVersion then
      requireNoConflict (!(code == .requestUnderstandingRecord &&
        row.1.recordSchemaVersion == "request_understanding_record.p0.v1"))
      .error (.integrity .recordSchemaVersionMismatch)
    requireIntegrity (row.1.recordCode == code && !(row.1.runId.isNone &&
      (code == .requestUnderstandingRecord || code == .runTaskLinkRecord))) .metadataPayloadMismatch
    requireNoConflict (allowedIdentity.any fun identity =>
      row.1.logicalIdentity.norm == identity.norm)

/-- `_ru_v2_write_check_same_run` -/
def ruV2WriteCheckSameRun (runId : Uuid) (owner : Text)
    (allowedRuIdentity allowedRunLinkIdentity : Option Json) :
    Codec Unit :=
  [(P0RecordCode.requestUnderstandingRecord, allowedRuIdentity),
    (.runTaskLinkRecord, allowedRunLinkIdentity)].forM
    fun (code, allowedIdentity) =>
      ruV2WriteCheckMetadataRows table
        (ruV2WriteMetadataForRun table code runId) code owner allowedIdentity

/-- The roots of a write: their codes, their identities and the records that are expected. -/
def ruV2WriteRoots (conversation : ConversationRecord) (messages : List MessageRecord)
    (run : AgentRunRecord) :
    List (P0RecordCode × Json × SourceRecord) :=
  (.conversationRecord, uuidIdentity "conversation_id" conversation.conversationId,
    .conversationRecord conversation) ::
    (messages.map fun message =>
      (.messageRecord, uuidIdentity "message_id" message.messageId, .messageRecord message)) ++
    [(.agentRunRecord, uuidIdentity "run_id" run.runId, .agentRunRecord run)]

/-- Find the row of one root, which has to hold what is expected. -/
def ruV2WriteLockRoot (owner : Text) (root : P0RecordCode × Json × SourceRecord) :
    Codec table.Row := do
  match scopedRowForIdentity table owner root.1 root.2.1 with
  | none => .error ruV2WriteNotApplicable
  | some row => do
    let (decoded, _) ← ruV2WriteValidateRow library row.1 root.1 owner
    requireNoConflict (decoded.sourceRecord == root.2.2 && decoded.logicalChildren.isEmpty)
    return row

/-- `_ru_v2_write_lock_roots` -/
def ruV2WriteLockRoots (owner : Text) (conversation : ConversationRecord)
    (messages : List MessageRecord) (run : AgentRunRecord) : Codec (List table.Row) :=
  (Keyed.sortByKey (fun root => [root.1.value.toList, root.2.1.compact])
    (ruV2WriteRoots conversation messages run)).mapM (ruV2WriteLockRoot library table owner)

/-- A row under the key of its envelope. -/
def ruV2WriteRowKey (row : table.Row) : List Text :=
  [row.1.recordCode.value.toList, row.1.logicalIdentity.compact]

/-- The envelopes of the rows, no two of which have one key. -/
def ruV2WriteClosedEnvelopes (owner : Text) : List (List Text) → List table.Row →
    Codec (List P0PersistenceEnvelope)
  | _, [] => return []
  | entered, row :: rest => do
    discard (ruV2WriteVersion row.1.recordCode)
    let (_, envelope) ← ruV2WriteValidateRow library row.1 row.1.recordCode owner
    requireIntegrity (decide (ruV2WriteRowKey table row ∉ entered)) .linkCardinalityMismatch
    return envelope :: (← ruV2WriteClosedEnvelopes owner
      (ruV2WriteRowKey table row :: entered) rest)

/-- `_ru_v2_write_validate_closed_rows` -/
def ruV2WriteValidateClosedRows (rows : List table.Row) (owner : Text) : Codec Unit := do
  let envelopes ← ruV2WriteClosedEnvelopes library table owner [] rows
  (envelopes.flatMap (·.recordReferences)).forM fun reference => requireIntegrity
    (decide ([reference.targetRecordCode.value.toList,
      reference.targetLogicalIdentity.toJson.compact] ∈
      rows.map (ruV2WriteRowKey table))) .linkProjectionMismatch

/-- Load one target that is there; it has to hold what is to be written. -/
def ruV2WriteTargetRow (owner : Text) (envelope : P0PersistenceEnvelope) : Codec table.Row := do
  let row ← orIntegrity .ownerProjectionMismatch
    (scopedRowForIdentity table owner envelope.recordCode
    envelope.logicalIdentity.toJson)
  let (decoded, persisted) ← ruV2WriteValidateRow library row.1 envelope.recordCode owner
  let version ← ruV2WriteVersion envelope.recordCode
  let desired ← decodePersistenceRecordVersioned library
    (.envelope envelope) envelope.recordCode version
  requireNoConflict (persisted.toJson.norm == envelope.toJson.norm && decoded == desired)
  return row

/-- `_ru_v2_write_target_rows` -/
def ruV2WriteTargetRows (envelopes : List P0PersistenceEnvelope) (owner : Text) :
    Codec (Option (List table.Row)) := do
  let ordered := Keyed.sortByKey envelopeKey envelopes
  ordered.forM fun envelope => ruV2WriteCheckMetadataRows table
    (rowForIdentity table envelope.recordCode envelope.logicalIdentity.toJson).toList
      envelope.recordCode owner
    (some envelope.logicalIdentity.toJson)
  let known := ordered.filter fun envelope =>
    (rowForIdentity table envelope.recordCode envelope.logicalIdentity.toJson).isSome
  if known.isEmpty then return none
  requireNoConflict ((known.map envelopeKey).dedup.length == envelopes.length)
  return some (← ordered.mapM (ruV2WriteTargetRow library table owner))

/-- Insert one target, whose identity has to be new. -/
def ruV2WriteInsertTarget (owner : Text) (table : RecordTable)
    (target : P0PersistenceEnvelope × ℕ) : Codec RecordTable := do
  let version ← ruV2WriteVersion target.1.recordCode
  let decoded ← decodePersistenceRecordVersioned library
    (.envelope target.1) target.1.recordCode version
  let values ← ruV2WriteProjectionValues target.1 decoded owner
  requireNoConflict (!(table.rows.map P0RecordModel.key).contains values.key)
  RecordTable.ofRows
    (table.rows ++ [{ toProjection := values, toRowStamp := stamps target.2, references := [] }])

/-- Flush the references of one target. -/
def ruV2WriteInsertReferences (table : RecordTable) (target : P0PersistenceEnvelope × ℕ) :
    Codec RecordTable :=
  writeReferences table ⟨target.1, target.2, true⟩

/-- Read an inserted target back. -/
def ruV2WriteInsertedRow (table : RecordTable) (owner : Text) (envelope : P0PersistenceEnvelope) :
    Codec table.Row := do
  let row ← orIntegrity .missingRecordCode (scopedRowForIdentity table owner envelope.recordCode
    envelope.logicalIdentity.toJson)
  discard (ruV2WriteValidateRow library row.1 envelope.recordCode owner)
  return row

/-- The targets of a write in the order in which they are inserted. -/
def orderedTargets (envelopes : List P0PersistenceEnvelope) : List (P0PersistenceEnvelope × ℕ) :=
  Keyed.sortByKey (fun target => envelopeKey target.1) envelopes.zipIdx

/-- `_ru_v2_write_insert_targets`, up to the rows that are read back. -/
def ruV2WriteInsertTargets (owner : Text) (envelopes : List P0PersistenceEnvelope) :
    Codec RecordTable := do
  let entered ← (orderedTargets envelopes).foldlM (ruV2WriteInsertTarget library stamps owner) table
  (orderedTargets envelopes).foldlM ruV2WriteInsertReferences entered

/-- What a write of Request Understanding is about. -/
structure RuV2Write where
  ownerScope : TrustedOwnerScope
  conversation : ConversationRecord
  messages : List MessageRecord
  run : AgentRunRecord
  envelopes : List P0PersistenceEnvelope
  expectedRuIdentity : Json
  expectedRunLinkIdentity : Option Json

/-- `_ru_v2_write_apply` -/
def ruV2WriteApply (write : RuV2Write) : Codec RecordTable := do
  let owner := write.ownerScope.customerId.toList
  let roots ← ruV2WriteLockRoots library table owner write.conversation write.messages write.run
  ruV2WriteCheckSameRun table write.run.runId owner
    (some write.expectedRuIdentity) write.expectedRunLinkIdentity
  match ← ruV2WriteTargetRows library table write.envelopes owner with
  | some targets => do
    ruV2WriteValidateClosedRows library table (roots ++ targets) owner
    return table
  | none => do
    let written ← ruV2WriteInsertTargets library stamps table owner write.envelopes
    let inserted ← (Keyed.sortByKey envelopeKey write.envelopes).mapM
      (ruV2WriteInsertedRow library written owner)
    let rereadRoots ← roots.mapM fun root => refreshRow written root.1.recordId
    ruV2WriteValidateClosedRows library written (rereadRoots ++ inserted) owner
    return written

/-- `_ru_v2_write_encode` -/
def ruV2WriteEncode (code : P0RecordCode) (record : SourceRecord)
    (externalReferences : List P0RecordReference := [])
    (logicalChildren : List SourceRecord := []) : Codec P0PersistenceEnvelope := do
  let version ← ruV2WriteVersion code
  let envelope ← encodePersistenceRecordVersioned library code version record externalReferences
    logicalChildren
  let decoded ← decodePersistenceRecordVersioned library (.envelope envelope) code version
  requireIntegrity (decoded.sourceRecord == record && decoded.logicalChildren == logicalChildren)
    .metadataPayloadMismatch
  return envelope

/-- Run a write in its transaction; the two exceptions that it may leave with are answers. -/
def inRuV2Transaction (write : Codec RecordTable) : Codec (RecordTable × ConditionalWriteResult) :=
  boundedDatabaseFailures <|
    match write with
    | .ok written => .ok (written, .applied)
    | .error failure =>
      if failure = ruV2WriteNotApplicable then .ok (table, .notApplicable)
      else if failure = ruV2WriteProjectionConflict then .ok (table, .projectionConflict)
      else .error failure

/-- `save_request_understanding_v2_no_task_if_current` -/
def saveRequestUnderstandingV2NoTaskIfCurrent (command : SaveRequestUnderstandingV2NoTaskCommand) :
    Codec (RecordTable × ConditionalWriteResult) :=
  inRuV2Transaction table <| do
    let envelope ← ruV2WriteEncode library .requestUnderstandingRecord
      (.requestUnderstandingRecordV2 command.requestUnderstandingRecord)
    ruV2WriteApply library stamps table
      { ownerScope := command.ownerScope
        conversation := command.expectedConversationRecord
        messages := command.expectedMessageRecords
        run := command.expectedActiveRunRecord
        envelopes := [envelope]
        expectedRuIdentity := envelope.logicalIdentity.toJson
        expectedRunLinkIdentity := none }

/-- The record, the references and the children of each target of an initial Task graph. -/
def taskGraphTargets (command : CreateInitialTaskGraphV2Command) :
    Codec (List (P0RecordCode × SourceRecord × List P0RecordReference × List SourceRecord)) := do
  let requestUnit : P0RecordReference :=
    { relation := "request_unit_id", targetRecordCode := .requestUnitRecord
      targetLogicalIdentity :=
        ← scalarIdentity [("request_unit_id", uuidJson command.inputBinding.requestUnitId)] }
  return [(.taskRecord, .taskRecord command.initialTask.initialRecord, [], []),
    (.requestUnitRecord, .requestUnitRecord command.initialRequestUnit.initialRecord, [], []),
    (.inputBindingRecord, .inputBinding command.inputBinding.record, [requestUnit], []),
    (.requestUnderstandingRecord,
      .requestUnderstandingRecordV2 command.requestUnderstanding.record, [],
      [.acceptedTaskDeltaV2 command.requestUnderstanding.acceptedDelta]),
    (.conversationTaskLinkRecord, .conversationTaskLinkRecord command.conversationTaskLink, [], []),
    (.runTaskLinkRecord, .runTaskLinkRecord command.runTaskLink.activeRecord, [], [])]

/-- The identity of the first envelope of a family. -/
def identityOfFamily (code : P0RecordCode) (envelopes : List P0PersistenceEnvelope) : Codec Json :=
  match envelopes.find? (·.recordCode == code) with
  | some envelope => .ok envelope.logicalIdentity.toJson
  | none => .error (.uncaught "StopIteration")

/-- `create_initial_task_graph_v2_if_current` -/
def createInitialTaskGraphV2IfCurrent (command : CreateInitialTaskGraphV2Command) :
    Codec (RecordTable × ConditionalWriteResult) :=
  inRuV2Transaction table <| do
    let envelopes ← (← taskGraphTargets command).mapM fun (code, record, externalReferences,
        logicalChildren) =>
      ruV2WriteEncode library code record externalReferences logicalChildren
    let expectedRuIdentity ← identityOfFamily .requestUnderstandingRecord envelopes
    let expectedRunLinkIdentity ← identityOfFamily .runTaskLinkRecord envelopes
    ruV2WriteApply library stamps table
      { ownerScope := command.ownerScope
        conversation := command.expectedConversationRecord
        messages := command.expectedMessageRecords
        run := command.expectedActiveRunRecord
        envelopes := envelopes
        expectedRuIdentity := expectedRuIdentity
        expectedRunLinkIdentity := some expectedRunLinkIdentity }

end Writing

end MiniAgent.Infrastructure
