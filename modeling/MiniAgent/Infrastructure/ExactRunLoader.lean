import MiniAgent.Infrastructure.GraphWrites
import MiniAgent.Infrastructure.RecoveryLoader
import MiniAgent.Infrastructure.SpanRecheck
import MiniAgent.Application.RunEvidence
import MiniAgent.Library.Saturation

/-! # Loading the evidence of exactly one Run

The loader starts from the row of the Run and selects, round by round, what refers to a selected
row, what the columns connect to it and what it refers to, until a round adds nothing. Each family
has a cap. What is selected is decoded in the order of its keys and put together as one closure,
which has to be valid.
-/

namespace MiniAgent.Application.SourceRecord

open MiniAgent.Core

def asMessageRecord : SourceRecord → Option MessageRecord
  | messageRecord record => some record
  | _ => none

def asRequestUnderstandingRecordV2 : SourceRecord → Option RequestUnderstandingRecordV2
  | requestUnderstandingRecordV2 record => some record
  | _ => none

def asInputBinding : SourceRecord → Option InputBinding
  | inputBinding record => some record
  | _ => none

def asGateDecision : SourceRecord → Option GateDecision
  | gateDecision record => some record
  | _ => none

def asOrderObservation : SourceRecord → Option OrderObservation
  | orderObservation record => some record
  | _ => none

def asContextManifest : SourceRecord → Option ContextManifest
  | contextManifest record => some record
  | _ => none

def asModelVisibleToolsetArtifact : SourceRecord → Option ModelVisibleToolsetArtifact
  | modelVisibleToolsetArtifact record => some record
  | _ => none

end MiniAgent.Application.SourceRecord

namespace MiniAgent.Infrastructure

open MiniAgent.Core MiniAgent.Application

/-- `_EXACT_RUN_VERSION_BY_CODE` -/
def exactRunVersionByCode : P0RecordCode → Option String
  | .conversationRecord => some "conversation_record.p0.v1"
  | .messageRecord => some "message_record.p0.v1"
  | .requestUnderstandingRecord => some "request_understanding_record.p0.v2"
  | .taskRecord => some "task_record.p0.v1"
  | .requestUnitRecord => some "request_unit_record.p0.v1"
  | .conversationTaskLinkRecord => some "conversation_task_link_record.p0.v1"
  | .runTaskLinkRecord => some "run_task_link_record.p0.v1"
  | .inputBindingRecord => some "input_binding_record.p0.v1"
  | .modelVisibleToolsetArtifact => some "model_visible_toolset_artifact.p0.v1"
  | .agentRunRecord => some "agent_run_record.p0.v1"
  | .gateDecisionRecord => some "gate_decision_record.p0.v1"
  | .toolCallRecord => some "tool_call_record.p0.v1"
  | .observationRecord => some "observation_record.p0.v1"
  | .contextManifestRecord => some "context_manifest_record.p0.v1"
  | .traceEventRecord => some "trace_event_record.p0.v1"
  | .evalResultRecord | .evalExecutionFailureRecord => none

/-- `_EXACT_RUN_PRIVATE_CODES` -/
def exactRunPrivate (code : P0RecordCode) : Bool :=
  (exactRunVersionByCode code).isSome && code != .modelVisibleToolsetArtifact

/-- `_EXACT_RUN_FAMILY_CAP`; the codes without a version are never looked up. -/
def exactRunFamilyCap : P0RecordCode → ℕ
  | .conversationRecord | .requestUnderstandingRecord | .agentRunRecord | .gateDecisionRecord
      | .toolCallRecord
  | .observationRecord => 1
  | .modelVisibleToolsetArtifact | .contextManifestRecord => 2
  | .messageRecord | .taskRecord | .requestUnitRecord | .conversationTaskLinkRecord
      | .runTaskLinkRecord
  | .inputBindingRecord | .traceEventRecord => 64
  | .evalResultRecord | .evalExecutionFailureRecord => 0

/-- What the caps add up to. -/
def exactRunLimit : ℕ := (P0RecordCode.all.map exactRunFamilyCap).sum

/-- `_EXACT_RUN_RAW_CHILD_CAP` -/
def exactRunRawChildCap : P0RecordCode → Option ℕ
  | .requestUnderstandingRecord | .taskRecord => some 64
  | .toolCallRecord => some 1
  | _ => none

/-- `_EXACT_RUN_PROJECTION_CODES` -/
def exactRunProjectionCodes : List P0RecordCode :=
  [.requestUnderstandingRecord, .taskRecord, .requestUnitRecord, .conversationTaskLinkRecord,
    .runTaskLinkRecord, .agentRunRecord, .toolCallRecord, .contextManifestRecord, .traceEventRecord]

/-- `_EXACT_RUN_FORWARD_RELATIONS` -/
def exactRunForwardRelations : List (P0RecordCode × String × P0RecordCode) :=
  [(.messageRecord, "conversation_id", .conversationRecord),
    (.requestUnderstandingRecord, "run_id", .agentRunRecord),
    (.requestUnderstandingRecord, "message_ref", .messageRecord),
    (.requestUnderstandingRecord, "contextualization_resolved_source_ref", .messageRecord),
    (.requestUnderstandingRecord, "contextualization_source_message_ref", .messageRecord),
    (.requestUnderstandingRecord, "task_delta_input_source_ref", .messageRecord),
    (.requestUnderstandingRecord, "input_binding_ref", .inputBindingRecord),
    (.requestUnderstandingRecord, "accepted_delta_task_id", .taskRecord),
    (.requestUnitRecord, "task_id", .taskRecord),
    (.requestUnitRecord, "goal_source_ref", .messageRecord),
    (.requestUnitRecord, "input_binding_ref", .inputBindingRecord),
    (.requestUnitRecord, "observation_ref", .observationRecord),
    (.conversationTaskLinkRecord, "conversation_id", .conversationRecord),
    (.conversationTaskLinkRecord, "task_id", .taskRecord),
    (.runTaskLinkRecord, "run_id", .agentRunRecord),
    (.runTaskLinkRecord, "task_id", .taskRecord),
    (.inputBindingRecord, "source_ref", .messageRecord),
    (.inputBindingRecord, "supersedes", .inputBindingRecord),
    (.inputBindingRecord, "request_unit_id", .requestUnitRecord),
    (.agentRunRecord, "conversation_id", .conversationRecord),
    (.gateDecisionRecord, "context_manifest_id", .contextManifestRecord),
    (.gateDecisionRecord, "argument_binding_ref", .inputBindingRecord),
    (.toolCallRecord, "run_id", .agentRunRecord),
    (.toolCallRecord, "task_id", .taskRecord),
    (.toolCallRecord, "request_unit_id", .requestUnitRecord),
    (.toolCallRecord, "context_manifest_id", .contextManifestRecord),
    (.toolCallRecord, "gate_decision_id", .gateDecisionRecord),
    (.toolCallRecord, "argument_binding_ref", .inputBindingRecord),
    (.observationRecord, "supersedes", .observationRecord),
    (.observationRecord, "source_tool_call_id", .toolCallRecord),
    (.observationRecord, "source_run_id", .agentRunRecord),
    (.observationRecord, "source_task_id", .taskRecord),
    (.observationRecord, "source_request_unit_id", .requestUnitRecord),
    (.contextManifestRecord, "run_id", .agentRunRecord),
    (.contextManifestRecord, "selected_message_ref", .messageRecord),
    (.contextManifestRecord, "task_state_ref", .taskRecord),
    (.contextManifestRecord, "observation_ref", .observationRecord),
    (.contextManifestRecord, "model_visible_toolset_hash", .modelVisibleToolsetArtifact),
    (.traceEventRecord, "run_id", .agentRunRecord),
    (.traceEventRecord, "message_ref", .messageRecord),
    (.traceEventRecord, "task_id", .taskRecord),
    (.traceEventRecord, "request_unit_id", .requestUnitRecord),
    (.traceEventRecord, "input_binding_ref", .inputBindingRecord),
    (.traceEventRecord, "context_manifest_id", .contextManifestRecord),
    (.traceEventRecord, "model_visible_toolset_hash", .modelVisibleToolsetArtifact),
    (.traceEventRecord, "argument_binding_ref", .inputBindingRecord),
    (.traceEventRecord, "tool_call_id", .toolCallRecord),
    (.traceEventRecord, "observation_ref", .observationRecord),
    (.taskRecord, "request_unit_id", .requestUnitRecord)]

/-- `_EXACT_RUN_REVERSE_RELATIONS` -/
def exactRunReverseRelations : List (P0RecordCode × List (String × P0RecordCode)) :=
  [(.requestUnderstandingRecord,
    [("run_id", .agentRunRecord), ("accepted_delta_task_id", .taskRecord)]), (.requestUnitRecord,
    [("task_id", .taskRecord)]),
    (.conversationTaskLinkRecord, [("task_id", .taskRecord)]),
    (.runTaskLinkRecord, [("run_id", .agentRunRecord), ("task_id", .taskRecord)]),
    (.inputBindingRecord, [("request_unit_id", .requestUnitRecord)]),
    (.gateDecisionRecord, [("context_manifest_id", .contextManifestRecord),
      ("argument_binding_ref", .inputBindingRecord)]),
    (.toolCallRecord, [("run_id", .agentRunRecord), ("task_id", .taskRecord),
      ("request_unit_id", .requestUnitRecord)]),
    (.observationRecord,
      [("source_tool_call_id", .toolCallRecord), ("source_run_id", .agentRunRecord),
        ("source_task_id", .taskRecord), ("source_request_unit_id", .requestUnitRecord)]),
    (.contextManifestRecord, [("run_id", .agentRunRecord), ("task_state_ref", .taskRecord)]),
    (.traceEventRecord, [("run_id", .agentRunRecord), ("task_id", .taskRecord),
      ("request_unit_id", .requestUnitRecord), ("tool_call_id", .toolCallRecord)]),
    (.taskRecord, [("request_unit_id", .requestUnitRecord)])]

/-- What a session reads: a table whose identity column holds JSON. -/
structure Snapshot extends RecordTable where
  nativeIdentities : ∀ row ∈ rows, row.logicalIdentity.isNative = true

/-- The order in which the database gives the rows of a query. -/
structure RowOrder (table : RecordTable) where
  arrange : List table.Row → List table.Row
  perm : ∀ rows, (arrange rows).Perm rows

/-- A key of the selection: a code and the canonical text of an identity. -/
abbrev ExactRunKey := P0RecordCode × Text

/-- `_exact_run_key`; a JSONB column gives the members of equal values in one order, so that they
need no sorting. -/
def exactRunKey (code : P0RecordCode) (identity : Json) : ExactRunKey := (code, identity.compact)

/-- A row that is selected under a key. -/
structure SelectedRow (table : RecordTable) where
  key : ExactRunKey
  row : table.Row

section Selecting

variable (library : ModelLibrary) (table : RecordTable) (order : RowOrder table) (owner : Text)
  (runId : Uuid)

/-- `rows_for_code` -/
def rowsForCode {table : RecordTable} (selected : List (SelectedRow table)) (code : P0RecordCode) :
    List table.Row :=
  (selected.filter fun entry => entry.key.1 == code).map (·.row)

/-- The row of an identity in the scope of the owner. -/
def exactRunRow (code : P0RecordCode) (identity : Json) : Codec table.Row :=
  match (table.select fun row => hasIdentity code identity row &&
    row.scopeOwnerCustomerId == (if exactRunPrivate code then some owner else none)).take 2 with
  | [] => .error (.integrity .linkProjectionMismatch)
  | [row] => .ok row
  | _ => .error (.integrity .linkCardinalityMismatch)

/-- `add_identity` -/
def addIdentity (selected : List (SelectedRow table)) (target : P0RecordCode × Json) :
    Codec (List (SelectedRow table)) := do
  requireIntegrity (exactRunVersionByCode target.1).isSome .linkProjectionMismatch
  let key := exactRunKey target.1 target.2
  if key ∈ selected.map (·.key) then return selected
  requireIntegrity (decide ((rowsForCode selected target.1).length < exactRunFamilyCap target.1))
    .linkCardinalityMismatch
  let row ← exactRunRow table owner target.1 target.2
  return selected ++ [⟨key, row⟩]

/-- Add the identities of the rows that a query for one family gives; one row more than the cap is
noticed. -/
def addFamily (selected : List (SelectedRow table)) (code : P0RecordCode)
    (condition : P0RecordModel → Bool) :
    Codec (List (SelectedRow table)) := do
  let rows := (order.arrange (table.select fun row => row.recordCode == code && condition row)).take
    (exactRunFamilyCap code + 1)
  requireIntegrity (decide (rows.length ≤ exactRunFamilyCap code)) .linkCardinalityMismatch
  rows.foldlM (fun selected row => addIdentity table owner selected (code, row.1.logicalIdentity))
    selected

/-- A reference row along one of the edges to one of the anchors. -/
def refersToAnchor (anchors : List (SelectedRow table)) (edges : List (String × P0RecordCode))
    (row : P0RecordModel) : Bool :=
  row.references.any fun reference => edges.any fun edge =>
    reference.relation == edge.1 && reference.targetRecordCode == edge.2 &&
      (rowsForCode anchors edge.2).any fun anchor =>
        reference.targetLogicalIdentity.norm == anchor.1.logicalIdentity.norm

/-- What refers to the rows that were selected at the start of the round. -/
def addReverse (selected : List (SelectedRow table)) : Codec (List (SelectedRow table)) :=
  exactRunReverseRelations.foldlM (fun later family =>
    addFamily table order owner later family.1 (refersToAnchor table selected family.2)) selected

/-- The identifiers of the selected Tasks. -/
def selectedTaskIds {table : RecordTable} (selected : List (SelectedRow table)) : List Uuid :=
  (rowsForCode selected .taskRecord).filterMap (·.1.taskId)

/-- The identifiers of the selected RequestUnits. -/
def selectedUnitIds {table : RecordTable} (selected : List (SelectedRow table)) : List Uuid :=
  (rowsForCode selected .requestUnitRecord).filterMap (·.1.requestUnitId)

/-- `projection_filters` -/
def isConnected {table : RecordTable} (selected : List (SelectedRow table))
    (row : P0RecordModel) : Bool :=
  row.scopeOwnerCustomerId == some owner &&
    (row.runId == some runId || row.taskId.any (· ∈ selectedTaskIds selected) ||
      row.requestUnitId.any (· ∈ selectedUnitIds selected))

/-- What the columns connect to the Run, the Tasks and the RequestUnits. -/
def addProjections (selected : List (SelectedRow table)) : Codec (List (SelectedRow table)) :=
  exactRunProjectionCodes.foldlM (fun later code =>
    addFamily table order owner later code (isConnected owner runId selected)) selected

/-- What one selected row refers to. -/
def addReferences (selected : List (SelectedRow table)) (source : SelectedRow table) :
    Codec (List (SelectedRow table)) := do
  let references ← exactRunNormalizedReferences library source.row.1
  references.foldlM (fun later reference => do
    requireIntegrity ((source.key.1, reference.relation, reference.targetRecordCode) ∈
      exactRunForwardRelations)
      .linkProjectionMismatch
    addIdentity table owner later (reference.targetRecordCode,
      reference.targetLogicalIdentity.toJson)) selected

/-- One pass of the selection loop. -/
def selectionRound (selected : List (SelectedRow table)) : Codec (List (SelectedRow table)) := do
  let selected ← addReverse table order owner selected
  let selected ← addProjections table order owner runId selected
  selected.foldlM (addReferences library table owner) selected

end Selecting

section Decoding

variable (library : ModelLibrary) (owner : Text)

/-- `_exact_run_raw_child_count` -/
def exactRunRawChildCount (row : P0RecordModel) : Option ℕ :=
  ((((Json.lookup row.envelope "payload").bind readObject).bind
    (Json.lookup · "logical_children")).bind readArray).map
    List.length

/-- `_exact_run_decode_spec`: the version that a row of its family has to have. -/
def exactRunDecodeSpec (row : P0RecordModel) : Codec String := do
  let expectedVersion ← orIntegrity .linkProjectionMismatch (exactRunVersionByCode row.recordCode)
  requireIntegrity (row.recordSchemaVersion == expectedVersion) .recordSchemaVersionMismatch
  requireIntegrity ((exactRunRawChildCap row.recordCode).all fun cap =>
    (exactRunRawChildCount row).all fun count => decide (count ≤ cap)) .linkCardinalityMismatch
  return expectedVersion

/-- Compare a row with its expected columns, one after the other; the envelope is not among them. -/
def exactRunRequireProjection (row expected : Projection) : Codec Unit := do
  requireIntegrity (row.recordCode == expected.recordCode) .metadataPayloadMismatch
  requireIntegrity (row.recordSchemaVersion == expected.recordSchemaVersion)
    .recordSchemaVersionMismatch
  requireIntegrity (row.logicalIdentity.norm == expected.logicalIdentity.norm) .identityMismatch
  requireIntegrity (row.directOwnerCustomerId == expected.directOwnerCustomerId &&
    row.scopeOwnerCustomerId == expected.scopeOwnerCustomerId) .ownerProjectionMismatch
  requireIntegrity (row.conversationId == expected.conversationId && row.runId == expected.runId &&
    row.taskId == expected.taskId && row.requestUnitId == expected.requestUnitId &&
    row.lifecycleStatus == expected.lifecycleStatus && row.stateVersion == expected.stateVersion &&
    row.attemptCount == expected.attemptCount &&
    row.recoverySortAt.map (·.instant) == expected.recoverySortAt.map
      (·.instant)) .metadataPayloadMismatch

/-- `_exact_run_validate_decoded_row` -/
def exactRunValidateDecodedRow (row : P0RecordModel) (version : String)
    (decoded : DecodedP0PersistenceRecord) :
    Codec Unit := do
  let envelope ← parseEnvelope library row.envelope
  let references ← exactRunNormalizedReferences library row
  let expectedScopeOwner := if exactRunPrivate row.recordCode then some owner else none
  requireIntegrity (row.scopeOwnerCustomerId == expectedScopeOwner &&
    envelope.directOwnerCustomerId.all (· == owner)) .ownerProjectionMismatch
  requireIntegrity ((referencesJson references).norm ==
    (referencesJson envelope.recordReferences).norm)
    .linkProjectionMismatch
  exactRunRequireProjection row.toProjection
    { projectionOf envelope decoded.sourceRecord expectedScopeOwner with
      recordCode := row.recordCode
      recordSchemaVersion := version }

/-- Decode a selected row and check its columns and references. -/
def exactRunDecode (row : P0RecordModel) : Codec DecodedP0PersistenceRecord := do
  let version ← exactRunDecodeSpec row
  let decoded ← decodePersistenceRecordVersioned library
    (.mapping (exactRunVersionedDecodeInput library row row.recordCode)) row.recordCode version
  exactRunValidateDecodedRow library owner row version decoded
  return decoded

/-- `exact_source_types` -/
def exactSourceType : P0RecordCode → Option SourceModel
  | .conversationRecord => some .conversationRecord
  | .messageRecord => some .messageRecord
  | .requestUnderstandingRecord => some .requestUnderstandingRecordV2
  | .taskRecord => some .taskRecord
  | .requestUnitRecord => some .requestUnitRecord
  | .conversationTaskLinkRecord => some .conversationTaskLinkRecord
  | .runTaskLinkRecord => some .runTaskLinkRecord
  | .inputBindingRecord => some .inputBinding
  | .modelVisibleToolsetArtifact => some .modelVisibleToolsetArtifact
  | .agentRunRecord => some .agentRunRecord
  | .gateDecisionRecord => some .gateDecision
  | .toolCallRecord => some .toolCallRecord
  | .observationRecord => some .orderObservation
  | .contextManifestRecord => some .contextManifest
  | .traceEventRecord => some .traceEvent
  | .evalResultRecord | .evalExecutionFailureRecord => none

/-- `decoded_by_code` -/
def decodedByCode (decoded : List DecodedP0PersistenceRecord) (code : P0RecordCode) :
    List DecodedP0PersistenceRecord :=
  decoded.filter (·.recordCode == code)

/-- The records of one family, all of one class. -/
def familyOf {α : Type} (decoded : List DecodedP0PersistenceRecord) (code : P0RecordCode)
    (cast? : SourceRecord → Option α) : List α :=
  (decodedByCode decoded code).filterMap (cast? ·.sourceRecord)

/-- The children of one family, all of one class. -/
def childrenOf {α : Type} (decoded : List DecodedP0PersistenceRecord) (code : P0RecordCode)
    (cast? : SourceRecord → Option α) : Codec (List α) :=
  ((decodedByCode decoded code).flatMap (·.logicalChildren)).mapM fun child =>
    orIntegrity .childMismatch (cast? child)

/-- `provenance_candidates` -/
def provenanceCandidates (record : RequestUnderstandingRecordV2) : List SourceSpan :=
  record.contextualization.resolvedReferenceCandidates.map ofResolvedReference ++
    record.taskDeltaCandidates.flatMap fun delta => delta.inputCandidates.map ofInputCandidate

/-- `ExactRunEvidenceClosure(...)`; an unguarded dictionary access of its validator is not
caught. -/
def exactRunClosure (closure : ExactRunEvidenceClosure) : Codec ExactRunEvidenceClosure :=
  if !closure.recordsAreCanonical then .error (.integrity .linkProjectionMismatch)
  else
    match closure.suppliedGraphIsExactAndRootClosed with
    | .ok () => .ok closure
    | .error (.valueError _) => .error (.integrity .linkProjectionMismatch)
    | .error .keyError => .error (.uncaught "KeyError")

/-- Put what is decoded together. -/
def assembleEvidence (decoded : List DecodedP0PersistenceRecord) :
    Codec ExactRunEvidenceClosure := do
  requireIntegrity (decoded.all fun record => exactSourceType record.recordCode ==
    some record.sourceRecord.sourceModel)
    .sourceModelMismatch
  let (conversationRecord, runRecord) ← match familyOf decoded .conversationRecord
      SourceRecord.asConversationRecord,
      familyOf decoded .agentRunRecord SourceRecord.asAgentRunRecord with
    | [conversation], [run] => Except.ok (conversation, run)
    | _, _ => .error (.integrity .linkCardinalityMismatch)
  let understandings :=
    familyOf decoded .requestUnderstandingRecord SourceRecord.asRequestUnderstandingRecordV2
  requireIntegrity (decide (understandings.length ≤ 1)) .linkCardinalityMismatch
  let acceptedTaskDeltas ← childrenOf decoded .requestUnderstandingRecord
    SourceRecord.asAcceptedTaskDeltaV2
  let taskStateTransitions ← childrenOf decoded .taskRecord SourceRecord.asTaskStateTransition
  let toolAttempts ← childrenOf decoded .toolCallRecord SourceRecord.asToolAttemptRecord
  let messageRecords := familyOf decoded .messageRecord SourceRecord.asMessageRecord
  understandings.forM fun record =>
    (provenanceCandidates record).forM (recheckSourceSpan messageRecords)
  exactRunClosure
    { conversationRecord, runRecord, messageRecords, acceptedTaskDeltas, taskStateTransitions,
      toolAttempts
      requestUnderstandingRecord := understandings.head?
      inputBindingRecords := familyOf decoded .inputBindingRecord SourceRecord.asInputBinding
      taskRecords := familyOf decoded .taskRecord SourceRecord.asTaskRecord
      requestUnitRecords := familyOf decoded .requestUnitRecord SourceRecord.asRequestUnitRecord
      conversationTaskLinks :=
        familyOf decoded .conversationTaskLinkRecord SourceRecord.asConversationTaskLinkRecord
      runTaskLinks := familyOf decoded .runTaskLinkRecord SourceRecord.asRunTaskLinkRecord
      gateDecisions := familyOf decoded .gateDecisionRecord SourceRecord.asGateDecision
      toolCalls := familyOf decoded .toolCallRecord SourceRecord.asToolCallRecord
      observationRecords := familyOf decoded .observationRecord SourceRecord.asOrderObservation
      contextManifests := familyOf decoded .contextManifestRecord SourceRecord.asContextManifest
      modelVisibleToolsetArtifacts :=
        familyOf decoded .modelVisibleToolsetArtifact SourceRecord.asModelVisibleToolsetArtifact
      traceEvents := familyOf decoded .traceEventRecord SourceRecord.asTraceEvent }

end Decoding

section Loading

variable (library : ModelLibrary) (table : RecordTable) (order : RowOrder table) (owner : Text)
  (runId : Uuid)

/-- The rows of the Run in the scope of the owner, two at most. -/
def exactRunRoots : List table.Row :=
  (Keyed.sortByKey (fun row : table.Row => row.1.recordId) (table.select fun row =>
    row.recordCode == .agentRunRecord && row.runId == some runId &&
      row.scopeOwnerCustomerId == some owner)).take 2

/-- The row of the Run under its key. -/
def rootEntry {table : RecordTable} (root : table.Row) : SelectedRow table :=
  ⟨exactRunKey .agentRunRecord root.1.logicalIdentity, root⟩

/-- The selection loop, with as many passes as the fuel allows; `none` is a loop that has not ended
by then. -/
def selectRows (fuel : ℕ) (root : table.Row) : Codec (Option (List (SelectedRow table))) :=
  Saturation.saturate (selectionRound library table order owner runId) fuel [rootEntry root]

/-- Selected rows in the order in which they are decoded. -/
def decodeOrder {table : RecordTable} (selected : List (SelectedRow table)) :
    List (SelectedRow table) :=
  Keyed.sortByKey (fun entry => [entry.key.1.value.toList, entry.key.2]) selected

/-- The children of the selected rows of one family, as they are stored. -/
def rawChildTotal {table : RecordTable} (selected : List (SelectedRow table))
    (code : P0RecordCode) : ℕ :=
  ((rowsForCode selected code).map fun row => (exactRunRawChildCount row.1).getD 0).sum

/-- The closure of what has been selected. -/
def evidenceOf {table : RecordTable} (selected : List (SelectedRow table)) :
    Codec ExactRunEvidenceClosure := do
  requireIntegrity (decide (rawChildTotal selected .requestUnderstandingRecord ≤ 64 ∧
    rawChildTotal selected .taskRecord ≤ 64 ∧
    rawChildTotal selected .toolCallRecord ≤ 1)) .linkCardinalityMismatch
  let decoded ← (decodeOrder selected).mapM fun entry => exactRunDecode library owner entry.row.1
  assembleEvidence decoded

/-- `load_exact_run_evidence_for_owner`; the outer `none` is a loop that has not ended. References
are read in one snapshot, so that they are the same each time. -/
def loadExactRunEvidenceForOwner (fuel : ℕ) : Codec (Option (Option ExactRunEvidenceClosure)) := do
  match exactRunRoots table owner runId with
  | [] => return some none
  | [root] =>
    discard (exactRunDecode library owner root.1)
    match ← selectRows library table order owner runId fuel root with
    | none => return none
    | some selected => do
      let closure ← evidenceOf library owner selected
      return some (some closure)
  | _ => .error (.integrity .linkCardinalityMismatch)

end Loading

end MiniAgent.Infrastructure
