import MiniAgent.Application.Records
import MiniAgent.Library.Outcome

/-! # The registry of persisted record families

Every family has a schema version, identity fields and a table of projection rules. A rule reads
values out of the dumped record and says what they are: the owner, a reference to another record,
or a correlation that only its cardinality is checked of. The same tables drive encoding and
decoding, so they are written down once, field by field.
-/

namespace MiniAgent.Application

open MiniAgent.Core

inductive P0RecordCode
  | conversationRecord
  | messageRecord
  | requestUnderstandingRecord
  | taskRecord
  | requestUnitRecord
  | conversationTaskLinkRecord
  | runTaskLinkRecord
  | inputBindingRecord
  | modelVisibleToolsetArtifact
  | agentRunRecord
  | gateDecisionRecord
  | toolCallRecord
  | observationRecord
  | contextManifestRecord
  | traceEventRecord
  | evalResultRecord
  | evalExecutionFailureRecord
deriving DecidableEq, Repr

namespace P0RecordCode

def value : P0RecordCode → String
  | conversationRecord => "conversation_record"
  | messageRecord => "message_record"
  | requestUnderstandingRecord => "request_understanding_record"
  | taskRecord => "task_record"
  | requestUnitRecord => "request_unit_record"
  | conversationTaskLinkRecord => "conversation_task_link_record"
  | runTaskLinkRecord => "run_task_link_record"
  | inputBindingRecord => "input_binding_record"
  | modelVisibleToolsetArtifact => "model_visible_toolset_artifact"
  | agentRunRecord => "agent_run_record"
  | gateDecisionRecord => "gate_decision_record"
  | toolCallRecord => "tool_call_record"
  | observationRecord => "observation_record"
  | contextManifestRecord => "context_manifest_record"
  | traceEventRecord => "trace_event_record"
  | evalResultRecord => "eval_result_record"
  | evalExecutionFailureRecord => "eval_execution_failure_record"

def all : List P0RecordCode :=
  [conversationRecord, messageRecord, requestUnderstandingRecord, taskRecord, requestUnitRecord,
    conversationTaskLinkRecord, runTaskLinkRecord, inputBindingRecord, modelVisibleToolsetArtifact,
    agentRunRecord, gateDecisionRecord, toolCallRecord, observationRecord, contextManifestRecord,
    traceEventRecord, evalResultRecord, evalExecutionFailureRecord]

/-- `P0RecordCode(value)` -/
def ofValue (value : String) : Option P0RecordCode := all.find? (·.value == value)

theorem ofValue_value (code : P0RecordCode) : ofValue code.value = some code := by
  cases code <;> decide

end P0RecordCode

inductive P0LogicalChildCode
  | acceptedTaskDelta
  | taskStateTransition
  | toolAttemptRecord
deriving DecidableEq, Repr

namespace P0LogicalChildCode

def value : P0LogicalChildCode → String
  | acceptedTaskDelta => "accepted_task_delta"
  | taskStateTransition => "task_state_transition"
  | toolAttemptRecord => "tool_attempt_record"

def ofValue (value : String) : Option P0LogicalChildCode :=
  [acceptedTaskDelta, taskStateTransition, toolAttemptRecord].find? (·.value == value)

theorem ofValue_value (code : P0LogicalChildCode) : ofValue code.value = some code := by
  cases code <;> decide

end P0LogicalChildCode

/-- The classes a persisted record or logical child can have. -/
inductive SourceModel
  | conversationRecord
  | messageRecord
  | taskRecord
  | requestUnitRecord
  | conversationTaskLinkRecord
  | runTaskLinkRecord
  | inputBinding
  | modelVisibleToolsetArtifact
  | agentRunRecord
  | gateDecision
  | toolCallRecord
  | orderObservation
  | contextManifest
  | traceEvent
  | evalResultRecord
  | evalExecutionFailureRecord
  | requestUnderstandingRecordV2
  | acceptedTaskDeltaV2
  | taskStateTransition
  | toolAttemptRecord
deriving DecidableEq, Repr

/-- A contract model of one of these classes. -/
inductive SourceRecord
  | conversationRecord (record : ConversationRecord)
  | messageRecord (record : MessageRecord)
  | taskRecord (record : TaskRecord)
  | requestUnitRecord (record : RequestUnitRecord)
  | conversationTaskLinkRecord (record : ConversationTaskLinkRecord)
  | runTaskLinkRecord (record : RunTaskLinkRecord)
  | inputBinding (record : InputBinding)
  | modelVisibleToolsetArtifact (record : ModelVisibleToolsetArtifact)
  | agentRunRecord (record : AgentRunRecord)
  | gateDecision (record : GateDecision)
  | toolCallRecord (record : ToolCallRecord)
  | orderObservation (record : OrderObservation)
  | contextManifest (record : ContextManifest)
  | traceEvent (record : TraceEvent)
  | evalResultRecord (record : EvalResultRecord)
  | evalExecutionFailureRecord (record : EvalExecutionFailureRecord)
  | requestUnderstandingRecordV2 (record : RequestUnderstandingRecordV2)
  | acceptedTaskDeltaV2 (record : AcceptedTaskDeltaV2)
  | taskStateTransition (record : TaskStateTransition)
  | toolAttemptRecord (record : ToolAttemptRecord)
deriving DecidableEq, Repr

namespace SourceRecord

/-- `type(record)` -/
def sourceModel : SourceRecord → SourceModel
  | conversationRecord _ => .conversationRecord
  | messageRecord _ => .messageRecord
  | taskRecord _ => .taskRecord
  | requestUnitRecord _ => .requestUnitRecord
  | conversationTaskLinkRecord _ => .conversationTaskLinkRecord
  | runTaskLinkRecord _ => .runTaskLinkRecord
  | inputBinding _ => .inputBinding
  | modelVisibleToolsetArtifact _ => .modelVisibleToolsetArtifact
  | agentRunRecord _ => .agentRunRecord
  | gateDecision _ => .gateDecision
  | toolCallRecord _ => .toolCallRecord
  | orderObservation _ => .orderObservation
  | contextManifest _ => .contextManifest
  | traceEvent _ => .traceEvent
  | evalResultRecord _ => .evalResultRecord
  | evalExecutionFailureRecord _ => .evalExecutionFailureRecord
  | requestUnderstandingRecordV2 _ => .requestUnderstandingRecordV2
  | acceptedTaskDeltaV2 _ => .acceptedTaskDeltaV2
  | taskStateTransition _ => .taskStateTransition
  | toolAttemptRecord _ => .toolAttemptRecord

/-- The version that the record repeats in its own data. -/
def schemaVersion : SourceRecord → Option String
  | conversationRecord record => some record.schemaVersion
  | messageRecord record => some record.schemaVersion
  | conversationTaskLinkRecord record => some record.schemaVersion
  | runTaskLinkRecord record => some record.schemaVersion
  | evalResultRecord record => some record.schemaVersion
  | evalExecutionFailureRecord record => some record.schemaVersion
  | requestUnderstandingRecordV2 record => some record.schemaVersion
  | _ => none

/-- The specialised version check of the toolset artifact. -/
def hasArtifactSchemaVersion : SourceRecord → Bool
  | modelVisibleToolsetArtifact record =>
    record.artifactSchemaVersion == modelVisibleToolsetArtifactSchemaVersion
  | _ => false

def asTaskStateTransition : SourceRecord → Option TaskStateTransition
  | taskStateTransition record => some record
  | _ => none

def asToolAttemptRecord : SourceRecord → Option ToolAttemptRecord
  | toolAttemptRecord record => some record
  | _ => none

def asAcceptedTaskDeltaV2 : SourceRecord → Option AcceptedTaskDeltaV2
  | acceptedTaskDeltaV2 record => some record
  | _ => none

end SourceRecord

inductive P0PersistenceIntegrityCategory
  | missingRecordCode
  | unknownRecordCode
  | recordCodeMismatch
  | missingRecordSchemaVersion
  | unknownRecordSchemaVersion
  | recordSchemaVersionMismatch
  | metadataPayloadMismatch
  | sourceModelMismatch
  | payloadValidationFailed
  | identityMismatch
  | ownerProjectionMismatch
  | linkProjectionMismatch
  | linkCardinalityMismatch
  | childMismatch
  | specializedVersionMismatch
deriving DecidableEq, Repr

/-- An integrity error, or any other exception that leaves the codec. -/
inductive PersistenceFailure
  | integrity (category : P0PersistenceIntegrityCategory)
  | uncaught (exception : String)
deriving DecidableEq, Repr

abbrev Codec := Except PersistenceFailure

/-- `if not condition: _raise_signal(category)` -/
def requireIntegrity (condition : Bool) (category : P0PersistenceIntegrityCategory) : Codec Unit :=
  Except.require condition (.integrity category)

@[simp] theorem requireIntegrity_eq_ok_iff {condition : Bool}
    {category : P0PersistenceIntegrityCategory} {done : Unit} :
    requireIntegrity condition category = .ok done ↔ condition = true :=
  Except.require_eq_ok_iff

/-- The members of a dumped record. -/
abbrev Fields := List (String × Json)

/-- `data[field_name]` -/
def getField (data : Fields) (fieldName : String) : Codec Json :=
  match Json.lookup data fieldName with
  | some value => .ok value
  | none => .error (.uncaught "KeyError")

def asArray : Json → Codec (List Json)
  | .array items => .ok items
  | _ => .error (.uncaught "TypeError")

def asObject : Json → Codec Fields
  | .object fields => .ok fields
  | _ => .error (.uncaught "TypeError")

abbrev ProjectionValues := Fields → Codec (List Json)

def one (fieldName : String) : ProjectionValues := fun data => do return [← getField data fieldName]

def optional (fieldName : String) : ProjectionValues := fun data => do
  let value ← getField data fieldName
  return if value = .null then [] else [value]

def many (fieldName : String) : ProjectionValues := fun data => do
  asArray (← getField data fieldName)

def nestedOptional (parentField childField : String) : ProjectionValues := fun data => do
  let parent ← getField data parentField
  if parent = .null then return []
  return [← getField (← asObject parent) childField]

/-- One field of every item of a list. -/
def fieldOfItems (items : List Json) (childField : String) : Codec (List Json) :=
  items.mapM fun item => do getField (← asObject item) childField

def nestedMany (parentField childField : String) : ProjectionValues := fun data => do
  fieldOfItems (← asArray (← getField data parentField)) childField

def combined (projectors : List ProjectionValues) : ProjectionValues := fun data => do
  return (← projectors.mapM fun projector => projector data).flatten

inductive ProjectionClassification
  | directOwner
  | topLevelP0Reference
  | externalRequiredP0Reference
  | conditionalPayloadCorrelation
  | logicalChildCorrelation
  | parentFieldEquality
  | parentLocalCorrelation
  | childTopLevelP0Reference
  | payloadCorrelation
  | restrictedDiagnosticCorrelation
  | p0FirstSliceMustBeEmpty
deriving DecidableEq, Repr

structure P0ProjectionDecision where
  fieldLabel : String
  classification : ProjectionClassification
  relation : Option String := none
  targetRecordCode : Option P0RecordCode := none
  valueProjector : Option ProjectionValues := none
  minimum : ℕ := 0
  maximum : Option ℕ := none
  unique : Bool := false

/-- The owner field of a family. -/
def ownerRule (fieldName : String) : P0ProjectionDecision where
  fieldLabel := fieldName
  classification := .directOwner
  valueProjector := some (one fieldName)
  minimum := 1
  maximum := some 1

/-- A required reference to another record. -/
def requiredReference (fieldName : String) (target : P0RecordCode) : P0ProjectionDecision where
  fieldLabel := fieldName
  classification := .topLevelP0Reference
  relation := some fieldName
  targetRecordCode := some target
  valueProjector := some (one fieldName)
  minimum := 1
  maximum := some 1

/-- A reference that may be absent. -/
def optionalReference (fieldName : String) (target : P0RecordCode) : P0ProjectionDecision where
  fieldLabel := fieldName ++ "?"
  classification := .topLevelP0Reference
  relation := some fieldName
  targetRecordCode := some target
  valueProjector := some (optional fieldName)
  maximum := some 1

/-- Distinct references, one for each entry of a list field. -/
def referenceList (fieldName relation : String) (target : P0RecordCode) (minimum : ℕ) :
    P0ProjectionDecision where
  fieldLabel := fieldName ++ "[]"
  classification := .topLevelP0Reference
  relation := some relation
  targetRecordCode := some target
  valueProjector := some (many fieldName)
  minimum := minimum
  unique := true

/-- A reference that the caller of the codec has to supply. -/
def externalReference (relation : String) (target : P0RecordCode) : P0ProjectionDecision where
  fieldLabel := "external " ++ relation
  classification := .externalRequiredP0Reference
  relation := some relation
  targetRecordCode := some target
  minimum := 1
  maximum := some 1

/-- Values that stay in the payload; only their number is checked. -/
def correlation (fieldLabel : String) (values : ProjectionValues) (minimum : ℕ) (maximum : Option ℕ)
    (unique : Bool) : P0ProjectionDecision where
  fieldLabel := fieldLabel
  classification := .payloadCorrelation
  valueProjector := some values
  minimum := minimum
  maximum := maximum
  unique := unique

/-- A field that the first slice does not use yet. -/
def mustBeEmpty (fieldLabel : String) (values : ProjectionValues) : P0ProjectionDecision where
  fieldLabel := fieldLabel
  classification := .p0FirstSliceMustBeEmpty
  valueProjector := some values
  maximum := some 0

def resolvedSourceRefs : ProjectionValues := fun data => do
  let contextualization ← asObject (← getField data "contextualization")
  let candidates ← asArray (← getField contextualization "resolved_reference_candidates")
  fieldOfItems candidates "source_ref"

def contextSourceRefs : ProjectionValues := fun data => do
  asArray (← getField (← asObject (← getField data "contextualization")) "source_message_refs")

def inputSourceRefs : ProjectionValues := fun data => do
  let candidates ← asArray (← getField data "task_delta_candidates")
  let sourceRefs ← candidates.mapM fun candidate => do
    fieldOfItems (← asArray (← getField (← asObject candidate) "input_candidates")) "source_ref"
  return sourceRefs.flatten

open P0RecordCode in
/-- The projection table, with the Request Understanding v2 rows in their place. -/
def topLevelProjections : P0RecordCode → List P0ProjectionDecision
  | conversationRecord => [ownerRule "owner_customer_id"]
  | messageRecord => [requiredReference "conversation_id" conversationRecord]
  | taskRecord =>
    [ownerRule "owner_customer_id",
      correlation "last_outcome_ref?" (optional "last_outcome_ref") 0 (some 1) false]
  | requestUnitRecord =>
    [requiredReference "task_id" taskRecord,
      referenceList "goal_source_refs" "goal_source_ref" messageRecord 1,
      correlation "contextualization_ref?" (optional "contextualization_ref") 0 (some 1) false,
      correlation "constraint_refs[]" (many "constraint_refs") 0 none true,
      correlation "dependency_refs[]" (many "dependency_refs") 0 none true,
      referenceList "input_binding_refs" "input_binding_ref" inputBindingRecord 1,
      referenceList "observation_refs" "observation_ref" observationRecord 0,
      mustBeEmpty "evidence_binding_refs[]" (many "evidence_binding_refs"),
      mustBeEmpty "pending_action_ref?" (optional "pending_action_ref"),
      correlation "result_refs[]" (many "result_refs") 0 none true]
  | conversationTaskLinkRecord =>
    [requiredReference "conversation_id" conversationRecord, requiredReference "task_id" taskRecord]
  | runTaskLinkRecord =>
    [requiredReference "run_id" agentRunRecord, requiredReference "task_id" taskRecord]
  | inputBindingRecord =>
    [referenceList "source_refs" "source_ref" messageRecord 1,
      optionalReference "supersedes" inputBindingRecord,
      externalReference "request_unit_id" requestUnitRecord]
  | modelVisibleToolsetArtifact => []
  | agentRunRecord => [optionalReference "conversation_id" conversationRecord]
  | gateDecisionRecord =>
    [requiredReference "context_manifest_id" contextManifestRecord,
      referenceList "argument_binding_refs" "argument_binding_ref" inputBindingRecord 0,
      correlation "model_call_id,provider_tool_call_id?"
        (combined [one "model_call_id", optional "provider_tool_call_id"]) 1 (some 2) false]
  | toolCallRecord =>
    [requiredReference "run_id" agentRunRecord, requiredReference "task_id" taskRecord,
      requiredReference "request_unit_id" requestUnitRecord,
      requiredReference "context_manifest_id" contextManifestRecord,
      requiredReference "gate_decision_id" gateDecisionRecord,
      referenceList "argument_binding_refs" "argument_binding_ref" inputBindingRecord 1,
      correlation "model_call_id,provider_tool_call_id?"
        (combined [one "model_call_id", optional "provider_tool_call_id"]) 1 (some 2) false,
      correlation "result_ref?" (optional "result_ref") 0 (some 1) false]
  | observationRecord =>
    [optionalReference "supersedes" observationRecord,
      externalReference "source_tool_call_id" toolCallRecord,
      externalReference "source_run_id" agentRunRecord,
      externalReference "source_task_id" taskRecord,
      externalReference "source_request_unit_id" requestUnitRecord,
      { fieldLabel := "raw_result_ref?"
        classification := .restrictedDiagnosticCorrelation
        valueProjector := some (optional "raw_result_ref")
        maximum := some 1 },
      correlation "source_resource_ref" (one "source_resource_ref") 1 (some 1) false]
  | contextManifestRecord =>
    [requiredReference "run_id" agentRunRecord,
      referenceList "selected_message_refs" "selected_message_ref" messageRecord 0,
      { fieldLabel := "task_state_ref_and_version?.task_id"
        classification := .topLevelP0Reference
        relation := some "task_state_ref"
        targetRecordCode := some taskRecord
        valueProjector := some (nestedOptional "task_state_ref_and_version" "task_id")
        maximum := some 1 },
      { fieldLabel := "observation_refs_and_versions[].record_ref"
        classification := .topLevelP0Reference
        relation := some "observation_ref"
        targetRecordCode := some observationRecord
        valueProjector := some (nestedMany "observation_refs_and_versions" "record_ref")
        unique := true },
      requiredReference "model_visible_toolset_hash" modelVisibleToolsetArtifact,
      mustBeEmpty "evidence_refs_and_versions[],action_record_refs[]"
        (combined [many "evidence_refs_and_versions", many "action_record_refs"]),
      correlation "model_call_id,truncation_decisions[].source_ref"
        (combined [one "model_call_id", nestedMany "truncation_decisions" "source_ref"]) 1 none
        false]
  | traceEventRecord =>
    [requiredReference "run_id" agentRunRecord, optionalReference "message_ref" messageRecord,
      optionalReference "task_id" taskRecord, optionalReference "request_unit_id" requestUnitRecord,
      optionalReference "input_binding_ref" inputBindingRecord,
      optionalReference "context_manifest_id" contextManifestRecord,
      optionalReference "model_visible_toolset_hash" modelVisibleToolsetArtifact,
      referenceList "argument_binding_refs" "argument_binding_ref" inputBindingRecord 0,
      optionalReference "tool_call_id" toolCallRecord,
      optionalReference "observation_ref" observationRecord,
      { fieldLabel := "accepted_delta_ref?"
        classification := .logicalChildCorrelation
        valueProjector := some (optional "accepted_delta_ref")
        maximum := some 1 },
      correlation "model_call_id?,presentation_plan_ref?,case_id?"
        (combined
          [optional "model_call_id", optional "presentation_plan_ref", optional "case_id"]) 0
        (some 3) false]
  | evalResultRecord =>
    [{ fieldLabel := "trace_ref?"
       classification := .conditionalPayloadCorrelation
       valueProjector := some (optional "trace_ref")
       maximum := some 1 }]
  | evalExecutionFailureRecord =>
    [correlation "trace_ref?" (optional "trace_ref") 0 (some 1) false,
      { fieldLabel := "diagnostic_ref?"
        classification := .restrictedDiagnosticCorrelation
        valueProjector := some (optional "diagnostic_ref")
        maximum := some 1 }]
  | requestUnderstandingRecord =>
    [requiredReference "run_id" agentRunRecord, requiredReference "message_ref" messageRecord,
      { fieldLabel := "contextualization.resolved_reference_candidates[].source_ref"
        classification := .topLevelP0Reference
        relation := some "contextualization_resolved_source_ref"
        targetRecordCode := some messageRecord
        valueProjector := some resolvedSourceRefs },
      { fieldLabel := "contextualization.source_message_refs[]"
        classification := .topLevelP0Reference
        relation := some "contextualization_source_message_ref"
        targetRecordCode := some messageRecord
        valueProjector := some contextSourceRefs
        minimum := 1
        unique := true },
      { fieldLabel := "task_delta_candidates[].input_candidates[].source_ref"
        classification := .topLevelP0Reference
        relation := some "task_delta_input_source_ref"
        targetRecordCode := some messageRecord
        valueProjector := some inputSourceRefs },
      { fieldLabel := "accepted_delta_refs[]"
        classification := .logicalChildCorrelation
        valueProjector := some (many "accepted_delta_refs")
        unique := true },
      { fieldLabel := "candidate_validation[].candidate_ref"
        classification := .parentLocalCorrelation
        valueProjector := some (nestedMany "candidate_validation" "candidate_ref")
        unique := true },
      correlation "next_move_candidate_ref?" (optional "next_move_candidate_ref") 0 (some 1) false]

structure P0RecordSchemaSpec where
  recordCode : P0RecordCode
  recordSchemaVersion : String
  sourceModel : SourceModel
  identityFields : List String
  projectionDecisions : List P0ProjectionDecision
  versionMirrorField : Option String := none
  allowedChildCodes : List P0LogicalChildCode := []
  specializedVersionValidator : Option (SourceRecord → Bool) := none

/-- A family whose version follows from its code. -/
def recordSpec (code : P0RecordCode) (sourceModel : SourceModel) (identityFields : List String) :
    P0RecordSchemaSpec where
  recordCode := code
  recordSchemaVersion := code.value ++ ".p0.v1"
  sourceModel := sourceModel
  identityFields := identityFields
  projectionDecisions := topLevelProjections code

def requestUnderstandingV2Spec : P0RecordSchemaSpec where
  recordCode := .requestUnderstandingRecord
  recordSchemaVersion := "request_understanding_record.p0.v2"
  sourceModel := .requestUnderstandingRecordV2
  identityFields := ["request_understanding_record_id"]
  projectionDecisions := topLevelProjections .requestUnderstandingRecord
  versionMirrorField := some "schema_version"
  allowedChildCodes := [.acceptedTaskDelta]

/-- `P0_PERSISTENCE_REGISTRY`: the sixteen generic families and Request Understanding v2. -/
def persistenceRegistry : P0RecordCode → P0RecordSchemaSpec
  | .conversationRecord =>
    { recordSpec .conversationRecord .conversationRecord ["conversation_id"] with
      versionMirrorField := some "schema_version" }
  | .messageRecord =>
    { recordSpec .messageRecord .messageRecord ["message_id"] with
      versionMirrorField := some "schema_version" }
  | .requestUnderstandingRecord => requestUnderstandingV2Spec
  | .taskRecord =>
    { recordSpec .taskRecord .taskRecord ["task_id"] with
      allowedChildCodes := [.taskStateTransition] }
  | .requestUnitRecord => recordSpec .requestUnitRecord .requestUnitRecord ["request_unit_id"]
  | .conversationTaskLinkRecord =>
    { recordSpec .conversationTaskLinkRecord .conversationTaskLinkRecord
        ["conversation_id", "task_id", "linked_at"] with
      versionMirrorField := some "schema_version" }
  | .runTaskLinkRecord =>
    { recordSpec .runTaskLinkRecord .runTaskLinkRecord ["run_id", "task_id"] with
      versionMirrorField := some "schema_version" }
  | .inputBindingRecord => recordSpec .inputBindingRecord .inputBinding ["binding_id"]
  | .modelVisibleToolsetArtifact =>
    { recordSpec .modelVisibleToolsetArtifact .modelVisibleToolsetArtifact
        ["model_visible_toolset_hash"] with
      specializedVersionValidator := some SourceRecord.hasArtifactSchemaVersion }
  | .agentRunRecord => recordSpec .agentRunRecord .agentRunRecord ["run_id"]
  | .gateDecisionRecord => recordSpec .gateDecisionRecord .gateDecision ["gate_decision_id"]
  | .toolCallRecord =>
    { recordSpec .toolCallRecord .toolCallRecord ["tool_call_id"] with
      allowedChildCodes := [.toolAttemptRecord] }
  | .observationRecord => recordSpec .observationRecord .orderObservation ["observation_id"]
  | .contextManifestRecord =>
    recordSpec .contextManifestRecord .contextManifest ["context_manifest_id"]
  | .traceEventRecord => recordSpec .traceEventRecord .traceEvent ["trace_event_id"]
  | .evalResultRecord =>
    { recordSpec .evalResultRecord .evalResultRecord
        ["eval_run_id", "case_id", "lane", "attempt"] with
      versionMirrorField := some "schema_version" }
  | .evalExecutionFailureRecord =>
    { recordSpec .evalExecutionFailureRecord .evalExecutionFailureRecord
        ["eval_run_id", "lane", "case_id", "attempt", "failure_phase", "safe_error_code",
          "occurred_at"] with
      versionMirrorField := some "schema_version" }

/-- The registry of the generic entry points, which do not serve Request Understanding. -/
def nonRuPersistenceRegistry (code : P0RecordCode) : Option P0RecordSchemaSpec :=
  if code = .requestUnderstandingRecord then none else some (persistenceRegistry code)

structure P0LogicalChildSchemaSpec where
  childCode : P0LogicalChildCode
  sourceModel : SourceModel
  parentRecordCode : P0RecordCode
  identityFields : List String
  projectionDecisions : List P0ProjectionDecision

/-- A reference of a logical child that its parent's envelope repeats. -/
def childReference (fieldName relation : String) (target : P0RecordCode) :
    P0ProjectionDecision where
  fieldLabel := fieldName
  classification := .childTopLevelP0Reference
  relation := some relation
  targetRecordCode := some target
  valueProjector := some (one fieldName)
  minimum := 1
  maximum := some 1

/-- A child field that repeats a field of the parent, or of something inside it. -/
def parentField (fieldName : String) (classification : ProjectionClassification) :
    P0ProjectionDecision where
  fieldLabel := fieldName
  classification := classification
  valueProjector := some (one fieldName)
  minimum := 1
  maximum := some 1

/-- `P0_LOGICAL_CHILD_SPECS` -/
def logicalChildSpecs : P0LogicalChildCode → P0LogicalChildSchemaSpec
  | .acceptedTaskDelta =>
    { childCode := .acceptedTaskDelta
      sourceModel := .acceptedTaskDeltaV2
      parentRecordCode := .requestUnderstandingRecord
      identityFields := ["accepted_delta_id"]
      projectionDecisions :=
        [parentField "candidate_ref" .parentLocalCorrelation,
          parentField "message_ref" .parentFieldEquality,
          { fieldLabel := "input_binding_refs[]"
            classification := .childTopLevelP0Reference
            relation := some "input_binding_ref"
            targetRecordCode := some .inputBindingRecord
            valueProjector := some (many "input_binding_refs")
            minimum := 1
            unique := true },
          childReference "task_id" "accepted_delta_task_id" .taskRecord] }
  | .taskStateTransition =>
    { childCode := .taskStateTransition
      sourceModel := .taskStateTransition
      parentRecordCode := .taskRecord
      identityFields := ["task_id", "request_unit_id", "result_state_version"]
      projectionDecisions :=
        [parentField "task_id" .parentFieldEquality,
          childReference "request_unit_id" "request_unit_id" .requestUnitRecord,
          correlation "reason_ref" (one "reason_ref") 1 (some 1) false] }
  | .toolAttemptRecord =>
    { childCode := .toolAttemptRecord
      sourceModel := .toolAttemptRecord
      parentRecordCode := .toolCallRecord
      identityFields := ["tool_call_id", "attempt_no"]
      projectionDecisions := [parentField "tool_call_id" .parentFieldEquality] }

/-- The child specification that a record's class belongs to. -/
def childSpecOf (child : SourceRecord) : Option P0LogicalChildSchemaSpec :=
  ([.acceptedTaskDelta, .taskStateTransition, .toolAttemptRecord].map logicalChildSpecs).find?
    (·.sourceModel == child.sourceModel)

/-- `_versioned_pair_spec`: the selected family of a code and an exact version. -/
def versionedPairSpec (code : P0RecordCode) (schemaVersion : String) : Codec P0RecordSchemaSpec :=
  if (persistenceRegistry code).recordSchemaVersion = schemaVersion then
    .ok (persistenceRegistry code)
  else if schemaVersion ∈
      P0RecordCode.all.map fun known => (persistenceRegistry known).recordSchemaVersion then
    .error (.integrity .recordSchemaVersionMismatch)
  else .error (.integrity .unknownRecordSchemaVersion)

end MiniAgent.Application
