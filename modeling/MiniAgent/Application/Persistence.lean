import MiniAgent.Application.PersistenceEnvelope
import MiniAgent.Library.Keyed
import Mathlib.Data.Char
import Mathlib.Data.List.Lex
import Mathlib.Data.List.Sort

/-! # Encoding records as envelopes

Encoding re-validates the record, projects its owner and its references by the rules of its family,
arranges its logical children in their canonical order and sorts all references by key. Request
Understanding has its own children and collapses repeated references; the sixteen generic families
refuse them.

What pydantic does with a model is a parameter: its dump, its strict validation, the strict
validation of one field and its JSON text.
-/

namespace MiniAgent.Application

open MiniAgent.Core

/-- The model library that the codec calls. -/
structure ModelLibrary where
  /-- `record.model_dump(mode="json")` -/
  modelDump : SourceRecord → Fields
  /-- `model.model_validate_json(text, strict=True)`, on the value that the text spells -/
  modelValidate : SourceModel → Json → Option SourceRecord
  /-- One field's `TypeAdapter`: strict validation and dump of the validated value. -/
  fieldDump : SourceModel → String → Json → Option Json
  /-- The JSON text of a dumped value. -/
  writeText : Json → Text
  /-- The value that a JSON text spells. -/
  readText : Text → Option Json

section Encoding

variable (library : ModelLibrary)

/-- Dump a record to JSON text and validate the text strictly. -/
def reload (model : SourceModel) (record : SourceRecord) : Option SourceRecord :=
  (library.readText (library.writeText (.object (library.modelDump record)))).bind
    (library.modelValidate model)

/-- A computation that reports one integrity category when it has no value. -/
def orIntegrity {α : Type} (category : P0PersistenceIntegrityCategory) : Option α → Codec α
  | some value => .ok value
  | none => .error (.integrity category)

/-- The runtime state that an exact comparison looks at: a frozen JSON dictionary is a tuple that
iterates over its keys, so of a tool's schemas only the keys are compared. -/
def SourceRecord.comparedState : SourceRecord → SourceRecord
  | .modelVisibleToolsetArtifact artifact => .modelVisibleToolsetArtifact
    { artifact with
      providerVisibleToolSpecs := artifact.providerVisibleToolSpecs.map fun tool =>
        { tool with
          inputSchema := tool.inputSchema.map fun member => (member.1, .null)
          outputSchema := tool.outputSchema.map fun member => (member.1, .null) } }
  | record => record

/-- `_versioned_runtime_values_match_exactly` -/
def runtimeValuesMatchExactly (left right : SourceRecord) : Bool :=
  left.comparedState == right.comparedState

/-- `_strict_versioned_model` -/
def strictVersionedModel (value : SourceRecord) (model : SourceModel)
    (failureCategory : P0PersistenceIntegrityCategory) : Codec SourceRecord := do
  requireIntegrity (value.sourceModel == model) failureCategory
  let rebuilt ← orIntegrity failureCategory (reload library model value)
  requireIntegrity (runtimeValuesMatchExactly value rebuilt) failureCategory
  return rebuilt

/-- The version that the record mirrors is the version of its family. -/
def mirrorsVersion (spec : P0RecordSchemaSpec) (record : SourceRecord) : Bool :=
  spec.versionMirrorField.isNone || record.schemaVersion == some spec.recordSchemaVersion

/-- The specialised version check of a family, if it has one. -/
def passesSpecializedValidator (spec : P0RecordSchemaSpec) (record : SourceRecord) : Bool :=
  spec.specializedVersionValidator.elim true fun validator => validator record

/-- `_strict_record` -/
def strictRecord (spec : P0RecordSchemaSpec) (record : SourceRecord) : Codec SourceRecord := do
  requireIntegrity (record.sourceModel == spec.sourceModel) .sourceModelMismatch
  requireIntegrity (passesSpecializedValidator spec record) .specializedVersionMismatch
  let validated ← orIntegrity .payloadValidationFailed (reload library spec.sourceModel record)
  requireIntegrity (mirrorsVersion spec validated) .recordSchemaVersionMismatch
  return validated

/-- `_strict_selected_versioned_record` -/
def strictSelectedVersionedRecord (spec : P0RecordSchemaSpec) (record : SourceRecord) :
    Codec SourceRecord := do
  requireIntegrity (record.sourceModel == spec.sourceModel) .sourceModelMismatch
  requireIntegrity (mirrorsVersion spec record) .recordSchemaVersionMismatch
  requireIntegrity (passesSpecializedValidator spec record) .specializedVersionMismatch
  strictVersionedModel library record spec.sourceModel .payloadValidationFailed

/-- `_strict_request_understanding_v2` -/
def strictRequestUnderstandingV2 (record : SourceRecord) : Codec SourceRecord :=
  strictSelectedVersionedRecord library requestUnderstandingV2Spec record

/-- The child specification that the family allows for a child of this class. -/
def allowedChildSpec (spec : P0RecordSchemaSpec) (child : SourceRecord) :
    Option P0LogicalChildSchemaSpec :=
  (spec.allowedChildCodes.map logicalChildSpecs).find? (·.sourceModel == child.sourceModel)

def strictSelectedVersionedChild (spec : P0RecordSchemaSpec) (child : SourceRecord) :
    Codec SourceRecord := do
  let childSpec ← orIntegrity .childMismatch (allowedChildSpec spec child)
  strictVersionedModel library child childSpec.sourceModel .childMismatch

/-- `_strict_selected_versioned_children` -/
def strictSelectedVersionedChildren (spec : P0RecordSchemaSpec)
    (logicalChildren : List SourceRecord) :
    Codec (List SourceRecord) :=
  logicalChildren.mapM (strictSelectedVersionedChild library spec)

/-- `_logical_identity` -/
def logicalIdentity (record : SourceRecord) (identityFields : List String) : Codec Fields :=
  identityFields.mapM fun fieldName => do
    return (fieldName, ← getField (library.modelDump record) fieldName)

/-- `_projected_values` -/
def projectedValues (rule : P0ProjectionDecision) (data : Fields) : Codec (List Json) :=
  match rule.valueProjector with
  | none => .ok []
  | some projector => do
    let values ← projector data
    requireIntegrity (rule.minimum ≤ values.length && rule.maximum.all (values.length ≤ ·))
      .linkCardinalityMismatch
    requireIntegrity (!rule.unique || allDistinct (values.map Json.dumps)) .linkCardinalityMismatch
    return values

/-- `_reference_for_value` -/
def referenceForValue (rule : P0ProjectionDecision) (value : Json) : Codec P0RecordReference :=
  match rule.relation, rule.targetRecordCode with
  | some relation, some code =>
    match nonRuPersistenceRegistry code with
    | none => .error (.uncaught "KeyError")
    | some targetSpec =>
      match targetSpec.identityFields with
      | [identityField] => do
        return ⟨relation, code, ← scalarIdentity [(identityField, value)]⟩
      | _ => .error (.integrity .linkProjectionMismatch)
  | _, _ => .error (.integrity .linkProjectionMismatch)

/-- `_reference_key`: relation, target code and the text of the target identity, in this order. -/
def referenceKey (reference : P0RecordReference) : List Text :=
  [reference.relation.toList, reference.targetRecordCode.value.toList,
    reference.targetLogicalIdentity.toJson.compact]

/-- `_strict_reference` -/
def strictReference (reference : P0RecordReference) : Codec P0RecordReference :=
  orIntegrity .linkProjectionMismatch
    ((library.readText (library.writeText reference.toJson)).bind readReference)

/-- The references entered so far, each under its key. -/
def collectReferences (collapseDuplicates : Bool) :
    List P0RecordReference → List P0RecordReference → Codec (List P0RecordReference)
  | entered, [] => .ok entered
  | entered, reference :: rest => do
    let canonical ← strictReference library reference
    requireIntegrity (collapseDuplicates ||
      !(entered.map referenceKey).contains (referenceKey canonical))
      .linkCardinalityMismatch
    collectReferences collapseDuplicates (entered ++ [canonical]) rest

/-- `_normalize_references` -/
def normalizeReferences (collapseDuplicates : Bool) (references : List P0RecordReference) :
    Codec (List P0RecordReference) := do
  let entered ← collectReferences library collapseDuplicates [] references
  return Keyed.sortByKey referenceKey (Keyed.dictValues referenceKey entered)

/-- `_canonical_target_identity` -/
def canonicalTargetIdentity (reference : P0RecordReference) (targetSpec : P0RecordSchemaSpec) :
    Codec P0RecordReference := do
  let canonicalIdentity ← reference.targetLogicalIdentity.mapM fun entry => do
    let rawValue := entry.2.1.compact
    let validated ← orIntegrity .linkProjectionMismatch
      ((library.readText rawValue).bind (library.fieldDump targetSpec.sourceModel entry.1))
    let canonicalRaw := library.writeText validated
    let canonicalValue ← orIntegrity .linkProjectionMismatch (Json.loads canonicalRaw)
    requireIntegrity (rawValue == canonicalRaw) .linkProjectionMismatch
    return (entry.1, canonicalValue)
  return ⟨reference.relation, reference.targetRecordCode, ← scalarIdentity canonicalIdentity⟩

/-- The rules whose references the caller has to supply. -/
def externalRules (spec : P0RecordSchemaSpec) : List P0ProjectionDecision :=
  spec.projectionDecisions.filter (·.classification == .externalRequiredP0Reference)

/-- The one reference that an external rule accepts. -/
def acceptExternalReference (normalized : List P0RecordReference) (rule : P0ProjectionDecision) :
    Codec P0RecordReference :=
  match normalized.filter fun reference => some reference.relation == rule.relation with
  | [reference] => do
    requireIntegrity (some reference.targetRecordCode == rule.targetRecordCode)
      .linkProjectionMismatch
    match nonRuPersistenceRegistry reference.targetRecordCode with
    | none => .error (.uncaught "KeyError")
    | some targetSpec =>
      requireIntegrity (reference.targetLogicalIdentity.map (·.1) == targetSpec.identityFields)
        .linkProjectionMismatch
      canonicalTargetIdentity library reference targetSpec
  | _ => .error (.integrity .linkCardinalityMismatch)

/-- `_validate_external_references` -/
def validateExternalReferences (spec : P0RecordSchemaSpec)
    (externalReferences : List P0RecordReference) :
    Codec (List P0RecordReference) := do
  let normalized ← normalizeReferences library false externalReferences
  requireIntegrity (normalized.length == (externalRules spec).length) .linkCardinalityMismatch
  (externalRules spec).mapM (acceptExternalReference library normalized)

/-- What one rule contributes: the owner, or references. -/
def projectRule (data : Fields) (rule : P0ProjectionDecision) :
    Codec (Option Text × List P0RecordReference) := do
  let values ← projectedValues rule data
  match rule.classification with
  | .directOwner =>
    match values with
    | [.string owner] => return (some owner, [])
    | _ => .error (.integrity .ownerProjectionMismatch)
  | .topLevelP0Reference => return (none, ← values.mapM (referenceForValue rule))
  | .p0FirstSliceMustBeEmpty => do
    requireIntegrity values.isEmpty .linkCardinalityMismatch
    return (none, [])
  | _ => return (none, [])

/-- `_top_level_projection`, and with `collapse` its versioned form. -/
def topLevelProjection (collapse : Bool) (spec : P0RecordSchemaSpec) (record : SourceRecord) :
    Codec (Option Text × List P0RecordReference) := do
  let projected ← spec.projectionDecisions.mapM (projectRule (library.modelDump record))
  return ((projected.filterMap (·.1)).getLast?,
    ← normalizeReferences library collapse (projected.flatMap (·.2)))

/-- The references of one child that its parent's envelope repeats. -/
def childReferences (childSpec : P0LogicalChildSchemaSpec) (data : Fields) :
    Codec (List P0RecordReference) := do
  let projected ← childSpec.projectionDecisions.mapM fun rule => do
    let values ← projectedValues rule data
    if rule.classification = .childTopLevelP0Reference then values.mapM (referenceForValue rule)
    else return []
  return projected.flatten

/-- The payload of one child, with its references. -/
def childPayload (parentCode : P0RecordCode) (parentIdentity : Fields)
    (child : P0LogicalChildSchemaSpec × SourceRecord) :
    Codec (P0LogicalChildPayload × List P0RecordReference) := do
  let data := library.modelDump child.2
  let references ← childReferences child.1 data
  let identity ← logicalIdentity library child.2 child.1.identityFields
  return ({
    data := data
    childCode := child.1.childCode
    parentRecordCode := parentCode
    parentLogicalIdentity := ← scalarIdentity parentIdentity
    logicalIdentity := ← scalarIdentity identity }, references)

/-- Payloads of arranged children, with their collapsed references. -/
def arrangedPayloads (parentCode : P0RecordCode) (parentIdentity : Fields)
    (children : List (P0LogicalChildSchemaSpec × SourceRecord)) :
    Codec (List P0LogicalChildPayload × List P0RecordReference) := do
  let payloads ← children.mapM (childPayload library parentCode parentIdentity)
  return (payloads.map (·.1), ← normalizeReferences library true (payloads.flatMap (·.2)))

/-- What the children of one parent are sorted by. -/
def childOrderKey : SourceRecord → List ℕ
  | .taskStateTransition transition => [transition.resultStateVersion, transition.requestUnitId]
  | .toolAttemptRecord attempt => [attempt.attemptNo]
  | .acceptedTaskDeltaV2 child => [child.acceptedDeltaId]
  | _ => []

/-- Transitions of one Task, with distinct identities and distinct result versions. -/
def transitionsMatch (parent : TaskRecord) (children : List TaskStateTransition) : Bool :=
  allDistinct (children.map fun child =>
    (child.taskId, child.requestUnitId, child.resultStateVersion)) &&
    allDistinct (children.map (·.resultStateVersion)) && children.all (·.taskId == parent.taskId)

/-- The attempts of one ToolCall, numbered `1..attempt_count`. -/
def attemptsMatch (parent : ToolCallRecord) (children : List ToolAttemptRecord) : Bool :=
  children.all (·.toolCallId == parent.toolCallId) &&
    (children.map (·.attemptNo)).insertionSort (· ≤ ·) == List.range' 1 parent.attemptCount &&
    allDistinct (children.map (·.attemptNo))

/-- The children fit their parent, each by the rule of the parent's family. -/
def childrenMatch (parent : SourceRecord) (children : List SourceRecord) : Bool :=
  match parent with
  | .taskRecord task => transitionsMatch task (children.filterMap (·.asTaskStateTransition))
  | .toolCallRecord call => attemptsMatch call (children.filterMap (·.asToolAttemptRecord))
  | _ => true

/-- A child of a class that the parent's family allows, validated again. -/
def checkedChild (parentSpec : P0RecordSchemaSpec) (child : SourceRecord) :
    Codec (P0LogicalChildSchemaSpec × SourceRecord) := do
  let childSpec ← orIntegrity .childMismatch (childSpecOf child)
  requireIntegrity (childSpec.childCode ∈ parentSpec.allowedChildCodes &&
    childSpec.parentRecordCode == parentSpec.recordCode) .childMismatch
  return (childSpec, ← orIntegrity .childMismatch (reload library childSpec.sourceModel child))

/-- `_child_payloads` -/
def childPayloads (parentSpec : P0RecordSchemaSpec) (parentRecord : SourceRecord)
    (parentIdentity : Fields) (logicalChildren : List SourceRecord) :
    Codec (List P0LogicalChildPayload × List P0RecordReference) := do
  let validated ← logicalChildren.mapM (checkedChild library parentSpec)
  requireIntegrity (!parentSpec.allowedChildCodes.isEmpty || validated.isEmpty) .childMismatch
  requireIntegrity (childrenMatch parentRecord (validated.map (·.2))) .childMismatch
  arrangedPayloads library parentSpec.recordCode parentIdentity
    (Keyed.sortByKey (fun child => childOrderKey child.2) validated)

/-- The candidates that the record's own validation accepted. -/
def acceptedCandidateIds (parent : RequestUnderstandingRecordV2) : List Uuid :=
  (parent.candidateValidation.filter (·.decision == .accept)).map (·.candidateRef)

/-- Candidates, decisions, accepted references and children name each other exactly. -/
def acceptedChildrenMatch (parent : RequestUnderstandingRecordV2)
    (children : List AcceptedTaskDeltaV2) : Bool :=
  let candidateOrder := parent.taskDeltaCandidates.map (·.candidateId)
  let decided := parent.candidateValidation.map (·.candidateRef)
  let accepted := acceptedCandidateIds parent
  allDistinct candidateOrder && (allDistinct decided && sameSet decided candidateOrder) &&
    (allDistinct (children.map (·.candidateRef)) &&
      sameSet (children.map (·.candidateRef)) accepted &&
      !(children.any fun child => child.candidateRef ∈ candidateOrder &&
        child.candidateRef ∉ accepted) &&
      allDistinct (children.map (·.acceptedDeltaId)) &&
      allDistinct (children.map fun child => (child.acceptedDeltaId, child.taskId)) &&
      allDistinct parent.acceptedDeltaRefs &&
      sameSet parent.acceptedDeltaRefs (children.map (·.acceptedDeltaId)))

/-- One accepted child repeats its candidate, and its versions follow the Task's last result. -/
def acceptedChildFollows (parent : RequestUnderstandingRecordV2)
    (previousResultByTask : List (Uuid × ℕ)) (candidate : DurableTaskDeltaCandidateV2)
    (child : AcceptedTaskDeltaV2) : Bool :=
  child.operation == candidate.operation && child.goalText == candidate.goalPatch &&
    child.messageRef == parent.messageRef && child.acceptedAt.instant == parent.createdAt.instant &&
    match previousResultByTask.find? (·.1 == child.taskId) with
    | none => child.baseTaskStateVersion.all fun base => child.resultTaskStateVersion == base + 1
    | some previous =>
      child.baseTaskStateVersion == some previous.2 &&
        child.resultTaskStateVersion == previous.2 + 1

/-- The loop over the accepted candidates in candidate order. -/
def acceptedChainMatches (parent : RequestUnderstandingRecordV2)
    (children : List AcceptedTaskDeltaV2) :
    List (Uuid × ℕ) → List DurableTaskDeltaCandidateV2 → Codec Unit
  | _, [] => .ok ()
  | previousResultByTask, candidate :: rest =>
    if candidate.candidateId ∈ acceptedCandidateIds parent then
      match Keyed.lastByKey (·.candidateRef) children candidate.candidateId with
      | none => .error (.uncaught "KeyError")
      | some child => do
        requireIntegrity (acceptedChildFollows parent previousResultByTask candidate child)
          .childMismatch
        acceptedChainMatches parent children
          ((child.taskId, child.resultTaskStateVersion) :: previousResultByTask)
          rest
    else acceptedChainMatches parent children previousResultByTask rest

/-- All checks between a Request Understanding record and its accepted children. -/
def requestUnderstandingChildrenMatch (parentRecord : SourceRecord) (children : List SourceRecord) :
    Codec Unit :=
  match parentRecord with
  | .requestUnderstandingRecordV2 parent => do
    let deltas := children.filterMap (·.asAcceptedTaskDeltaV2)
    requireIntegrity (acceptedChildrenMatch parent deltas) .childMismatch
    acceptedChainMatches parent deltas [] parent.taskDeltaCandidates
  | _ => .error (.uncaught "AttributeError")

/-- `_request_understanding_v2_child_payloads` -/
def requestUnderstandingV2ChildPayloads (parentRecord : SourceRecord) (parentIdentity : Fields)
    (logicalChildren : List SourceRecord) :
    Codec (List P0LogicalChildPayload × List P0RecordReference) := do
  let validated ← logicalChildren.mapM fun child =>
    strictVersionedModel library child .acceptedTaskDeltaV2 .childMismatch
  requestUnderstandingChildrenMatch parentRecord validated
  arrangedPayloads library .requestUnderstandingRecord parentIdentity
    ((Keyed.sortByKey childOrderKey validated).map fun child =>
      (logicalChildSpecs .acceptedTaskDelta, child))

/-- The envelope of a validated record with its projections. -/
def assembleEnvelope (spec : P0RecordSchemaSpec) (validated : SourceRecord) (identity : Fields)
    (owner : Option Text) (references : List P0RecordReference)
    (children : List P0LogicalChildPayload) :
    Codec P0PersistenceEnvelope := do
  return {
    recordCode := spec.recordCode
    recordSchemaVersion := spec.recordSchemaVersion
    logicalIdentity := ← scalarIdentity identity
    directOwnerCustomerId := owner
    recordReferences := references
    payload := {
      data := library.modelDump validated
      recordCode := spec.recordCode
      recordSchemaVersion := spec.recordSchemaVersion
      logicalChildren := children } }

/-- `_build_envelope` -/
def buildEnvelope (recordCode : P0RecordCode) (record : SourceRecord)
    (externalReferences : List P0RecordReference) (logicalChildren : List SourceRecord) :
    Codec P0PersistenceEnvelope :=
  match nonRuPersistenceRegistry recordCode with
  | none => .error (.integrity .unknownRecordSchemaVersion)
  | some spec => do
    let validated ← strictRecord library spec record
    let identity ← logicalIdentity library validated spec.identityFields
    let (owner, sourceReferences) ← topLevelProjection library false spec validated
    let external ← validateExternalReferences library spec externalReferences
    let (children, childReferences) ← childPayloads library spec validated identity logicalChildren
    let references ← normalizeReferences library false
      (sourceReferences ++ external ++ childReferences)
    assembleEnvelope library spec validated identity owner references children

/-- `_build_request_understanding_v2_envelope` -/
def buildRequestUnderstandingV2Envelope (record : SourceRecord)
    (externalReferences : List P0RecordReference) (logicalChildren : List SourceRecord) :
    Codec P0PersistenceEnvelope := do
  let spec := requestUnderstandingV2Spec
  let validated ← strictRequestUnderstandingV2 library record
  let identity ← logicalIdentity library validated spec.identityFields
  let (owner, sourceReferences) ← topLevelProjection library true spec validated
  let external ← validateExternalReferences library spec externalReferences
  let (children, childReferences) ←
    requestUnderstandingV2ChildPayloads library validated identity logicalChildren
  let references ← normalizeReferences library true
    (sourceReferences ++ external ++ childReferences)
  assembleEnvelope library spec validated identity owner references children

/-- `encode_persistence_record_versioned` -/
def encodePersistenceRecordVersioned (recordCode : P0RecordCode) (schemaVersion : String)
    (record : SourceRecord) (externalReferences : List P0RecordReference)
    (logicalChildren : List SourceRecord) : Codec P0PersistenceEnvelope := do
  let selected ← versionedPairSpec recordCode schemaVersion
  if selected.recordCode = .requestUnderstandingRecord then
    buildRequestUnderstandingV2Envelope library record externalReferences logicalChildren
  else
    let validatedRecord ← strictSelectedVersionedRecord library selected record
    let validatedChildren ← strictSelectedVersionedChildren library selected logicalChildren
    buildEnvelope library recordCode validatedRecord externalReferences validatedChildren

end Encoding

end MiniAgent.Application
