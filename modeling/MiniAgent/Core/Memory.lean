import MiniAgent.Core.Order
import MiniAgent.Core.ToolSystem

/-! # Observation and Context Manifest contracts; neither is free-form Memory -/

namespace MiniAgent.Core

inductive ObservationVisibility
  | modelVisible
  | auditOnly
  | userVisible
deriving DecidableEq, Repr

/-- A safe Observation created only after scoped ownership validation. -/
structure OrderObservation where
  observationId : Uuid
  sourceTool : String
  sourceResourceRef : Text
  sourceVersion : Option String := none
  normalizedType : String
  normalizedValue : OrderSummaryProjection
  observedAt : Datetime
  recordedAt : Datetime
  validUntil : Option Datetime := none
  supersedes : Option Uuid := none
  rawResultRef : Option String := none
  visibility : ObservationVisibility
deriving DecidableEq, Repr

instance : ContractModel OrderObservation where
  validates observation := observation.sourceTool == "get_order" &&
    !observation.sourceResourceRef.isEmpty && observation.sourceVersion.all (· != "") &&
    observation.normalizedType == "ORDER_SUMMARY" &&
      ContractModel.validates observation.normalizedValue &&
    observation.rawResultRef.all (· != "") && observation.observedAt.requireUtc &&
    observation.recordedAt.requireUtc && observation.validUntil.all (·.requireUtc) &&
    decide (observation.observedAt.instant ≤ observation.recordedAt.instant) &&
    observation.validUntil.all fun limit => decide (observation.observedAt.instant ≤ limit.instant)

structure TaskStateRefAndVersion where
  taskId : Uuid
  stateVersion : ℕ
deriving DecidableEq, Repr

structure VersionedRecordRef where
  recordRef : Uuid
  version : String
deriving DecidableEq, Repr

structure TruncationDecision where
  sourceRef : Uuid
  reasonCode : String
deriving DecidableEq, Repr

structure TokenCounts where
  inputTokens : Option ℕ := none
  outputTokens : Option ℕ := none
deriving DecidableEq, Repr

/-- References actually projected to one model call, without private payloads. -/
structure ContextManifest where
  contextManifestId : Uuid
  runId : Uuid
  modelCallId : Uuid
  toolRegistryVersion : String
  modelVisibleToolsetHash : Text
  selectedMessageRefs : List Uuid
  taskStateRefAndVersion : Option TaskStateRefAndVersion := none
  observationRefsAndVersions : List VersionedRecordRef := []
  evidenceRefsAndVersions : List VersionedRecordRef := []
  actionRecordRefs : List Uuid := []
  redactionPolicyVersion : String
  truncationDecisions : List TruncationDecision := []
  tokenCounts : TokenCounts
  assembledAt : Datetime
deriving DecidableEq, Repr

instance : ContractModel ContextManifest where
  validates manifest := manifest.toolRegistryVersion != "" &&
    isToolsetHash manifest.modelVisibleToolsetHash &&
    manifest.taskStateRefAndVersion.all (1 ≤ ·.stateVersion) &&
    manifest.observationRefsAndVersions.all (·.version != "") &&
    manifest.evidenceRefsAndVersions.all (·.version != "") &&
      manifest.redactionPolicyVersion != "" &&
    manifest.truncationDecisions.all (·.reasonCode != "") && manifest.assembledAt.requireUtc

end MiniAgent.Core
