import MiniAgent.Core.OrderId
import MiniAgent.Core.RequestUnderstanding

/-! # Accepted bindings, Tasks, RequestUnits and the durable Request Understanding record -/

namespace MiniAgent.Core

inductive InputValidationStatus
  | accepted
deriving DecidableEq, Repr

/-- Validated user input; it still does not prove a business fact. -/
structure InputBinding where
  bindingId : Uuid
  name : String
  normalizedValue : Text
  authority : InputAuthority
  sourceRefs : List Uuid
  validationStatus : InputValidationStatus
  confirmedByUser : Bool
  createdAt : Datetime
  updatedAt : Datetime
  supersedes : Option Uuid := none
deriving DecidableEq, Repr

instance : ContractModel InputBinding where
  validates binding := binding.name == "order_id" && isOrderId binding.normalizedValue &&
    binding.authority == .userClaim && !binding.sourceRefs.isEmpty && binding.confirmedByUser &&
    binding.createdAt.requireUtc && binding.updatedAt.requireUtc &&
    decide (binding.createdAt.instant ≤ binding.updatedAt.instant)

inductive CandidateValidationDecision
  | accept
  | reject
deriving DecidableEq, Repr

inductive TaskStatus
  | active
  | waitingUser
  | pendingAction
  | actionInProgress
  | recovering
  | completed
  | blocked
  | cancelled
deriving DecidableEq, Repr

structure RequestUnitRecord where
  requestUnitId : Uuid
  taskId : Uuid
  goalText : String
  goalSourceRefs : List Uuid
  contextualizationRef : Option Uuid := none
  constraintRefs : List Uuid := []
  dependencyRefs : List Uuid := []
  inputBindingRefs : List Uuid
  openQuestions : List String := []
  observationRefs : List Uuid := []
  evidenceBindingRefs : List Uuid := []
  pendingActionRef : Option Uuid := none
  resultRefs : List Uuid := []
  status : TaskStatus
  stateVersion : ℕ
  createdAt : Datetime
  updatedAt : Datetime
deriving DecidableEq, Repr

instance : ContractModel RequestUnitRecord where
  validates unit := unit.goalText != "" && !unit.goalSourceRefs.isEmpty &&
    !unit.inputBindingRefs.isEmpty && unit.openQuestions.all (· != "") && 1 ≤ unit.stateVersion &&
    unit.createdAt.requireUtc && unit.updatedAt.requireUtc &&
    decide (unit.createdAt.instant ≤ unit.updatedAt.instant)

structure TaskRecord where
  taskId : Uuid
  ownerCustomerId : String
  status : TaskStatus
  stateVersion : ℕ
  createdAt : Datetime
  updatedAt : Datetime
  lastOutcomeRef : Option Uuid := none
deriving DecidableEq, Repr

instance : ContractModel TaskRecord where
  validates task := task.ownerCustomerId != "" && 1 ≤ task.stateVersion &&
    task.createdAt.requireUtc && task.updatedAt.requireUtc &&
    decide (task.createdAt.instant ≤ task.updatedAt.instant)

structure TaskStateTransition where
  taskId : Uuid
  requestUnitId : Uuid
  fromStatus : TaskStatus
  toStatus : TaskStatus
  baseStateVersion : ℕ
  resultStateVersion : ℕ
  reasonRef : Uuid
  changedAt : Datetime
deriving DecidableEq, Repr

instance : ContractModel TaskStateTransition where
  validates transition := 1 ≤ transition.baseStateVersion && 1 ≤ transition.resultStateVersion &&
    transition.changedAt.requireUtc &&
    transition.resultStateVersion == transition.baseStateVersion + 1 &&
    transition.fromStatus != transition.toStatus

/-- `^[0-9a-f]{64}$` -/
def isSourceQuoteSha256V2 (hash : Text) : Bool := hash.length == 64 && hash.all Sha256.isHexDigit

structure DurableResolvedReferenceCandidateV2 where
  name : String
  candidateValue : Text
  sourceKind : ReferenceSourceKindV2
  sourceRef : Uuid
  sourceSpanStart : ℕ
  sourceSpanEndExclusive : ℕ
  sourceQuoteSha256 : Text
  confidence : ℚ
deriving DecidableEq, Repr

instance : ContractModel DurableResolvedReferenceCandidateV2 where
  validates candidate := candidate.name == "order_id" && !candidate.candidateValue.isEmpty &&
    isSourceQuoteSha256V2 candidate.sourceQuoteSha256 && isConfidence candidate.confidence &&
    decide (candidate.sourceSpanStart < candidate.sourceSpanEndExclusive)

structure DurableInputCandidateV2 where
  name : String
  candidateValue : Text
  semanticRole : String
  authority : InputAuthority
  sourceKind : InputSourceKind
  sourceRef : Uuid
  sourceSpanStart : ℕ
  sourceSpanEndExclusive : ℕ
  sourceQuoteSha256 : Text
  confidence : ℚ
deriving DecidableEq, Repr

instance : ContractModel DurableInputCandidateV2 where
  validates candidate := candidate.name == "order_id" && !candidate.candidateValue.isEmpty &&
    candidate.semanticRole == "TARGET_RESOURCE_IDENTIFIER" && candidate.authority == .userClaim &&
    isSourceQuoteSha256V2 candidate.sourceQuoteSha256 && isConfidence candidate.confidence &&
    decide (candidate.sourceSpanStart < candidate.sourceSpanEndExclusive)

structure DurableQueryContextualizationCandidateV2 where
  text : String
  resolvedReferenceCandidates : List DurableResolvedReferenceCandidateV2
  uncertainties : List UncertaintyV2
  sourceMessageRefs : List Uuid
deriving DecidableEq, Repr

instance : ContractModel DurableQueryContextualizationCandidateV2 where
  validates context := context.text != "" &&
    context.resolvedReferenceCandidates.all ContractModel.validates &&
    context.uncertainties.all ContractModel.validates &&
    areSourceMessageRefs context.sourceMessageRefs &&
    (context.resolvedReferenceCandidates.all (·.sourceRef ∈ context.sourceMessageRefs)) &&
    (context.uncertainties.all fun uncertainty =>
      uncertainty.sourceMessageRefs.all (· ∈ context.sourceMessageRefs))

structure DurableTaskDeltaCandidateV2 where
  candidateId : Uuid
  operation : TaskDeltaOperation
  goalPatch : String
  inputCandidates : List DurableInputCandidateV2
  confidence : ℚ
deriving DecidableEq, Repr

instance : ContractModel DurableTaskDeltaCandidateV2 where
  validates candidate := candidate.goalPatch != "" && !candidate.inputCandidates.isEmpty &&
    candidate.inputCandidates.all ContractModel.validates &&
    allDistinct (candidate.inputCandidates.map (·.name)) && isConfidence candidate.confidence

inductive CandidateRejectionReasonCode
  | operationNotSupported
  | goalPatchNotActionable
  | requiredInputMissing
  | inputValueInvalid
  | referenceUnresolved
  | referenceAmbiguous
  | nextMoveInconsistent
deriving DecidableEq, Repr

inductive RequestUnderstandingAggregateFailureCodeV2
  | modelInputSchemaInvalid
  | modelOutputSchemaInvalid
  | modelSchemaVersionInvalid
  | trustedOrPrivateFieldPresent
  | sourceProvenanceInvalid
deriving DecidableEq, Repr

inductive RequestUnderstandingAtomicFailureCodeV2
  | taskStateCasConflict
  | taskCommitFailed
  | durableClosureCommitFailed
deriving DecidableEq, Repr

structure CandidateValidationRecordV2 where
  candidateRef : Uuid
  decision : CandidateValidationDecision
  reasonCode : Option CandidateRejectionReasonCode := none
deriving DecidableEq, Repr

instance : ContractModel CandidateValidationRecordV2 where
  validates validation :=
    match validation.decision with
    | .reject => validation.reasonCode.isSome
    | .accept => validation.reasonCode.isNone

structure AcceptedTaskDeltaV2 where
  acceptedDeltaId : Uuid
  candidateRef : Uuid
  messageRef : Uuid
  operation : TaskDeltaOperation
  goalText : String
  inputBindingRefs : List Uuid
  acceptedAt : Datetime
  taskId : Uuid
  baseTaskStateVersion : Option ℕ
  resultTaskStateVersion : ℕ
deriving DecidableEq, Repr

instance : ContractModel AcceptedTaskDeltaV2 where
  validates child := child.goalText != "" && !child.inputBindingRefs.isEmpty &&
    child.acceptedAt.requireUtc && child.baseTaskStateVersion.all (1 ≤ ·) &&
    1 ≤ child.resultTaskStateVersion

structure RequestUnderstandingRecordV2 where
  requestUnderstandingRecordId : Uuid
  runId : Uuid
  messageRef : Uuid
  schemaVersion : String
  modelInputSchemaVersion : String
  modelOutputSchemaVersion : String
  contextualization : DurableQueryContextualizationCandidateV2
  taskDeltaCandidates : List DurableTaskDeltaCandidateV2
  candidateValidation : List CandidateValidationRecordV2
  acceptedDeltaRefs : List Uuid
  proposedBaseTaskStateVersion : Option ℕ := none
  validatedTaskStateVersion : Option ℕ := none
  nextMoveCandidateRef : Option Uuid := none
  createdAt : Datetime
deriving DecidableEq, Repr

/-- The number of ACCEPT decisions. -/
def acceptedCount (validations : List CandidateValidationRecordV2) : ℕ :=
  validations.countP (·.decision == .accept)

instance : ContractModel RequestUnderstandingRecordV2 where
  validates record :=
    record.schemaVersion == "request_understanding_record.p0.v2" &&
    record.modelInputSchemaVersion == "e2e01-thin-v1" &&
    record.modelOutputSchemaVersion == "e2e01-thin-v2" &&
    ContractModel.validates record.contextualization &&
    record.taskDeltaCandidates.all ContractModel.validates &&
    record.candidateValidation.all ContractModel.validates &&
    record.proposedBaseTaskStateVersion.all (1 ≤ ·) &&
    record.validatedTaskStateVersion.all (1 ≤ ·) &&
    record.createdAt.requireUtc &&
    allDistinct (record.taskDeltaCandidates.map (·.candidateId)) &&
    allDistinct (record.candidateValidation.map (·.candidateRef)) &&
    sameSet (record.candidateValidation.map (·.candidateRef))
      (record.taskDeltaCandidates.map (·.candidateId)) &&
    allDistinct record.acceptedDeltaRefs &&
    record.acceptedDeltaRefs.length == acceptedCount record.candidateValidation &&
    decide (record.messageRef ∈ record.contextualization.sourceMessageRefs) &&
    (record.taskDeltaCandidates.all fun candidate =>
      candidate.inputCandidates.all (·.sourceRef == record.messageRef)) &&
    (record.nextMoveCandidateRef.isSome ||
      (record.proposedBaseTaskStateVersion.isNone && record.validatedTaskStateVersion.isNone))

theorem RequestUnderstandingRecordV2.validates_iff (record : RequestUnderstandingRecordV2) :
    ContractModel.validates record = true ↔
      (record.schemaVersion = "request_understanding_record.p0.v2" ∧
        record.modelInputSchemaVersion = "e2e01-thin-v1" ∧
        record.modelOutputSchemaVersion = "e2e01-thin-v2") ∧
      ContractModel.validates record.contextualization = true ∧
      (∀ candidate ∈ record.taskDeltaCandidates, ContractModel.validates candidate = true) ∧
      (∀ validation ∈ record.candidateValidation, ContractModel.validates validation = true) ∧
      record.proposedBaseTaskStateVersion.all (1 ≤ ·) = true ∧
      record.validatedTaskStateVersion.all (1 ≤ ·) = true ∧ record.createdAt.requireUtc = true ∧
      (record.taskDeltaCandidates.map (·.candidateId)).Nodup ∧
      (record.candidateValidation.map (·.candidateRef)).Nodup ∧
      (∀ ref, ref ∈ record.candidateValidation.map (·.candidateRef) ↔
        ref ∈ record.taskDeltaCandidates.map (·.candidateId)) ∧
      record.acceptedDeltaRefs.Nodup ∧
      record.acceptedDeltaRefs.length = acceptedCount record.candidateValidation ∧
      record.messageRef ∈ record.contextualization.sourceMessageRefs ∧
      (∀ candidate ∈ record.taskDeltaCandidates, ∀ input ∈ candidate.inputCandidates,
        input.sourceRef = record.messageRef) ∧
      (record.nextMoveCandidateRef.isSome = true ∨
        record.proposedBaseTaskStateVersion = none ∧ record.validatedTaskStateVersion = none) := by
  change (_ && _) = true ↔ _
  simp only [Bool.and_eq_true, Bool.or_eq_true, beq_iff_eq, List.all_eq_true, allDistinct_iff,
    sameSet_iff, decide_eq_true_eq, Option.isNone_iff_eq_none, and_assoc]

end MiniAgent.Core
