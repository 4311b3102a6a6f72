import MiniAgent.Core.RequestProcessing

/-! # Reduction of an initial request to Task graphs

The reducer decides every emitted Candidate, builds one clean Task graph for each accepted one and
wraps the durable closure in one of three decisions. Each wrapper re-validates what it is given,
so four validators look at the same parallel sequences; none of them is skipped here.

A routable decision is sealed by the reducer. Its payload is kept as the tuple of the values that
the source serialises, and the seal is issued only for the payload computed before construction.
-/

namespace MiniAgent.Core

open ContractModel Keyed
open Except (require require_eq_ok_iff require_of require_errorsIn)

/-- Trusted identities reserved for one emitted Candidate. -/
structure InitialTaskIdentityAllocationV2 where
  candidateRef : Uuid
  acceptedDeltaId : Uuid
  taskId : Uuid
  requestUnitId : Uuid
  bindingId : Uuid
deriving DecidableEq, Repr

namespace InitialTaskIdentityAllocationV2

def generated (allocation : InitialTaskIdentityAllocationV2) : List Uuid :=
  [allocation.acceptedDeltaId, allocation.taskId, allocation.requestUnitId, allocation.bindingId]

instance : ContractModel InitialTaskIdentityAllocationV2 where
  validates allocation :=
    allDistinct allocation.generated && decide (allocation.candidateRef ∉ allocation.generated)

end InitialTaskIdentityAllocationV2

/-- One accepted v2 child and its exact clean initial Task graph. -/
structure InitialAcceptedTaskGraphV2 where
  acceptedDelta : AcceptedTaskDeltaV2
  inputBinding : InputBinding
  task : TaskRecord
  requestUnit : RequestUnitRecord
deriving DecidableEq, Repr

namespace InitialAcceptedTaskGraphV2

variable (graph : InitialAcceptedTaskGraphV2)

/-- The identities of the graph's four records. -/
def identities : List Uuid :=
  [graph.acceptedDelta.acceptedDeltaId, graph.task.taskId, graph.requestUnit.requestUnitId,
    graph.inputBinding.bindingId]

def definesOneInitialTaskEffect : Bool :=
  graph.acceptedDelta.operation == .addGoal && graph.acceptedDelta.taskId == graph.task.taskId &&
    graph.acceptedDelta.baseTaskStateVersion.isNone &&
    graph.acceptedDelta.resultTaskStateVersion == 1 &&
    graph.acceptedDelta.inputBindingRefs == [graph.inputBinding.bindingId]

def bindsAcceptedMessage : Bool :=
  graph.inputBinding.name == "order_id" && graph.inputBinding.authority == .userClaim &&
    graph.inputBinding.validationStatus == .accepted && graph.inputBinding.confirmedByUser &&
    graph.inputBinding.sourceRefs == [graph.acceptedDelta.messageRef] &&
    graph.inputBinding.supersedes.isNone

def hasCleanTask : Bool :=
  graph.task.status == .active && graph.task.stateVersion == 1 && graph.task.lastOutcomeRef.isNone

def hasCleanRequestUnit : Bool :=
  let unit := graph.requestUnit
  unit.taskId == graph.task.taskId && unit.goalText == graph.acceptedDelta.goalText &&
    unit.goalSourceRefs == [graph.acceptedDelta.messageRef] &&
    unit.inputBindingRefs == [graph.inputBinding.bindingId] && unit.status == .active &&
    unit.stateVersion == 1 && unit.contextualizationRef.isNone && unit.constraintRefs.isEmpty &&
    unit.dependencyRefs.isEmpty && unit.openQuestions.isEmpty && unit.observationRefs.isEmpty &&
    unit.evidenceBindingRefs.isEmpty && unit.pendingActionRef.isNone && unit.resultRefs.isEmpty

/-- Every timestamp of the graph is the same instant. -/
def usesOneTimestamp : Bool :=
  [graph.inputBinding.createdAt, graph.inputBinding.updatedAt, graph.task.createdAt,
    graph.task.updatedAt, graph.requestUnit.createdAt, graph.requestUnit.updatedAt].all
      (·.instant == graph.acceptedDelta.acceptedAt.instant)

instance : ContractModel InitialAcceptedTaskGraphV2 where
  validates graph :=
    isExactCanonicalModelV2 graph.acceptedDelta && isExactCanonicalModelV2 graph.inputBinding &&
    isExactCanonicalModelV2 graph.task && isExactCanonicalModelV2 graph.requestUnit &&
    allDistinct graph.identities && graph.definesOneInitialTaskEffect &&
      graph.bindsAcceptedMessage &&
    graph.hasCleanTask && graph.hasCleanRequestUnit && graph.usesOneTimestamp

theorem validates_iff : validates graph = true ↔
    (validates graph.acceptedDelta = true ∧ validates graph.inputBinding = true ∧
      validates graph.task = true ∧ validates graph.requestUnit = true) ∧
    graph.identities.Nodup ∧ graph.definesOneInitialTaskEffect = true ∧
    graph.bindsAcceptedMessage = true ∧ graph.hasCleanTask = true ∧
    graph.hasCleanRequestUnit = true ∧ graph.usesOneTimestamp = true := by
  change (_ && _) = true ↔ _
  simp only [isExactCanonicalModelV2_eq, allDistinct_iff, Bool.and_eq_true, and_assoc]

end InitialAcceptedTaskGraphV2

/-- The graph repeats the one durable Candidate it was accepted from. -/
def validateInitialGraphCandidateProjectionV2 (record : RequestUnderstandingRecordV2)
    (graph : InitialAcceptedTaskGraphV2) : Bool :=
  let child := graph.acceptedDelta
  match record.taskDeltaCandidates.filter (·.candidateId == child.candidateRef) with
  | [candidate] =>
    child.messageRef == record.messageRef && child.operation == candidate.operation &&
      child.goalText == candidate.goalPatch &&
      match candidate.inputCandidates with
      | [candidateInput] =>
        graph.inputBinding.name == candidateInput.name &&
          normalizeOrderId candidateInput.candidateValue ==
            some graph.inputBinding.normalizedValue &&
          graph.inputBinding.authority == candidateInput.authority &&
          graph.inputBinding.sourceRefs == [candidateInput.sourceRef]
      | _ => false
  | _ => false

def validateInitialGraphIdentityClosureV2 (record : RequestUnderstandingRecordV2)
    (graphs : List InitialAcceptedTaskGraphV2) : Bool :=
  allDistinct (record.requestUnderstandingRecordId ::
    graphs.flatMap (·.identities) ++ record.nextMoveCandidateRef.toList) &&
  graphs.all fun graph => graph.acceptedDelta.baseTaskStateVersion.isNone &&
    graph.acceptedDelta.resultTaskStateVersion == 1 &&
    graph.acceptedDelta.taskId == graph.task.taskId && graph.task.stateVersion == 1 &&
    graph.requestUnit.stateVersion == 1

/-- A valid zero/all-reject closure with no Task effect. -/
structure InitialRequestNoTaskDecisionV2 where
  closure : RequestUnderstandingClosureV2
deriving DecidableEq, Repr

instance : ContractModel InitialRequestNoTaskDecisionV2 where
  validates decision :=
    let record := decision.closure.record
    isExactCanonicalModelV2 decision.closure && decision.closure.acceptedTaskDeltas.isEmpty &&
    record.acceptedDeltaRefs.isEmpty && !record.candidateValidation.any (·.decision == .accept) &&
    record.nextMoveCandidateRef.isNone && record.proposedBaseTaskStateVersion.isNone &&
    record.validatedTaskStateVersion.isNone

/-- Exact-one emitted/accepted result retaining the shared NextMove. -/
structure InitialRequestRoutableTaskGraphDecisionV2 where
  closure : RequestUnderstandingClosureV2
  taskGraph : InitialAcceptedTaskGraphV2
  nextMoveCandidateRef : Uuid
  nextMoveCandidate : NextMove
deriving DecidableEq, Repr

def validateInitialRoutableDecisionFieldsV2
    (decision : InitialRequestRoutableTaskGraphDecisionV2) : Bool :=
  let record := decision.closure.record
  let child := decision.taskGraph.acceptedDelta
  isExactCanonicalModelV2 decision.closure && isExactCanonicalModelV2 decision.taskGraph &&
  isExactCanonicalModelV2 decision.nextMoveCandidate &&
  (match record.taskDeltaCandidates, record.candidateValidation with
    | [candidate], [validation] => validation.decision == .accept &&
        child.candidateRef == candidate.candidateId
    | _, _ => false) &&
  decision.closure.acceptedTaskDeltas == [child] &&
  record.acceptedDeltaRefs == [child.acceptedDeltaId] &&
  record.nextMoveCandidateRef == some decision.nextMoveCandidateRef &&
  record.proposedBaseTaskStateVersion == decision.nextMoveCandidate.baseTaskStateVersion &&
  record.validatedTaskStateVersion == some 1 &&
  validateInitialGraphCandidateProjectionV2 record decision.taskGraph &&
  validateInitialGraphIdentityClosureV2 record [decision.taskGraph]

/-- The sealed payload of a routable decision; `none` unless its fields validate and can be written:
what cannot be encoded raises the `PydanticSerializationError` that is caught. -/
def initialRoutableDecisionFieldsPayloadV2 (decision : InitialRequestRoutableTaskGraphDecisionV2) :
    Option (RequestUnderstandingClosureV2 × InitialAcceptedTaskGraphV2 × Uuid × NextMove) :=
  if validateInitialRoutableDecisionFieldsV2 decision && decision.nextMoveCandidate.isEncodable then
    some (decision.closure, decision.taskGraph, decision.nextMoveCandidateRef,
      decision.nextMoveCandidate)
  else none

/-- The reducer holds the construction permit, so authorization is the existence of a payload. -/
instance : ContractModel InitialRequestRoutableTaskGraphDecisionV2 where
  validates decision := validateInitialRoutableDecisionFieldsV2 decision &&
    (initialRoutableDecisionFieldsPayloadV2 decision).isSome

/-- Partial or multi-accepted closure with no shared NextMove. -/
structure InitialRequestUnroutedTaskGraphsDecisionV2 where
  closure : RequestUnderstandingClosureV2
  taskGraphs : List InitialAcceptedTaskGraphV2
deriving DecidableEq, Repr

instance : ContractModel InitialRequestUnroutedTaskGraphsDecisionV2 where
  validates decision :=
    let record := decision.closure.record
    let accepted := acceptedCount record.candidateValidation
    !decision.taskGraphs.isEmpty && isExactCanonicalModelV2 decision.closure &&
    decision.taskGraphs.all isExactCanonicalModelV2 && 1 ≤ accepted &&
    decision.taskGraphs.length == accepted &&
    decision.closure.acceptedTaskDeltas == decision.taskGraphs.map (·.acceptedDelta) &&
    record.acceptedDeltaRefs == decision.taskGraphs.map (·.acceptedDelta.acceptedDeltaId) &&
    record.nextMoveCandidateRef.isNone && record.proposedBaseTaskStateVersion.isNone &&
    record.validatedTaskStateVersion.isNone &&
    !(record.taskDeltaCandidates.length == 1 && accepted == 1) &&
    validateInitialGraphIdentityClosureV2 record decision.taskGraphs &&
    decision.taskGraphs.all (validateInitialGraphCandidateProjectionV2 record)

inductive InitialRequestDecisionV2
  | noTask (decision : InitialRequestNoTaskDecisionV2)
  | routable (decision : InitialRequestRoutableTaskGraphDecisionV2)
  | unrouted (decision : InitialRequestUnroutedTaskGraphsDecisionV2)
deriving DecidableEq, Repr

namespace InitialRequestDecisionV2

def closure : InitialRequestDecisionV2 → RequestUnderstandingClosureV2
  | noTask decision => decision.closure
  | routable decision => decision.closure
  | unrouted decision => decision.closure

/-- The built Task graphs, in the order of their Candidates. -/
def taskGraphs : InitialRequestDecisionV2 → List InitialAcceptedTaskGraphV2
  | noTask _ => []
  | routable decision => [decision.taskGraph]
  | unrouted decision => decision.taskGraphs

end InitialRequestDecisionV2

def preflightInitialRequestProjectionV2 (requestInput : RequestUnderstandingInput)
    (output : RequestUnderstandingOutputV2) (authoritativeMessages : AuthoritativeMessages) :
    V2 (RequestUnderstandingInput × RequestUnderstandingOutputV2) := do
  let canonicalInput ← canonicalRequestInputV2 requestInput
  let canonicalOutput ← canonicalRequestOutputV2 output
  require (canonicalInput.messageRef == canonicalOutput.messageRef) sourceProvenanceInvalid
  validateInputVisibleSourceScopeV2 canonicalInput canonicalOutput
  let currentMessage ← authoritativeMessageV2 authoritativeMessages canonicalInput.messageRef
  require (currentMessage == canonicalInput.originalQuery) sourceProvenanceInvalid
  discard (projectContextualizationV2 authoritativeMessages canonicalOutput.contextualization)
  discard (canonicalOutput.taskDeltaCandidates.mapM (projectTaskDeltaV2 authoritativeMessages))
  return (canonicalInput, canonicalOutput)

/-- Check the trusted values and index the allocations by their Candidate. -/
def canonicalInitialIdentityAllocationsV2 (allocations : List InitialTaskIdentityAllocationV2)
    (emittedCandidateRefs : List Uuid) (requestUnderstandingRecordId nextMoveCandidateRef : Uuid)
    (customerContext : CustomerContext) (now : Datetime) :
    V2 (Uuid → Option InitialTaskIdentityAllocationV2) := do
  require (isExactCanonicalModelV2 customerContext && now.requireUtc) durableClosureCommitFailed
  require (allocations.all isExactCanonicalModelV2) durableClosureCommitFailed
  let allocationRefs := allocations.map (·.candidateRef)
  require (allDistinct allocationRefs && sameSet allocationRefs emittedCandidateRefs)
    durableClosureCommitFailed
  require (allDistinct (requestUnderstandingRecordId :: nextMoveCandidateRef ::
    allocations.flatMap (·.generated))) durableClosureCommitFailed
  return lastByKey (·.candidateRef) allocations

/-- The reasons of the uncertainties about the order id. -/
def orderIdUncertaintyReasons (output : RequestUnderstandingOutputV2) :
    List UncertaintyReasonCodeV2 :=
  (output.contextualization.uncertainties.filter (·.name == "order_id")).map (·.reasonCode)

def candidateRejectionReasonV2 (candidate : TaskDeltaCandidate)
    (output : RequestUnderstandingOutputV2) :
    Option CandidateRejectionReasonCode :=
  if .missingReference ∈ orderIdUncertaintyReasons output then some .referenceUnresolved
  else if .multiplePlausibleReferences ∈ orderIdUncertaintyReasons output then
    some .referenceAmbiguous
  else
    match candidate.inputCandidates with
    | [inputCandidate] =>
      if inputCandidate.name != "order_id" ||
          inputCandidate.semanticRole != "TARGET_RESOURCE_IDENTIFIER" ||
          inputCandidate.authority != .userClaim || inputCandidate.sourceKind != .currentMessage ||
          inputCandidate.sourceRef != output.messageRef then some .requiredInputMissing
      else if (normalizeOrderId inputCandidate.candidateValue).isNone then some .inputValueInvalid
      else none
    | _ => some .requiredInputMissing

def buildInitialTaskGraphV2 (candidate : TaskDeltaCandidate)
    (allocation : InitialTaskIdentityAllocationV2) (customerContext : CustomerContext)
    (messageRef : Uuid) (normalizedOrderId : Text) (now : Datetime) :
    V2 InitialAcceptedTaskGraphV2 := do
  let binding ← constructOr
    { bindingId := allocation.bindingId
      name := "order_id"
      normalizedValue := normalizedOrderId
      authority := .userClaim
      sourceRefs := [messageRef]
      validationStatus := .accepted
      confirmedByUser := true
      createdAt := now
      updatedAt := now : InputBinding } durableClosureCommitFailed
  let acceptedDelta ← constructOr
    { acceptedDeltaId := allocation.acceptedDeltaId
      candidateRef := candidate.candidateId
      messageRef := messageRef
      operation := .addGoal
      goalText := candidate.goalPatch
      inputBindingRefs := [allocation.bindingId]
      acceptedAt := now
      taskId := allocation.taskId
      baseTaskStateVersion := none
      resultTaskStateVersion := 1 : AcceptedTaskDeltaV2 } durableClosureCommitFailed
  let task ← constructOr
    { taskId := allocation.taskId
      ownerCustomerId := customerContext.customerId
      status := .active
      stateVersion := 1
      createdAt := now
      updatedAt := now : TaskRecord } durableClosureCommitFailed
  let requestUnit ← constructOr
    { requestUnitId := allocation.requestUnitId
      taskId := allocation.taskId
      goalText := candidate.goalPatch
      goalSourceRefs := [messageRef]
      inputBindingRefs := [allocation.bindingId]
      status := .active
      stateVersion := 1
      createdAt := now
      updatedAt := now : RequestUnitRecord } durableClosureCommitFailed
  constructOr
    { acceptedDelta := acceptedDelta, inputBinding := binding, task := task,
      requestUnit := requestUnit }
    durableClosureCommitFailed

/-- One pass of the candidate loop: the decision, and the graph of an accepted Candidate. -/
def reduceCandidate (output : RequestUnderstandingOutputV2)
    (allocationsByCandidate : Uuid → Option InitialTaskIdentityAllocationV2)
    (customerContext : CustomerContext) (now : Datetime) (candidate : TaskDeltaCandidate) :
    V2 (CandidateValidationRecordV2 × Option InitialAcceptedTaskGraphV2) := do
  let rejectionReason := candidateRejectionReasonV2 candidate output
  let decision ← constructOr
    { candidateRef := candidate.candidateId
      decision := if rejectionReason.isSome then .reject else .accept
      reasonCode := rejectionReason : CandidateValidationRecordV2 } durableClosureCommitFailed
  if rejectionReason.isSome then return (decision, none)
  match candidate.inputCandidates with
  | [] => throw (.uncaught "IndexError")
  | inputCandidate :: _ =>
    match normalizeOrderId inputCandidate.candidateValue with
    | none => throw durableClosureCommitFailed
    | some normalizedOrderId =>
      match allocationsByCandidate candidate.candidateId with
      | none => throw (.uncaught "KeyError")
      | some allocation =>
        let graph ← buildInitialTaskGraphV2 candidate allocation customerContext output.messageRef
          normalizedOrderId now
        return (decision, some graph)

/-- The candidate loop: decisions and graphs grow together, in emission order. -/
def reduceCandidates (output : RequestUnderstandingOutputV2)
    (allocationsByCandidate : Uuid → Option InitialTaskIdentityAllocationV2)
    (customerContext : CustomerContext) (now : Datetime) : List TaskDeltaCandidate →
    V2 (List CandidateValidationRecordV2 × List InitialAcceptedTaskGraphV2)
  | [] => return ([], [])
  | candidate :: rest => do
    let (decision, graph) ←
      reduceCandidate output allocationsByCandidate customerContext now candidate
    let (decisions, graphs) ← reduceCandidates output allocationsByCandidate customerContext
      now rest
    return (decision :: decisions, graph.toList ++ graphs)

/-- Construct and seal the routable decision: a seal is issued only for the payload agreed
before. -/
def sealedRoutableDecision (fields : InitialRequestRoutableTaskGraphDecisionV2) :
    Option InitialRequestRoutableTaskGraphDecisionV2 := do
  let sealPayload ← initialRoutableDecisionFieldsPayloadV2 fields
  let routable ← construct fields
  if initialRoutableDecisionFieldsPayloadV2 routable = some sealPayload then some routable else none

/-- The trusted arguments of one reduction. -/
structure TrustedReducerArguments where
  customerContext : CustomerContext
  requestUnderstandingRecordId : Uuid
  candidateIdentityAllocations : List InitialTaskIdentityAllocationV2
  nextMoveCandidateRef : Uuid
  now : Datetime

/-- Validate actual v2 Candidates and build one exact Core result. -/
def validateAndReduceInitialRequestV2 (requestInput : RequestUnderstandingInput)
    (output : RequestUnderstandingOutputV2) (authoritativeMessages : AuthoritativeMessages)
    (trusted : TrustedReducerArguments) : V2 InitialRequestDecisionV2 := do
  let (canonicalInput, canonicalOutput) ←
    preflightInitialRequestProjectionV2 requestInput output authoritativeMessages
  let allocationsByCandidate ← canonicalInitialIdentityAllocationsV2
    trusted.candidateIdentityAllocations (canonicalOutput.taskDeltaCandidates.map (·.candidateId))
    trusted.requestUnderstandingRecordId trusted.nextMoveCandidateRef trusted.customerContext
      trusted.now
  let (decisions, graphs) ← reduceCandidates canonicalOutput allocationsByCandidate
    trusted.customerContext trusted.now canonicalOutput.taskDeltaCandidates
  let exactOneRoutable := canonicalOutput.taskDeltaCandidates.length == 1 && graphs.length == 1
  let closure ← buildRequestUnderstandingClosureV2 canonicalInput canonicalOutput
    authoritativeMessages
    trusted.requestUnderstandingRecordId decisions (graphs.map (·.acceptedDelta))
    (if exactOneRoutable then canonicalOutput.nextMoveCandidate.baseTaskStateVersion else none)
    (if exactOneRoutable then some 1 else none)
    (if exactOneRoutable then some trusted.nextMoveCandidateRef else none) trusted.now
  let result : Option InitialRequestDecisionV2 :=
    match graphs with
    | [] => (construct { closure := closure : InitialRequestNoTaskDecisionV2 }).map .noTask
    | graph :: _ =>
      if exactOneRoutable then
        (sealedRoutableDecision
          { closure := closure
            taskGraph := graph
            nextMoveCandidateRef := trusted.nextMoveCandidateRef
            nextMoveCandidate := canonicalOutput.nextMoveCandidate }).map .routable
      else
        (construct { closure := closure, taskGraphs := graphs :
          InitialRequestUnroutedTaskGraphsDecisionV2 }).map .unrouted
  match result with
  | some decision => return decision
  | none => throw durableClosureCommitFailed

/-- Everything the preflight checked, in the form in which the closure builder repeats it. -/
structure PassesPreflight (requestInput : RequestUnderstandingInput)
    (output : RequestUnderstandingOutputV2) (messages : AuthoritativeMessages) : Prop where
  canonicalInput : canonicalRequestInputV2 requestInput = .ok requestInput
  canonicalOutput : canonicalRequestOutputV2 output = .ok output
  sameMessage : requestInput.messageRef = output.messageRef
  visibleScope : validateInputVisibleSourceScopeV2 requestInput output = .ok ()
  currentMessage : authoritativeMessageV2 messages requestInput.messageRef =
    .ok requestInput.originalQuery
  contextualization : ∃ durable,
    projectContextualizationV2 messages output.contextualization = .ok durable
  candidates : ∃ durable,
    output.taskDeltaCandidates.mapM (projectTaskDeltaV2 messages) = .ok durable

variable {requestInput : RequestUnderstandingInput} {output : RequestUnderstandingOutputV2}
  {messages : AuthoritativeMessages}

theorem preflightInitialRequestProjectionV2_eq_ok_iff
    {result : RequestUnderstandingInput × RequestUnderstandingOutputV2} :
    preflightInitialRequestProjectionV2 requestInput output messages = .ok result ↔
      PassesPreflight requestInput output messages ∧ result = (requestInput, output) := by
  simp only [preflightInitialRequestProjectionV2, Except.bind_eq_ok_iff, require_eq_ok_iff,
    exists_const, beq_iff_eq, Except.discard_eq_ok_iff, Except.pure_eq_ok_iff]
  constructor
  · rintro ⟨input, canonicalInput, other, canonicalOutput, same, ⟨⟩, scope, message, current, equal,
      projected, traversed, rfl⟩
    obtain rfl := (canonicalRequestInputV2_eq_ok_iff.mp canonicalInput).2.2.2
    obtain rfl := (canonicalRequestOutputV2_eq_ok_iff.mp canonicalOutput).2
    exact ⟨⟨canonicalInput, canonicalOutput, same, scope, equal ▸ current, projected, traversed⟩,
      rfl⟩
  · rintro ⟨⟨canonicalInput, canonicalOutput, same, scope, current, projected, traversed⟩, rfl⟩
    exact ⟨_, canonicalInput, _, canonicalOutput, same, (), scope, _, current, rfl, projected,
      traversed, rfl⟩

theorem preflightInitialRequestProjectionV2_errorsIn : Except.ErrorsIn (·.IsAggregate)
    (preflightInitialRequestProjectionV2 requestInput output messages) :=
  (canonicalRequestInputV2_errorsIn _).bind fun _ _ =>
    (canonicalRequestOutputV2_errorsIn _).bind fun _ _ =>
      (require_errorsIn (isAggregate_aggregate _)).bind fun _ _ =>
        (validateInputVisibleSourceScopeV2_errorsIn _ _).bind fun _ _ =>
          (authoritativeMessageV2_errorsIn _ _).bind fun _ _ =>
            (require_errorsIn (isAggregate_aggregate _)).bind fun _ _ =>
              ((projectContextualizationV2_errorsIn _ _).map _).bind fun _ _ =>
                (Except.ErrorsIn.map _ (.mapM fun candidate _ =>
                  projectTaskDeltaV2_errorsIn _ candidate)).bind
                  fun _ _ => Except.errorsIn_pure _

theorem PassesPreflight.outputValid (passes : PassesPreflight requestInput output messages) :
    validates output = true := (canonicalRequestOutputV2_eq_ok_iff.mp passes.canonicalOutput).1

/-- The identities a decision may use are pairwise distinct. -/
def TrustedReducerArguments.generatedIdentities (trusted : TrustedReducerArguments) : List Uuid :=
  trusted.requestUnderstandingRecordId :: trusted.nextMoveCandidateRef ::
    trusted.candidateIdentityAllocations.flatMap (·.generated)

/-- The allocation check: trusted values are canonical and every emitted Candidate has exactly one
allocation, all of them disjoint. -/
structure AcceptsAllocations (trusted : TrustedReducerArguments) (emitted : List Uuid) : Prop where
  customerContext : validates trusted.customerContext = true
  now : trusted.now.requireUtc = true
  allocations : ∀ allocation ∈ trusted.candidateIdentityAllocations, validates allocation = true
  distinctRefs : (trusted.candidateIdentityAllocations.map (·.candidateRef)).Nodup
  exactRefs : ∀ candidateRef,
    candidateRef ∈ trusted.candidateIdentityAllocations.map (·.candidateRef) ↔
      candidateRef ∈ emitted
  distinctIdentities : trusted.generatedIdentities.Nodup

theorem canonicalInitialIdentityAllocationsV2_eq_ok_iff {trusted : TrustedReducerArguments}
    {emitted : List Uuid} {result : Uuid → Option InitialTaskIdentityAllocationV2} :
    canonicalInitialIdentityAllocationsV2 trusted.candidateIdentityAllocations emitted
        trusted.requestUnderstandingRecordId trusted.nextMoveCandidateRef trusted.customerContext
        trusted.now = .ok result ↔
      AcceptsAllocations trusted emitted ∧
        result = lastByKey (·.candidateRef) trusted.candidateIdentityAllocations := by
  simp only [canonicalInitialIdentityAllocationsV2, Except.bind_eq_ok_iff, require_eq_ok_iff,
    exists_const, Bool.and_eq_true, isExactCanonicalModelV2_eq, List.all_eq_true, allDistinct_iff,
    sameSet_iff,
    Except.pure_eq_ok_iff, eq_comm (b := result)]
  constructor
  · rintro ⟨⟨context, now⟩, allocations, ⟨distinct, exactly⟩, identities, same⟩
    exact ⟨⟨context, now, allocations, distinct, exactly, identities⟩, same⟩
  · rintro ⟨⟨context, now, allocations, distinct, exactly, identities⟩, same⟩
    exact ⟨⟨context, now⟩, allocations, ⟨distinct, exactly⟩, identities, same⟩

end MiniAgent.Core
