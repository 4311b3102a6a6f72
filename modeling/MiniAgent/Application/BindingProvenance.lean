import MiniAgent.Application.RunEvidence
import MiniAgent.Core.ReducerClosure

/-! # Where the bindings of an accepted closure come from

Each accepted child names its bindings, and the validator compares them with the inputs of the
accepted candidate through a dictionary keyed by the binding's name. This module follows the
bound values from there to the arguments of the ToolCalls, and finds when every listed binding
carries the proposed value: when the bindings that one child lists under one name agree.
-/

namespace MiniAgent.Application

open MiniAgent.Core ContractModel Keyed

/-- Every section of the validator has passed. -/
structure ClosedGraph (closure : ExactRunEvidenceClosure) : Prop where
  root : closure.checkRoot = .ok ()
  identities : closure.checkIdentities = .ok ()
  messages : closure.checkMessages = .ok ()
  requestUnderstanding : closure.checkRequestUnderstanding = .ok ()
  tasks : closure.checkTasks = .ok ()
  links : closure.checkLinks = .ok ()
  requestUnits : closure.checkRequestUnits = .ok ()
  history : closure.checkHistory = .ok ()
  bindings : closure.checkBindings = .ok ()
  manifests : closure.contextManifests.forM closure.checkManifest = .ok ()
  gates : closure.gateDecisions.forM closure.checkGate = .ok ()
  toolCalls : Except.forAfterM closure.checkToolCall [] closure.toolCalls = .ok ()
  attempts : closure.checkAttempts = .ok ()
  observations : closure.checkObservations = .ok ()
  traceEvents : Except.forAfterM closure.checkTraceEvent [] closure.traceEvents = .ok ()
  gateTrace : closure.checkGateTrace = .ok ()
  normalizedResults : (closure.traceEvents.filter (·.eventType == .toolResultNormalized)).forM
    closure.checkNormalizedResult = .ok ()
  runStopped : closure.checkRunStopped = .ok ()
  lifecycles : closure.toolCalls.forM closure.checkLifecycle = .ok ()
  observationEdges : closure.checkObservationEdges = .ok ()
  references : closure.checkReferences = .ok ()

variable {closure : ExactRunEvidenceClosure}

@[simp] theorem expect_eq_ok_iff {condition : Bool} {message : String} {done : Unit} :
    expect condition message = .ok done ↔ condition = true := Except.require_eq_ok_iff

@[simp] theorem getItem_eq_ok_iff {α : Type} {found : Option α} {value : α} :
    getItem found = .ok value ↔ found = some value := by
  cases found <;> simp [getItem]

theorem closedGraph_of_validates (valid : validates closure = true) : ClosedGraph closure := by
  have accepted : closure.suppliedGraphIsExactAndRootClosed.isOk = true :=
    (Bool.and_eq_true_iff.mp valid).2
  obtain ⟨⟨⟩, success⟩ := Except.exists_ok_of_isOk accepted
  simp only [ExactRunEvidenceClosure.suppliedGraphIsExactAndRootClosed, Except.bind_eq_ok_iff]
    at success
  obtain ⟨⟨⟩, root, ⟨⟩, identities, ⟨⟩, messages, ⟨⟩, understanding, ⟨⟩, tasks, ⟨⟩, links, ⟨⟩,
    units, ⟨⟩, history, ⟨⟩, bindings, ⟨⟩, manifests, ⟨⟩, gates, ⟨⟩, calls, ⟨⟩, attempts, ⟨⟩,
    observations, ⟨⟩,
    events, ⟨⟩, gateTrace, ⟨⟩, normalized, ⟨⟩, stopped, ⟨⟩, lifecycles, ⟨⟩, edges,
    references⟩ := success
  exact ⟨root, identities, messages, understanding, tasks, links, units, history, bindings,
    manifests, gates, calls, attempts, observations, events, gateTrace, normalized, stopped,
    lifecycles, edges,
    references⟩

/-- `child` was accepted from `candidate`. -/
structure AcceptedFrom (closure : ExactRunEvidenceClosure) (child : AcceptedTaskDeltaV2)
    (candidate : DurableTaskDeltaCandidateV2) : Prop where
  named : candidate.candidateId = child.candidateRef
  accepted : ∃ record decision, closure.requestUnderstandingRecord = some record ∧
    candidate ∈ record.taskDeltaCandidates ∧ decision ∈ record.candidateValidation ∧
    decision.candidateRef = child.candidateRef ∧ decision.decision = .accept

/-- The binding carries the value, the authority and the one source of the candidate's input. -/
def CarriesInput (candidate : DurableTaskDeltaCandidateV2) (binding : InputBinding) : Prop :=
  ∃ input ∈ candidate.inputCandidates, input.name = binding.name ∧
    normalizeOrderId input.candidateValue = some binding.normalizedValue ∧
    binding.authority = input.authority ∧ binding.sourceRefs = [input.sourceRef]

/-- The bindings that a child lists. -/
def childBindings (closure : ExactRunEvidenceClosure) (child : AcceptedTaskDeltaV2) :
    List InputBinding :=
  child.inputBindingRefs.filterMap closure.bindingById

/-- The validator looks at the last binding of each name, and that one carries its input. -/
private theorem carriesInput_of_checkChildBindings {candidate : DurableTaskDeltaCandidateV2}
    {bindings : List InputBinding} {binding : InputBinding}
    (success : ExactRunEvidenceClosure.checkChildBindings candidate bindings = .ok ())
    (last : lastByKey (·.name) bindings binding.name = some binding) :
    CarriesInput candidate binding := by
  simp only [ExactRunEvidenceClosure.checkChildBindings, Except.bind_eq_ok_iff, expect_eq_ok_iff,
    List.all_eq_true] at success
  obtain ⟨-, -, -, -, preserved⟩ := success
  obtain ⟨input, found, preserves⟩ :=
    (Option.any_eq_true _ _).mp (preserved binding (mem_dictValues.mpr last))
  obtain ⟨member, named⟩ := mem_of_lastByKey found
  simp only [ExactRunEvidenceClosure.preservesInput, Bool.and_eq_true, beq_iff_eq, and_assoc]
    at preserves
  exact ⟨input, member, named, preserves⟩

/-- Every accepted child passed the loop's checks. -/
private theorem ClosedGraph.accepted_child (closed : ClosedGraph closure)
    {child : AcceptedTaskDeltaV2} (member : child ∈ closure.acceptedTaskDeltas) :
    ∃ candidate, AcceptedFrom closure child candidate ∧
      (∀ ref ∈ child.inputBindingRefs, ∃ binding, closure.bindingById ref = some binding) ∧
      ExactRunEvidenceClosure.checkChildBindings candidate (childBindings closure child) =
      .ok () := by
  have understanding := closed.requestUnderstanding
  unfold ExactRunEvidenceClosure.checkRequestUnderstanding at understanding
  cases stored : closure.requestUnderstandingRecord with
  | none =>
    simp only [stored, expect_eq_ok_iff, List.isEmpty_iff] at understanding
    exact absurd (understanding ▸ member) List.not_mem_nil
  | some record =>
    simp only [stored, Except.bind_eq_ok_iff] at understanding
    obtain ⟨-, -, -, -, ⟨⟩, children, -⟩ := understanding
    obtain ⟨earlier, success⟩ := Except.exists_check_of_forAfterM children member
    simp only [ExactRunEvidenceClosure.checkAcceptedChild, Except.bind_eq_ok_iff] at success
    obtain ⟨-, -, success⟩ := success
    split at success
    · next candidate decision found decided =>
      simp only [Except.bind_eq_ok_iff, expect_eq_ok_iff, List.all_eq_true, beq_iff_eq,
        Option.isSome_iff_exists] at success
      obtain ⟨-, accepted, -, -, -, -, -, resolved, ⟨⟩, bound, -⟩ := success
      obtain ⟨emitted, named⟩ := mem_of_lastByKey found
      obtain ⟨recorded, own⟩ := mem_of_lastByKey decided
      exact ⟨candidate, ⟨named, record, decision, stored, emitted, recorded, own, accepted⟩,
        resolved, bound⟩
    · exact absurd success Except.throw_ne_ok

theorem ClosedGraph.nodup_candidateRefs (closed : ClosedGraph closure) :
    (closure.acceptedTaskDeltas.map (·.candidateRef)).Nodup := by
  have understanding := closed.requestUnderstanding
  unfold ExactRunEvidenceClosure.checkRequestUnderstanding at understanding
  cases stored : closure.requestUnderstandingRecord with
  | none =>
    simp only [stored, expect_eq_ok_iff, List.isEmpty_iff] at understanding
    simp [understanding]
  | some record =>
    simp only [stored, Except.bind_eq_ok_iff] at understanding
    obtain ⟨-, -, -, -, ⟨⟩, children, -⟩ := understanding
    refine Except.nodup_of_forAfterM_nil (fun earlier child success => ?_) children
    simp only [ExactRunEvidenceClosure.checkAcceptedChild, Except.bind_eq_ok_iff, expect_eq_ok_iff,
      decide_eq_true_eq] at success
    exact success.choose_spec.1

/-- With canonical records, candidate and input are determined by the child and the name. -/
private theorem input_unique (valid : validates closure = true) {child : AcceptedTaskDeltaV2}
    {left right : DurableTaskDeltaCandidateV2} (fromLeft : AcceptedFrom closure child left)
    (fromRight : AcceptedFrom closure child right) {leftInput rightInput : DurableInputCandidateV2}
    (leftMember : leftInput ∈ left.inputCandidates)
    (rightMember : rightInput ∈ right.inputCandidates) (named : leftInput.name = rightInput.name) :
    leftInput = rightInput := by
  obtain ⟨leftRef, record, -, stored, leftEmitted, -⟩ := fromLeft
  obtain ⟨rightRef, other, -, otherStored, rightEmitted, -⟩ := fromRight
  obtain rfl := Option.some.inj (stored.symm.trans otherStored)
  have canonical : validates record = true := by
    have records := (Bool.and_eq_true_iff.mp valid).1
    simp only [ExactRunEvidenceClosure.recordsAreCanonical, Bool.and_eq_true, stored,
      Option.all_some]
      at records
    tauto
  obtain ⟨-, -, candidates, -, -, -, -, distinct, -⟩ :=
    (RequestUnderstandingRecordV2.validates_iff _).mp canonical
  obtain rfl :=
    List.inj_on_of_nodup_map distinct leftEmitted rightEmitted (leftRef.trans rightRef.symm)
  have names : (left.inputCandidates.map (·.name)).Nodup := by
    have checked := candidates left leftEmitted
    simp only [validates, Bool.and_eq_true, allDistinct_iff] at checked
    exact checked.1.2
  exact List.inj_on_of_nodup_map names leftMember rightMember named

theorem ClosedGraph.nodup_unitTasks (closed : ClosedGraph closure) :
    (closure.requestUnitRecords.map (·.taskId)).Nodup := by
  have units := closed.requestUnits
  simp only [ExactRunEvidenceClosure.checkRequestUnits, Except.bind_eq_ok_iff] at units
  obtain ⟨⟨⟩, checked, -⟩ := units
  refine Except.nodup_of_forAfterM_nil (fun earlier unit success => ?_) checked
  unfold ExactRunEvidenceClosure.checkRequestUnit at success
  split_ifs at success with repeated
  exact repeated

private theorem ClosedGraph.mem_orderedChildren (closed : ClosedGraph closure)
    {child : AcceptedTaskDeltaV2} (member : child ∈ closure.acceptedTaskDeltas) :
    child ∈ closure.orderedChildren := by
  obtain ⟨candidate, ⟨named, record, -, stored, emitted, -⟩, -⟩ := closed.accepted_child member
  simp only [ExactRunEvidenceClosure.orderedChildren, stored, List.mem_filterMap]
  exact ⟨candidate, emitted, named ▸ lastByKey_of_mem closed.nodup_candidateRefs member⟩

private theorem mem_acceptedTaskDeltas_of_ordered {child : AcceptedTaskDeltaV2}
    (member : child ∈ closure.orderedChildren) : child ∈ closure.acceptedTaskDeltas := by
  unfold ExactRunEvidenceClosure.orderedChildren at member
  split at member
  · exact absurd member List.not_mem_nil
  · obtain ⟨candidate, -, found⟩ := List.mem_filterMap.mp member
    exact (mem_of_lastByKey found).1

/-- The arguments of a ToolCall are among the bindings of the latest accepted child of its Task. -/
private theorem ClosedGraph.latest_child_of_call (closed : ClosedGraph closure)
    {call : ToolCallRecord} (member : call ∈ closure.toolCalls) :
    ∃ child ∈ closure.acceptedTaskDeltas,
      (closure.orderedChildrenByTask call.taskId).getLast? = some child ∧
      ∀ ref ∈ call.argumentBindingRefs, ref ∈ child.inputBindingRefs := by
  obtain ⟨earlier, checked⟩ := Except.exists_check_of_forAfterM closed.toolCalls member
  unfold ExactRunEvidenceClosure.checkToolCall at checked
  split at checked
  · exact absurd checked Except.throw_ne_ok
  next task unit manifest gate owners =>
  simp only [Except.bind_eq_ok_iff, expect_eq_ok_iff, List.all_eq_true, decide_eq_true_eq]
    at checked
  obtain ⟨-, -, -, -, -, subset, -⟩ := checked
  simp only [ExactRunEvidenceClosure.callOwners, Option.bind_eq_bind, Option.bind_eq_some_iff,
    Option.ite_none_right_eq_some, Option.some.injEq, Prod.mk.injEq] at owners
  obtain ⟨_, taskFound, ownUnit, unitFound, _, -, _, -, ⟨-, ownTask⟩, rfl, rfl, -, -⟩ := owners
  have units := closed.requestUnits
  simp only [ExactRunEvidenceClosure.checkRequestUnits, Except.bind_eq_ok_iff] at units
  obtain ⟨-, -, -, -, latest⟩ := units
  have tasks := closed.tasks
  simp only [ExactRunEvidenceClosure.checkTasks, Except.bind_eq_ok_iff, expect_eq_ok_iff,
    sameSet_iff] at tasks
  obtain ⟨-, childTasks, -⟩ := tasks
  obtain ⟨taskMember, taskNamed⟩ := mem_of_lastByKey taskFound
  have known : call.taskId ∈ closure.taskIds := taskNamed ▸ List.mem_map_of_mem taskMember
  obtain ⟨some, someMember, someTask⟩ := List.mem_map.mp ((childTasks _).mpr known)
  have ordered : call.taskId ∈ (closure.orderedChildren.map (·.taskId)).dedup :=
    List.mem_dedup.mpr (someTask ▸ List.mem_map_of_mem (closed.mem_orderedChildren someMember))
  have told := Except.forM_eq_ok_iff.mp latest _ ordered
  simp only [ExactRunEvidenceClosure.checkLatestChild, Except.bind_eq_ok_iff, getItem_eq_ok_iff,
    expect_eq_ok_iff, Bool.and_eq_true, sameSet_iff] at told
  obtain ⟨taskUnit, unitOfTask, child, last, ⟨-, sameBindings⟩, -⟩ := told
  have same : taskUnit = ownUnit := by
    have found := lastByKey_of_mem closed.nodup_unitTasks (mem_of_lastByKey unitFound).1
    rw [ownTask] at found
    exact Option.some.inj (unitOfTask.symm.trans found)
  subst same
  have listed := List.mem_of_getLast? last
  refine ⟨child, mem_acceptedTaskDeltas_of_ordered (List.mem_of_mem_filter listed), last, ?_⟩
  exact fun ref argument => (sameBindings ref).mpr (subset ref argument)

/-- Every listed binding, and every argument of a ToolCall, carries what its candidate proposed. -/
structure BindingProvenance (closure : ExactRunEvidenceClosure) : Prop where
  children : ∀ child ∈ closure.acceptedTaskDeltas, ∀ ref ∈ child.inputBindingRefs,
    ∃ binding candidate, closure.bindingById ref = some binding ∧
      AcceptedFrom closure child candidate ∧ CarriesInput candidate binding
  arguments : ∀ call ∈ closure.toolCalls, ∀ ref ∈ call.argumentBindingRefs,
    ∃ binding child candidate, closure.bindingById ref = some binding ∧
      (closure.orderedChildrenByTask call.taskId).getLast? = some child ∧
      AcceptedFrom closure child candidate ∧ CarriesInput candidate binding

/-- The bindings that one child lists under one name agree. -/
def ListedBindingsAgree (closure : ExactRunEvidenceClosure) : Prop :=
  ∀ child ∈ closure.acceptedTaskDeltas, ∀ left ∈ childBindings closure child,
    ∀ right ∈ childBindings closure child, left.name = right.name →
      left.normalizedValue = right.normalizedValue ∧ left.authority = right.authority ∧
        left.sourceRefs = right.sourceRefs

/-- The children's half of the law already settles the arguments. -/
private theorem bindingProvenance_of_children (closed : ClosedGraph closure)
    (children : ∀ child ∈ closure.acceptedTaskDeltas, ∀ ref ∈ child.inputBindingRefs,
      ∃ binding candidate, closure.bindingById ref = some binding ∧
      AcceptedFrom closure child candidate ∧
        CarriesInput candidate binding) : BindingProvenance closure := by
  refine ⟨children, fun call member ref argument => ?_⟩
  obtain ⟨child, accepted, latest, subset⟩ := closed.latest_child_of_call member
  obtain ⟨binding, candidate, found, proposed, carries⟩ :=
    children child accepted ref (subset ref argument)
  exact ⟨binding, child, candidate, found, latest, proposed, carries⟩

/-- In an accepted closure every listed binding carries its candidate's input exactly when the
bindings that one child lists under one name agree. -/
theorem binding_provenance_iff (valid : validates closure = true) :
    BindingProvenance closure ↔ ListedBindingsAgree closure := by
  have closed := closedGraph_of_validates valid
  constructor
  · intro provenance child member left leftListed right rightListed named
    have carried {binding : InputBinding} (listed : binding ∈ childBindings closure child) :
        ∃ candidate, AcceptedFrom closure child candidate ∧ CarriesInput candidate binding := by
      obtain ⟨ref, present, found⟩ := List.mem_filterMap.mp listed
      obtain ⟨other, candidate, same, proposed, carries⟩ :=
        provenance.children child member ref present
      exact ⟨candidate, proposed, Option.some.inj (same.symm.trans found) ▸ carries⟩
    obtain ⟨leftCandidate, fromLeft, input, inLeft, leftName, leftValue, leftAuthority,
        leftSource⟩ :=
      carried leftListed
    obtain ⟨rightCandidate, fromRight, other, inRight, rightName, rightValue, rightAuthority,
        rightSource⟩ :=
      carried rightListed
    obtain rfl :=
      input_unique valid fromLeft fromRight inLeft inRight (by rw [leftName, rightName, named])
    exact ⟨Option.some.inj (leftValue.symm.trans rightValue),
      leftAuthority.trans rightAuthority.symm, leftSource.trans rightSource.symm⟩
  · intro agree
    refine bindingProvenance_of_children closed fun child member ref present => ?_
    obtain ⟨candidate, proposed, resolved, checked⟩ := closed.accepted_child member
    obtain ⟨binding, found⟩ := resolved ref present
    have listed : binding ∈ childBindings closure child :=
      List.mem_filterMap.mpr ⟨ref, present, found⟩
    obtain ⟨last, lastFound, lastName⟩ := exists_lastByKey (·.name) listed
    obtain ⟨input, inCandidate, named, value, authority, source⟩ :=
      carriesInput_of_checkChildBindings checked (lastName ▸ lastFound)
    obtain ⟨sameValue, sameAuthority, sameSource⟩ :=
      agree child member binding listed last (mem_of_lastByKey lastFound).1 lastName.symm
    exact ⟨binding, candidate, found, proposed, input, inCandidate, named.trans lastName,
      sameValue ▸ value, sameAuthority.trans authority, sameSource.trans source⟩

def exampleBinding (bindingId : Uuid) (normalizedValue : Text) : InputBinding where
  bindingId := bindingId
  name := "order_id"
  normalizedValue := normalizedValue
  authority := .userClaim
  sourceRefs := [3]
  validationStatus := .accepted
  confirmedByUser := true
  createdAt := .utc 10
  updatedAt := .utc 10

/-- The record of a candidate that proposes one order id. -/
def exampleUnderstanding (candidateValue : Text) : RequestUnderstandingRecordV2 where
  requestUnderstandingRecordId := 5
  runId := 1
  messageRef := 3
  schemaVersion := "request_understanding_record.p0.v2"
  modelInputSchemaVersion := "e2e01-thin-v1"
  modelOutputSchemaVersion := "e2e01-thin-v2"
  contextualization :=
    { text := "order lookup"
      resolvedReferenceCandidates := []
      uncertainties := []
      sourceMessageRefs := [3] }
  taskDeltaCandidates :=
    [{ candidateId := 10
       operation := .addGoal
       goalPatch := "show the order"
       inputCandidates :=
         [{ name := "order_id"
            candidateValue := candidateValue
            semanticRole := "TARGET_RESOURCE_IDENTIFIER"
            authority := .userClaim
            sourceKind := .currentMessage
            sourceRef := 3
            sourceSpanStart := 5
            sourceSpanEndExclusive := 11
            sourceQuoteSha256 := List.replicate 64 '0'
            confidence := 1 }]
       confidence := 1 }]
  candidateValidation := [{ candidateRef := 10, decision := .accept }]
  acceptedDeltaRefs := [20]
  validatedTaskStateVersion := some 1
  nextMoveCandidateRef := some 6
  createdAt := .utc 10

def exampleArtifact : ModelVisibleToolsetArtifact where
  modelVisibleToolsetHash :=
    "sha256:218335c1f8490259267bbae4b163c6799ba0f45633a57f911f3afd5900b9e040".toList
  providerVisibleToolSpecs := [exampleToolSpec]

/-- A running Run whose accepted child lists the bindings and whose ToolCall uses one of them. -/
def exampleEvidence (listed : List InputBinding) (argument : Uuid) : ExactRunEvidenceClosure where
  conversationRecord :=
    { schemaVersion := "conversation_record.p0.v1", conversationId := 2,
      ownerCustomerId := "customer"
      createdAt := .utc 0 }
  runRecord :=
    { runId := 1, conversationId := some 2, status := .running, providerLane := "lane", startedAt :=
      .utc 0 }
  messageRecords :=
    [{ schemaVersion := "message_record.p0.v1", messageId := 3, conversationId :=
      2, direction := .user
       content := "show O-1001 now".toList, receivedAt := .utc 0 }]
  requestUnderstandingRecord := some (exampleUnderstanding "O-1001".toList)
  acceptedTaskDeltas :=
    [{ acceptedDeltaId := 20, candidateRef := 10, messageRef := 3, operation := .addGoal
       goalText := "show the order", inputBindingRefs :=
         listed.map (·.bindingId), acceptedAt := .utc 10
       taskId := 40, baseTaskStateVersion := none, resultTaskStateVersion := 1 }]
  inputBindingRecords := listed
  taskRecords :=
    [{ taskId := 40, ownerCustomerId := "customer", status := .active, stateVersion := 1
       createdAt := .utc 10, updatedAt := .utc 10 }]
  taskStateTransitions := []
  requestUnitRecords :=
    [{ requestUnitId := 50, taskId := 40, goalText := "show the order", goalSourceRefs := [3]
       inputBindingRefs := listed.map (·.bindingId), status := .active, stateVersion := 1
       createdAt := .utc 10, updatedAt := .utc 10 }]
  conversationTaskLinks :=
    [{ schemaVersion := "conversation_task_link_record.p0.v1", conversationId := 2, taskId := 40
       linkReason := "INITIAL", linkedAt := .utc 10 }]
  runTaskLinks := [{ schemaVersion := "run_task_link_record.p0.v1", runId := 1, taskId := 40 }]
  gateDecisions :=
    [{ gateDecisionId := 70, modelCallId := 8, contextManifestId := 60
       requestedProviderToolName := "get_order", resolvedCanonicalToolName := some "get_order"
       snapshotMatch := true, registrationValid := true, schemaValid :=
         true, trustedFieldValid := true
       argumentBindingValid := true, argumentBindingRefs := [argument], budgetValid := true
       progressValid := true, validatedTaskStateVersion := some 1, stateVersionValid := true
       actionBoundaryValid := true, decision := .accept, decidedAt := .utc 20 }]
  toolCalls :=
    [{ toolCallId := 80, runId := 1, taskId := 40, requestUnitId := 50, modelCallId := 8
       contextManifestId := 60, gateDecisionId := 70, canonicalToolName := "get_order"
       toolRegistryVersion := "registry", validatedTaskStateVersion := 1
       argumentBindingRefs := [argument], effect := .read, attemptCount := 0, status := .created
       startedAt := .utc 20 }]
  toolAttempts := []
  observationRecords := []
  contextManifests :=
    [{ contextManifestId := 60, runId := 1, modelCallId := 8, toolRegistryVersion := "registry"
       modelVisibleToolsetHash := exampleArtifact.modelVisibleToolsetHash,
       selectedMessageRefs := [3]
       redactionPolicyVersion := "policy", tokenCounts := {}, assembledAt := .utc 5 }]
  modelVisibleToolsetArtifacts := [exampleArtifact]
  traceEvents :=
    [{ traceEventId := 90, eventType := .toolCallCreated, occurredAt := .utc 20, runId := 1
       toolCallId := some 80, toolCallTerminalStatus := some .created }]

/-- One listed binding: the law holds of the closure. -/
theorem binding_provenance_iff_single :
    BindingProvenance (exampleEvidence [exampleBinding 30 "O-1001".toList] 30) ↔
      ListedBindingsAgree (exampleEvidence [exampleBinding 30 "O-1001".toList] 30) :=
  binding_provenance_iff (by decide +kernel)

/-- A second binding of the same name hides the first, which no candidate proposed. -/
theorem hidden_binding_accepted :
    validates (exampleEvidence [exampleBinding 30 "O-9999".toList,
      exampleBinding 31 "O-1001".toList] 30) =
        true ∧
      ¬ BindingProvenance
        (exampleEvidence [exampleBinding 30 "O-9999".toList, exampleBinding
          31 "O-1001".toList] 30) := by
  refine ⟨by decide +kernel, fun provenance => ?_⟩
  obtain ⟨binding, candidate, found, ⟨-, record, -, stored, emitted, -⟩,
      input, member, -, value, -⟩ :=
    provenance.children _ (List.mem_singleton.mpr rfl) 30 (by decide)
  obtain rfl : binding = exampleBinding 30 "O-9999".toList := by
    refine Option.some.inj (found.symm.trans ?_)
    decide
  obtain rfl : exampleUnderstanding "O-1001".toList = record := Option.some.inj stored
  obtain rfl := List.mem_singleton.mp emitted
  obtain rfl := List.mem_singleton.mp member
  revert value
  decide

end MiniAgent.Application
