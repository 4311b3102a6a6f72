import MiniAgent.Core.InitialRequest

/-! # The reducer closure law

The candidate loop is inverted once: `reduceCandidates_spec` says which decision and which graph
every emitted Candidate contributes. The closure builder keeps both sequences, and each of the
three decisions is issued under its own count of accepted Candidates, so the parallel sequences
of a returned decision all follow the emission order.
-/

namespace MiniAgent.Core

open ContractModel Keyed

/-- The graph the reducer fills in for an accepted Candidate. -/
def initialTaskGraph (candidate : TaskDeltaCandidate) (allocation : InitialTaskIdentityAllocationV2)
    (customerContext : CustomerContext) (messageRef : Uuid) (normalizedOrderId : Text)
    (now : Datetime) :
    InitialAcceptedTaskGraphV2 where
  acceptedDelta :=
    { acceptedDeltaId := allocation.acceptedDeltaId
      candidateRef := candidate.candidateId
      messageRef := messageRef
      operation := .addGoal
      goalText := candidate.goalPatch
      inputBindingRefs := [allocation.bindingId]
      acceptedAt := now
      taskId := allocation.taskId
      baseTaskStateVersion := none
      resultTaskStateVersion := 1 }
  inputBinding :=
    { bindingId := allocation.bindingId
      name := "order_id"
      normalizedValue := normalizedOrderId
      authority := .userClaim
      sourceRefs := [messageRef]
      validationStatus := .accepted
      confirmedByUser := true
      createdAt := now
      updatedAt := now }
  task :=
    { taskId := allocation.taskId
      ownerCustomerId := customerContext.customerId
      status := .active
      stateVersion := 1
      createdAt := now
      updatedAt := now }
  requestUnit :=
    { requestUnitId := allocation.requestUnitId
      taskId := allocation.taskId
      goalText := candidate.goalPatch
      goalSourceRefs := [messageRef]
      inputBindingRefs := [allocation.bindingId]
      status := .active
      stateVersion := 1
      createdAt := now
      updatedAt := now }

/-- The builder returns that graph, and only when the graph's own validator accepts it. -/
theorem buildInitialTaskGraphV2_eq_ok_iff {candidate : TaskDeltaCandidate}
    {allocation : InitialTaskIdentityAllocationV2} {customerContext : CustomerContext}
    {messageRef : Uuid} {normalizedOrderId : Text} {now : Datetime}
    {graph : InitialAcceptedTaskGraphV2} :
    buildInitialTaskGraphV2 candidate allocation customerContext messageRef normalizedOrderId now =
    .ok graph ↔
      validates (initialTaskGraph candidate allocation customerContext messageRef normalizedOrderId
        now) = true ∧
        graph = initialTaskGraph candidate allocation customerContext messageRef normalizedOrderId
        now := by
  simp only [buildInitialTaskGraphV2, Except.bind_eq_ok_iff, constructOr_eq_ok_iff]
  constructor
  · rintro ⟨_, ⟨-, rfl⟩, _, ⟨-, rfl⟩, _, ⟨-, rfl⟩, _, ⟨-, rfl⟩, valid, rfl⟩
    exact ⟨valid, rfl⟩
  · rintro ⟨valid, rfl⟩
    obtain ⟨⟨delta, binding, task, requestUnit⟩, -⟩ :=
      (InitialAcceptedTaskGraphV2.validates_iff _).mp valid
    exact ⟨_, ⟨binding, rfl⟩, _, ⟨delta, rfl⟩, _, ⟨task, rfl⟩, _, ⟨requestUnit, rfl⟩, valid, rfl⟩

/-- The decision recorded for an emitted Candidate. -/
def candidateDecision (output : RequestUnderstandingOutputV2) (candidate : TaskDeltaCandidate) :
    CandidateValidationRecordV2 where
  candidateRef := candidate.candidateId
  decision := if (candidateRejectionReasonV2 candidate output).isSome then .reject else .accept
  reasonCode := candidateRejectionReasonV2 candidate output

theorem candidateDecision_validates (output : RequestUnderstandingOutputV2)
    (candidate : TaskDeltaCandidate) :
    validates (candidateDecision output candidate) = true := by
  cases reason : candidateRejectionReasonV2 candidate output <;>
    simp [validates, candidateDecision, reason]

@[simp] theorem candidateDecision_accept_iff (output : RequestUnderstandingOutputV2)
    (candidate : TaskDeltaCandidate) : (candidateDecision output candidate).decision = .accept ↔
      candidateRejectionReasonV2 candidate output = none := by
  cases reason : candidateRejectionReasonV2 candidate output <;> simp [candidateDecision, reason]

/-- The emitted Candidates that no rejection reason applies to. -/
def acceptedCandidates (output : RequestUnderstandingOutputV2)
    (candidates : List TaskDeltaCandidate) :
    List TaskDeltaCandidate :=
  candidates.filter fun candidate => (candidateRejectionReasonV2 candidate output).isNone

/-- An accepted Candidate has one input, and that input has a normal form. -/
theorem input_of_accepted {candidate : TaskDeltaCandidate} {output : RequestUnderstandingOutputV2}
    (accepted : candidateRejectionReasonV2 candidate output = none) :
    ∃ input normalized, candidate.inputCandidates = [input] ∧ input.sourceRef = output.messageRef ∧
      input.name = "order_id" ∧ input.authority = .userClaim ∧
      normalizeOrderId input.candidateValue = some normalized := by
  unfold candidateRejectionReasonV2 at accepted
  split_ifs at accepted
  split at accepted
  · next input single =>
    split_ifs at accepted with mismatch invalid
    simp only [Bool.or_eq_true, bne_iff_ne, not_or, ne_eq, not_not] at mismatch
    have defined : normalizeOrderId input.candidateValue ≠ none := by simpa using invalid
    obtain ⟨normalized, valid⟩ := Option.ne_none_iff_exists'.mp defined
    exact ⟨input, normalized, single, mismatch.2, mismatch.1.1.1.1, mismatch.1.1.2, valid⟩
  · exact absurd accepted (Option.some_ne_none _)

/-- `graph` is the one the loop built for `candidate`. -/
structure BuiltFor (allocations : Uuid → Option InitialTaskIdentityAllocationV2)
    (customerContext : CustomerContext) (messageRef : Uuid) (now : Datetime)
    (candidate : TaskDeltaCandidate) (graph : InitialAcceptedTaskGraphV2) : Prop where
  built : ∃ input allocation normalized, candidate.inputCandidates = [input] ∧
    normalizeOrderId input.candidateValue = some normalized ∧
    allocations candidate.candidateId = some allocation ∧
    graph = initialTaskGraph candidate allocation customerContext messageRef normalized now
  valid : validates graph = true

variable {output : RequestUnderstandingOutputV2}
  {allocations : Uuid → Option InitialTaskIdentityAllocationV2} {customerContext : CustomerContext}
  {now : Datetime}

private theorem reduceCandidate_spec {candidate : TaskDeltaCandidate}
    {decision : CandidateValidationRecordV2} {graph : Option InitialAcceptedTaskGraphV2}
    (success : reduceCandidate output allocations customerContext now candidate =
      .ok (decision, graph)) :
    decision = candidateDecision output candidate ∧
      match candidateRejectionReasonV2 candidate output with
      | some _ => graph = none
      | none => ∃ built, graph = some built ∧
          BuiltFor allocations customerContext output.messageRef now candidate built := by
  simp only [reduceCandidate, Except.bind_eq_ok_iff, constructOr_eq_ok_iff] at success
  obtain ⟨recorded, ⟨-, rfl⟩, success⟩ := success
  cases reason : candidateRejectionReasonV2 candidate output with
  | some code =>
    simp only [reason, Option.isSome_some, ↓reduceIte, Except.pure_eq_ok_iff, Prod.mk.injEq]
      at success
    exact ⟨success.1.symm.trans (by simp [candidateDecision, reason]), success.2.symm⟩
  | none =>
    obtain ⟨input, normalized, single, -, -, -, valid⟩ := input_of_accepted reason
    simp only [reason, Option.isSome_none, Bool.false_eq_true, ↓reduceIte, single, valid]
      at success
    cases stored : allocations candidate.candidateId with
    | none => simp only [stored] at success; exact absurd success Except.throw_ne_ok
    | some allocation =>
      simp only [stored, Except.bind_eq_ok_iff, buildInitialTaskGraphV2_eq_ok_iff,
        Except.pure_eq_ok_iff, Prod.mk.injEq] at success
      obtain ⟨built, ⟨checked, rfl⟩, rfl, rfl⟩ := success
      exact ⟨by simp [candidateDecision, reason], _, rfl,
        ⟨input, allocation, normalized, single, valid, stored, rfl⟩, checked⟩

/-- Decisions follow the emission order, and the graphs follow the accepted Candidates in it. -/
theorem reduceCandidates_spec {candidates : List TaskDeltaCandidate}
    {decisions : List CandidateValidationRecordV2} {graphs : List InitialAcceptedTaskGraphV2}
    (success : reduceCandidates output allocations customerContext now candidates =
      .ok (decisions, graphs)) :
    decisions = candidates.map (candidateDecision output) ∧
      List.Forall₂ (BuiltFor allocations customerContext output.messageRef now)
        (acceptedCandidates output candidates) graphs := by
  induction candidates generalizing decisions graphs with
  | nil =>
    obtain ⟨rfl, rfl⟩ := Prod.mk.inj (Except.pure_eq_ok_iff.mp success)
    exact ⟨rfl, .nil⟩
  | cons candidate rest ih =>
    simp only [reduceCandidates, Except.bind_eq_ok_iff, Except.pure_eq_ok_iff] at success
    obtain ⟨⟨decision, graph⟩, first, ⟨laterDecisions, laterGraphs⟩, following, same⟩ := success
    obtain ⟨rfl, rfl⟩ := Prod.mk.inj same
    obtain ⟨rfl, contribution⟩ := reduceCandidate_spec first
    obtain ⟨rfl, built⟩ := ih following
    refine ⟨rfl, ?_⟩
    cases reason : candidateRejectionReasonV2 candidate output with
    | some code =>
      simp only [reason] at contribution
      simpa [acceptedCandidates, List.filter_cons, reason, contribution] using built
    | none =>
      simp only [reason] at contribution
      obtain ⟨head, rfl, builtHead⟩ := contribution
      simpa [acceptedCandidates, List.filter_cons, reason] using List.Forall₂.cons builtHead built

/-- The reducer's decision and the sequences it was assembled from. -/
structure ReducesTo (output : RequestUnderstandingOutputV2) (trusted : TrustedReducerArguments)
    (graphs : List InitialAcceptedTaskGraphV2) (decision : InitialRequestDecisionV2) : Prop where
  accepts : AcceptsAllocations trusted (output.taskDeltaCandidates.map (·.candidateId))
  built : List.Forall₂ (BuiltFor (lastByKey (·.candidateRef) trusted.candidateIdentityAllocations)
    trusted.customerContext output.messageRef trusted.now)
    (acceptedCandidates output output.taskDeltaCandidates) graphs
  closes : ClosesRequest output trusted.requestUnderstandingRecordId
    (output.taskDeltaCandidates.map (candidateDecision output))
    (graphs.map (·.acceptedDelta))
    (if output.taskDeltaCandidates.length = 1 ∧ graphs.length = 1 then
      output.nextMoveCandidate.baseTaskStateVersion else none)
    (if output.taskDeltaCandidates.length = 1 ∧ graphs.length = 1 then some 1 else none)
    (if output.taskDeltaCandidates.length = 1 ∧ graphs.length = 1 then
      some trusted.nextMoveCandidateRef else none) decision.closure
  taskGraphs : decision.taskGraphs = graphs
  shape : match decision with
    | .noTask _ => graphs = []
    | .routable _ => output.taskDeltaCandidates.length = 1 ∧ graphs.length = 1
    | .unrouted _ => graphs ≠ [] ∧ ¬ (output.taskDeltaCandidates.length = 1 ∧ graphs.length = 1)

theorem sealedRoutableDecision_eq_some
    {fields decision : InitialRequestRoutableTaskGraphDecisionV2} :
    sealedRoutableDecision fields = some decision ↔
    validateInitialRoutableDecisionFieldsV2 fields = true ∧
      fields.nextMoveCandidate.isEncodable = true ∧ decision = fields := by
  cases valid : validateInitialRoutableDecisionFieldsV2 fields with
  | false => simp [sealedRoutableDecision, initialRoutableDecisionFieldsPayloadV2, valid]
  | true =>
    cases encodable : fields.nextMoveCandidate.isEncodable with
    | false => simp [sealedRoutableDecision, initialRoutableDecisionFieldsPayloadV2, encodable]
    | true =>
      have checked : validates fields = true := by
        simp [validates, initialRoutableDecisionFieldsPayloadV2, valid, encodable]
      simp [sealedRoutableDecision, initialRoutableDecisionFieldsPayloadV2,
        construct_of_validates checked, valid, encodable, eq_comm (a := decision)]

theorem validateAndReduceInitialRequestV2_spec {requestInput : RequestUnderstandingInput}
    {messages : AuthoritativeMessages} {trusted : TrustedReducerArguments}
    {decision : InitialRequestDecisionV2}
    (success : validateAndReduceInitialRequestV2 requestInput output messages trusted =
      .ok decision) :
    PassesPreflight requestInput output messages ∧ ∃ graphs,
    ReducesTo output trusted graphs decision := by
  simp only [validateAndReduceInitialRequestV2, Except.bind_eq_ok_iff,
    preflightInitialRequestProjectionV2_eq_ok_iff,
    canonicalInitialIdentityAllocationsV2_eq_ok_iff] at success
  obtain ⟨-, ⟨passes, rfl⟩, -, ⟨accepts, rfl⟩, ⟨decisions, graphs⟩, reduced, closure, closed,
    success⟩ := success
  obtain ⟨rfl, built⟩ := reduceCandidates_spec reduced
  have closes := buildRequestUnderstandingClosureV2_spec closed
  simp only [Bool.and_eq_true, beq_iff_eq] at closes success
  refine ⟨passes, graphs, ?_⟩
  cases graphs with
  | nil =>
    cases result : construct { closure := closure : InitialRequestNoTaskDecisionV2 } with
    | none => simp only [result, Option.map_none]
        at success; exact absurd success Except.throw_ne_ok
    | some noTask =>
      obtain ⟨-, rfl⟩ := construct_eq_some.mp result
      simp only [result, Option.map_some, Except.pure_eq_ok_iff] at success
      subst success
      exact ⟨accepts, built, closes, rfl, rfl⟩
  | cons graph rest =>
    by_cases exactOne : output.taskDeltaCandidates.length = 1 ∧ (graph :: rest).length = 1
    · obtain rfl : rest = [] := by simpa using exactOne.2
      simp only [if_pos exactOne] at success
      split at success
      · next other found =>
        obtain ⟨routable, sealed, rfl⟩ := Option.map_eq_some_iff.mp found
        obtain ⟨-, -, rfl⟩ := sealedRoutableDecision_eq_some.mp sealed
        obtain rfl := Except.pure_eq_ok_iff.mp success
        exact ⟨accepts, built, closes, rfl, exactOne⟩
      · exact absurd success Except.throw_ne_ok
    · simp only [if_neg exactOne] at success
      split at success
      · next other found =>
        obtain ⟨unrouted, constructed, rfl⟩ := Option.map_eq_some_iff.mp found
        obtain ⟨-, rfl⟩ := construct_eq_some.mp constructed
        obtain rfl := Except.pure_eq_ok_iff.mp success
        exact ⟨accepts, built, closes, rfl, List.cons_ne_nil _ _, exactOne⟩
      · exact absurd success Except.throw_ne_ok

theorem acceptedCandidateRefs_decisions (output : RequestUnderstandingOutputV2)
    (candidates : List TaskDeltaCandidate) :
    acceptedCandidateRefs (candidates.map (candidateDecision output)) =
      (acceptedCandidates output candidates).map (·.candidateId) := by
  simp only [acceptedCandidateRefs, acceptedCandidates, List.filter_map, List.map_map]
  congr 1
  apply List.filter_congr
  intro candidate _
  rw [Bool.eq_iff_iff]
  simp

/-- With distinct identities the recorded ACCEPT references select the accepted Candidates. -/
private theorem filter_acceptedCandidateRefs
    (distinct : (output.taskDeltaCandidates.map (·.candidateId)).Nodup) :
    output.taskDeltaCandidates.filter (fun candidate => decide (candidate.candidateId ∈
      acceptedCandidateRefs (output.taskDeltaCandidates.map (candidateDecision output)))) =
      acceptedCandidates output output.taskDeltaCandidates := by
  rw [acceptedCandidateRefs_decisions]
  apply List.filter_congr
  intro candidate member
  rw [Bool.eq_iff_iff, decide_eq_true_iff]
  simp only [acceptedCandidates, List.mem_map, List.mem_filter]
  constructor
  · rintro ⟨other, ⟨otherMember, accepted⟩, same⟩
    rwa [← List.inj_on_of_nodup_map distinct otherMember member same]
  · exact fun accepted => ⟨candidate, ⟨member, accepted⟩, rfl⟩

/-- The graph carries the identities allocated to the Candidate and the Candidate's own content. -/
structure CarriesCandidate (trusted : TrustedReducerArguments) (candidate : TaskDeltaCandidate)
    (graph : InitialAcceptedTaskGraphV2) : Prop where
  candidateRef : graph.acceptedDelta.candidateRef = candidate.candidateId
  identities : ∃ allocation ∈ trusted.candidateIdentityAllocations,
    allocation.candidateRef = candidate.candidateId ∧ graph.identities = allocation.generated
  orderId : ∃ input, candidate.inputCandidates = [input] ∧
    normalizeOrderId input.candidateValue = some graph.inputBinding.normalizedValue
  goal : graph.acceptedDelta.goalText = candidate.goalPatch ∧
    graph.requestUnit.goalText = candidate.goalPatch
  closed : validates graph = true

theorem BuiltFor.carriesCandidate {trusted : TrustedReducerArguments} {messageRef : Uuid}
    {candidate : TaskDeltaCandidate} {graph : InitialAcceptedTaskGraphV2}
    (built : BuiltFor (lastByKey (·.candidateRef) trusted.candidateIdentityAllocations)
      trusted.customerContext messageRef trusted.now candidate graph) :
    CarriesCandidate trusted candidate graph := by
  obtain ⟨⟨input, allocation, normalized, single, normal, stored, rfl⟩, valid⟩ := built
  obtain ⟨member, own⟩ := mem_of_lastByKey stored
  exact ⟨rfl, ⟨allocation, member, own, rfl⟩, ⟨input, single, normal⟩, ⟨rfl, rfl⟩, valid⟩

/-- The parallel sequences of a decision agree, in emission order, and its shape follows them. -/
structure ReducerClosureLaw (output : RequestUnderstandingOutputV2)
    (trusted : TrustedReducerArguments) (decision : InitialRequestDecisionV2) : Prop where
  decisionsInOrder : decision.closure.record.candidateValidation.map (·.candidateRef) =
    output.taskDeltaCandidates.map (·.candidateId)
  oneDecisionEach : (decision.closure.record.candidateValidation.map (·.candidateRef)).Nodup
  acceptedInOrder : acceptedCandidateRefs decision.closure.record.candidateValidation =
    decision.closure.acceptedTaskDeltas.map (·.candidateRef)
  acceptedRefs : decision.closure.record.acceptedDeltaRefs =
    decision.closure.acceptedTaskDeltas.map (·.acceptedDeltaId)
  graphsInOrder : decision.closure.acceptedTaskDeltas = decision.taskGraphs.map (·.acceptedDelta)
  graphsOfCandidates : List.Forall₂ (CarriesCandidate trusted)
    (output.taskDeltaCandidates.filter fun candidate => decide (candidate.candidateId ∈
      acceptedCandidateRefs decision.closure.record.candidateValidation)) decision.taskGraphs
  noTask_iff : (∃ result, decision = .noTask result) ↔
    acceptedCandidateRefs decision.closure.record.candidateValidation = []
  routable_iff : (∃ result, decision = .routable result) ↔ ∃ candidate,
    output.taskDeltaCandidates = [candidate] ∧
      acceptedCandidateRefs decision.closure.record.candidateValidation = [candidate.candidateId]
  unrouted_iff : (∃ result, decision = .unrouted result) ↔
    acceptedCandidateRefs decision.closure.record.candidateValidation ≠ [] ∧
      ¬ ∃ candidate, output.taskDeltaCandidates = [candidate] ∧
        acceptedCandidateRefs decision.closure.record.candidateValidation = [candidate.candidateId]
  nextMove_iff : decision.closure.record.nextMoveCandidateRef.isSome = true ↔
    ∃ result, decision = .routable result
  validatedVersion_iff : decision.closure.record.validatedTaskStateVersion.isSome = true ↔
    ∃ result, decision = .routable result

/-- The reducer accepts exactly as many Candidates as it built graphs for. -/
private theorem ReducesTo.length_accepted {trusted : TrustedReducerArguments}
    {graphs : List InitialAcceptedTaskGraphV2} {decision : InitialRequestDecisionV2}
    (reduced : ReducesTo output trusted graphs decision) :
    (acceptedCandidates output output.taskDeltaCandidates).length = graphs.length :=
  reduced.built.length_eq

/-- One emitted and accepted Candidate is the same as one emitted Candidate and one graph. -/
private theorem ReducesTo.exactOne_iff {trusted : TrustedReducerArguments}
    {graphs : List InitialAcceptedTaskGraphV2} {decision : InitialRequestDecisionV2}
    (reduced : ReducesTo output trusted graphs decision) :
    (output.taskDeltaCandidates.length = 1 ∧ graphs.length = 1) ↔ ∃ candidate,
      output.taskDeltaCandidates = [candidate] ∧
        (acceptedCandidates output output.taskDeltaCandidates).map (·.candidateId) =
          [candidate.candidateId] := by
  rw [← reduced.length_accepted, List.length_eq_one_iff]
  constructor
  · rintro ⟨⟨candidate, single⟩, accepted⟩
    refine ⟨candidate, single, ?_⟩
    simp only [single, acceptedCandidates, List.filter_cons, List.filter_nil] at accepted ⊢
    split at accepted
    · next holds => simp [holds]
    · simp at accepted
  · rintro ⟨candidate, single, accepted⟩
    exact ⟨⟨candidate, single⟩, by simpa using congrArg List.length accepted⟩

theorem reducer_closure_law {requestInput : RequestUnderstandingInput}
    {messages : AuthoritativeMessages} {trusted : TrustedReducerArguments}
    {decision : InitialRequestDecisionV2}
    (success : validateAndReduceInitialRequestV2 requestInput output messages trusted =
      .ok decision) :
    ReducerClosureLaw output trusted decision := by
  obtain ⟨passes, graphs, reduced⟩ := validateAndReduceInitialRequestV2_spec success
  have distinct := (output.validates_iff.mp passes.outputValid).2.2.2.2.1
  have decisions := reduced.closes.candidateValidation
  have children := reduced.closes.acceptedTaskDeltas
  have accepted : acceptedCandidateRefs decision.closure.record.candidateValidation =
      (acceptedCandidates output output.taskDeltaCandidates).map (·.candidateId) := by
    rw [decisions, acceptedCandidateRefs_decisions]
  have noneAccepted : acceptedCandidateRefs decision.closure.record.candidateValidation = [] ↔
      graphs = [] := by
    rw [accepted, List.map_eq_nil_iff, ← List.length_eq_zero_iff, reduced.length_accepted,
      List.length_eq_zero_iff]
  have exactOne := reduced.exactOne_iff
  rw [← accepted] at exactOne
  have routable : (∃ result, decision = .routable result) ↔
      output.taskDeltaCandidates.length = 1 ∧ graphs.length = 1 := by
    have shape := reduced.shape
    cases decision with
    | noTask result => simp [show graphs = [] from shape]
    | routable result => simpa using shape
    | unrouted result => simpa using shape.2
  have emission : decision.closure.record.candidateValidation.map (·.candidateRef) =
      output.taskDeltaCandidates.map (·.candidateId) := by
    simp [decisions, candidateDecision]
  refine ⟨emission, emission ▸ distinct, ?_, ?_, ?_, ?_, ?_, routable.trans exactOne, ?_, ?_, ?_⟩
  · rw [accepted, children, List.map_map]
    exact map_eq_map_of_forall₂ reduced.built fun _ _ built =>
      built.carriesCandidate.candidateRef.symm
  · rw [children, reduced.closes.acceptedDeltaRefs]
  · rw [children, reduced.taskGraphs]
  · rw [decisions, filter_acceptedCandidateRefs distinct, reduced.taskGraphs]
    exact reduced.built.imp fun _ _ built => built.carriesCandidate
  · have shape := reduced.shape
    rw [noneAccepted]
    cases decision with
    | noTask result => simpa using shape
    | routable result => simp [List.ne_nil_of_length_pos (shape.2 ▸ Nat.one_pos)]
    | unrouted result => simpa using shape.1
  · have shape := reduced.shape
    rw [ne_eq, noneAccepted, ← exactOne]
    cases decision with
    | noTask result => simp [show graphs = [] from shape]
    | routable result => simp [shape]
    | unrouted result => simpa using shape
  · rw [routable, reduced.closes.nextMoveCandidateRef]
    split <;> simp_all
  · rw [routable, reduced.closes.validatedVersion]
    split <;> simp_all

def exampleToolSpec : ToolSpec where
  name := "get_order"
  description := "Read one order."
  inputSchema := [("type", .string "object".toList), ("additionalProperties", .bool false)]
  outputSchema := [("type", .string "object".toList), ("additionalProperties", .bool false)]

/-- The model-visible input for a message; only the visible tool is fixed. -/
def exampleRequestInput (originalQuery : Text) : RequestUnderstandingInput where
  runId := 1
  messageRef := 2
  originalQuery := originalQuery
  providerVisibleToolSpecs := [exampleToolSpec]
  modelVisibleToolsetHash :=
    "sha256:218335c1f8490259267bbae4b163c6799ba0f45633a57f911f3afd5900b9e040".toList
  modelFieldsSet := ["schema_version", "run_id", "message_ref", "original_query",
    "provider_visible_tool_specs", "model_visible_toolset_hash"]

/-- A Candidate that proposes an order id and quotes the current message for it. -/
def exampleCandidate (candidateId : Uuid) (candidateValue sourceQuote : Text) :
    TaskDeltaCandidate where
  candidateId := candidateId
  operation := .addGoal
  goalPatch := "show the order"
  inputCandidates :=
    [{ name := "order_id"
       candidateValue := candidateValue
       semanticRole := "TARGET_RESOURCE_IDENTIFIER"
       authority := .userClaim
       sourceKind := .currentMessage
       sourceRef := 2
       sourceQuote := sourceQuote
       confidence := 1 }]
  confidence := 1

def exampleOutput (candidates : List TaskDeltaCandidate) : RequestUnderstandingOutputV2 where
  schemaVersion := "e2e01-thin-v2"
  messageRef := 2
  contextualization :=
    { text := "order lookup"
      resolvedReferenceCandidates := []
      uncertainties := []
      sourceMessageRefs := [2] }
  taskDeltaCandidates := candidates
  nextMoveCandidate := { kind := .askUser }

def exampleAllocation (candidateRef base : Uuid) : InitialTaskIdentityAllocationV2 where
  candidateRef := candidateRef
  acceptedDeltaId := base
  taskId := base + 1
  requestUnitId := base + 2
  bindingId := base + 3

def exampleTrusted (candidateRefs : List Uuid) : TrustedReducerArguments where
  customerContext :=
    { subjectRef := "subject"
      customerId := "customer"
      authScopes := ["orders:read"]
      authenticatedAt := .utc 0
      sessionRefHash := "session" }
  requestUnderstandingRecordId := 3
  candidateIdentityAllocations := candidateRefs.map fun ref => exampleAllocation ref (ref * 10)
  nextMoveCandidateRef := 4
  now := .utc 1000

def exampleMessages (message : Text) : AuthoritativeMessages :=
  fun ref => if ref = 2 then some message else none

/-- Two Candidates are accepted: no NextMove, and a graph for each in emission order. -/
theorem reducer_closure_law_two_orders : ∃ decision,
    validateAndReduceInitialRequestV2 (exampleRequestInput "show O-1001 and o-1002".toList)
      (exampleOutput [exampleCandidate 10 "O-1001".toList "O-1001".toList,
        exampleCandidate 11 "O-1002".toList "o-1002".toList])
      (exampleMessages "show O-1001 and o-1002".toList) (exampleTrusted [10, 11]) = .ok decision ∧
    ReducerClosureLaw (exampleOutput [exampleCandidate 10 "O-1001".toList "O-1001".toList,
        exampleCandidate 11 "O-1002".toList "o-1002".toList]) (exampleTrusted [10,
        11]) decision := by
  have returns : (validateAndReduceInitialRequestV2
    (exampleRequestInput "show O-1001 and o-1002".toList)
      (exampleOutput [exampleCandidate 10 "O-1001".toList "O-1001".toList,
        exampleCandidate 11 "O-1002".toList "o-1002".toList])
      (exampleMessages "show O-1001 and o-1002".toList) (exampleTrusted [10, 11])).isOk = true := by
    decide +kernel
  obtain ⟨decision, success⟩ := Except.exists_ok_of_isOk returns
  exact ⟨decision, success, reducer_closure_law success⟩

end MiniAgent.Core
