import MiniAgent.Core.ControlGateway

/-! # What a decision of the Control Gateway says

The gateway computes nine checks and a decision, and the decision's validator derives the decision
from the checks again. Both agree on every input, and an accepted move is the one that the executor
resolves.
-/

namespace MiniAgent.Core

open ContractModel

/-- The registry with `get_order` as its only tool. -/
def exampleSnapshot : RegistrySnapshot where
  toolRegistryVersion := "tool-registry.p0.v1"
  canonicalRegistrations :=
    [{ toolSpec := getOrderToolSpec
       providerVisibleName := "get_order"
       effect := .read
       risk := "LOW"
       idempotency := "IDEMPOTENT"
       handlerRef := "get_order_handler"
       executionPolicy :=
         { timeoutMs := 1000, maxAttempts := 1, interruptBehavior := "MARK_INTERRUPTED" } }]
  providerVisibleToolset := [getOrderToolSpec]
  providerNameToCanonicalName := [⟨"get_order", "get_order"⟩]
  modelVisibleToolsetHash :=
    "sha256:0a5f87753313e42e8da8d492b1747b3e3b5bb08fb50fed4274afa8550b23c113".toList

theorem exampleToolset_hash :
    computeModelVisibleToolsetHash exampleSnapshot.providerVisibleToolset =
    some exampleSnapshot.modelVisibleToolsetHash := by decide +kernel

theorem exampleSnapshot_valid : validates exampleSnapshot = true := by
  have consistent : exampleSnapshot.snapshotIsSelfConsistent = true := by
    unfold RegistrySnapshot.snapshotIsSelfConsistent
    rw [exampleToolset_hash]
    decide
  have rest : (exampleSnapshot.toolRegistryVersion != "" &&
      exampleSnapshot.canonicalRegistrations.all ContractModel.validates &&
      exampleSnapshot.providerVisibleToolset.all ContractModel.validates &&
      exampleSnapshot.providerNameToCanonicalName.all ContractModel.validates &&
      isToolsetHash exampleSnapshot.modelVisibleToolsetHash) = true := by decide
  exact Bool.and_eq_true_iff.mpr ⟨rest, consistent⟩

namespace GatewayInput

variable {input : GatewayInput}

/-- Each check with the reason of its failure, in the order of their priority. -/
def prioritizedChecks (input : GatewayInput) : List (Bool × GateReasonCode) :=
  [(input.argumentBindingValid, .argumentBindingMismatch), (input.snapshotMatch, .snapshotMismatch),
    (input.registrationValid, .toolNotRegistered),
    (input.trustedFieldValid, .trustedFieldInjection),
    (input.schemaValid, .schemaInvalid), (input.budgetValid, .budgetExceeded),
    (input.progressValid, .noProgress),
    (input.stateVersionValid, .stateVersionMismatch),
    (input.actionBoundaryValid, .actionRequiresProposal)]

/-- The reason of the first check that failed. -/
def firstFailure (input : GatewayInput) : Option GateReasonCode :=
  (input.prioritizedChecks.find? (!·.1)).map (·.2)

private theorem reasonCode_eq_firstFailure : input.reasonCode = input.firstFailure := by
  unfold reasonCode firstFailure prioritizedChecks
  simp only [List.find?_cons, List.find?_nil]
  split_ifs <;> simp_all

/-- The prioritized checks are the checks. -/
private theorem all_checks_iff : input.checks.all id = true ↔
    ∀ check ∈ input.prioritizedChecks, check.1 = true := by
  simp only [checks, prioritizedChecks, List.all_cons, List.all_nil, List.forall_mem_cons,
    Bool.and_eq_true, id_eq, and_true]
  tauto

private theorem firstFailure_eq_none : input.firstFailure = none ↔ input.checks.all id = true := by
  rw [all_checks_iff, firstFailure, Option.map_eq_none_iff, List.find?_eq_none]
  apply forall₂_congr
  intro check _
  cases check.1 <;> simp

/-- The check that the reason names has failed. -/
private theorem namedCheck_of_firstFailure {reason : GateReasonCode}
    (first : input.firstFailure = some reason) :
    input.decisionFields.namedCheck reason = false := by
  obtain ⟨check, found, rfl⟩ := Option.map_eq_some_iff.mp first
  have failed : check.1 = false := by simpa using List.find?_some found
  have listed := List.mem_of_find?_eq_some found
  simp only [prioritizedChecks, List.mem_cons, List.not_mem_nil, or_false] at listed
  rcases listed with rfl | rfl | rfl | rfl | rfl | rfl | rfl | rfl | rfl <;> exact failed

private theorem checks_decisionFields : input.decisionFields.checks = input.checks := rfl

/-- A resolved name comes out of the validated name mapping. -/
private theorem isToolName_of_resolved (canonical : validates input.registrySnapshot = true) :
    input.resolved.1.all isToolName = true := by
  simp only [validates, Bool.and_eq_true, List.all_eq_true] at canonical
  obtain ⟨⟨⟨-, bindings⟩, -⟩, -⟩ := canonical
  unfold resolved resolveRegistration
  split
  · next binding single =>
    have named :=
      (bindings binding (List.mem_of_mem_filter (single ▸ List.mem_singleton_self binding))).2
    split <;> exact named
  · rfl

theorem decisionMatchesChecks (canonical : validates input.revalidatedMove = true) :
    input.decisionFields.decisionMatchesChecks = true := by
  have references : input.revalidatedMove.argumentBindingRefs.isEmpty = false := by
    simp only [validates, Bool.and_eq_true, Bool.not_eq_true'] at canonical
    exact canonical.1.1.2
  unfold GateDecision.decisionMatchesChecks
  rw [checks_decisionFields]
  simp only [decisionFields, reasonCode_eq_firstFailure]
  cases first : input.firstFailure with
  | none =>
    have accepted := firstFailure_eq_none.mp first
    have registered : input.resolved.1.isSome = true := by
      have passed :=
        all_checks_iff.mp accepted (input.registrationValid, .toolNotRegistered)
          (by simp [prioritizedChecks])
      simp only [registrationValid, Bool.and_eq_true, beq_iff_eq] at passed
      rw [passed.1.1.1]
      rfl
    simp [accepted, registered, references]
  | some reason =>
    have rejected : input.checks.all id = false := by
      rw [← Bool.not_eq_true, ← firstFailure_eq_none, first]
      exact Option.some_ne_none reason
    have failed := namedCheck_of_firstFailure first
    simp only [rejected, Bool.false_eq_true, ↓reduceIte, Bool.not_false, Bool.true_and,
      Bool.and_eq_true, Bool.not_eq_true']
    exact ⟨failed, by simp [references]⟩

private theorem validates_decisionFields (move : validates input.revalidatedMove = true)
    (snapshot : validates input.registrySnapshot = true) (utc : input.decidedAt.requireUtc = true)
    (namedCall : input.providerToolCallId.all (· != "") = true) :
    validates input.decisionFields = true := by
  have matched := decisionMatchesChecks move
  have named := isToolName_of_resolved snapshot
  simp only [validates, Bool.and_eq_true] at move ⊢
  obtain ⟨⟨⟨⟨⟨⟨⟨-, requested⟩, -⟩, -⟩, -⟩, -⟩, proposed⟩, validated⟩ := move
  exact ⟨⟨⟨⟨⟨⟨namedCall, requested⟩, named⟩, proposed⟩, by simpa [decisionFields] using validated⟩,
    utc⟩, matched⟩

/-- What the gateway has established about a move that it accepts. -/
structure Admitted (input : GatewayInput) : Prop where
  /-- Every argument is the order id, and its spelling normalises to the bound value. -/
  onlyOrderId : ∀ argument ∈ input.revalidatedMove.candidateArguments, argument.1 = "order_id"
  boundValue : ∃ raw, Json.lookup input.revalidatedMove.candidateArguments "order_id" =
    some (.string raw) ∧ normalizeOrderId raw = some input.currentInputBinding.normalizedValue
  onlyBinding : input.currentRequestUnit.inputBindingRefs = [input.currentInputBinding.bindingId] ∧
    input.revalidatedMove.argumentBindingRefs = [input.currentInputBinding.bindingId]
  ownedTask : input.currentTask.ownerCustomerId = input.customerContext.customerId
  sameGraph : input.currentTask.taskId = input.revalidatedMove.taskId ∧
    input.currentRequestUnit.taskId = input.currentTask.taskId ∧
    input.currentRequestUnit.requestUnitId = input.revalidatedMove.requestUnitId
  active : input.currentTask.status = .active ∧ input.currentRequestUnit.status = .active
  validatedVersion : input.currentTask.stateVersion =
    input.revalidatedMove.validatedTaskStateVersion ∧
    input.currentRequestUnit.stateVersion = input.revalidatedMove.validatedTaskStateVersion
  notProposed : input.revalidatedMove.proposedBaseTaskStateVersion = none
  /-- The executor resolves the same name in the same snapshot, and to a READ tool. -/
  executable : ∃ registration, resolveValidatedGetOrderRegistration input.registrySnapshot
    input.revalidatedMove.requestedProviderToolName = some registration ∧
      registration.effect = .read

variable (accepted : input.checks.all id = true)

include accepted in
/-- Each check that an accepted move has passed. -/
private theorem check_of_accepted (check : Bool × GateReasonCode)
    (listed : check ∈ input.prioritizedChecks) :
    check.1 = true := all_checks_iff.mp accepted check listed

include accepted in
private theorem executable_of_accepted : ∃ registration,
    resolveValidatedGetOrderRegistration input.registrySnapshot
    input.revalidatedMove.requestedProviderToolName = some registration ∧
    registration.effect = .read := by
  have registered := check_of_accepted accepted (input.registrationValid, .toolNotRegistered)
    (by simp [prioritizedChecks])
  have schema :=
    check_of_accepted accepted (input.schemaValid, .schemaInvalid) (by simp [prioritizedChecks])
  have boundary := check_of_accepted accepted (input.actionBoundaryValid, .actionRequiresProposal)
    (by simp [prioritizedChecks])
  simp only [registrationValid, Bool.and_eq_true, beq_iff_eq, Option.any_eq_true] at registered
  obtain ⟨⟨⟨resolvedName, requestedName⟩, registration, found, visibleName⟩, -⟩ := registered
  simp only [schemaValid, closedGetOrderSchemaIsValid, found, Option.any_some, Bool.and_eq_true]
    at schema
  obtain ⟨⟨⟨sameSpec, visible⟩, -⟩, -⟩ := schema
  simp only [actionBoundaryValid, found, Option.any_some, beq_iff_eq] at boundary
  unfold resolved at resolvedName found
  unfold providerVisibleSpec at visible
  refine ⟨registration, ?_, boundary⟩
  unfold resolveValidatedGetOrderRegistration
  rw [requestedName] at resolvedName found visible ⊢
  simp [found, resolvedName, visibleName, sameSpec, visible]

include accepted in
private theorem boundValue_of_accepted :
    (∀ argument ∈ input.revalidatedMove.candidateArguments, argument.1 = "order_id") ∧
      ∃ raw, Json.lookup input.revalidatedMove.candidateArguments "order_id" = some (.string raw) ∧
        normalizeOrderId raw = some input.currentInputBinding.normalizedValue := by
  have bound := check_of_accepted accepted (input.argumentBindingValid, .argumentBindingMismatch)
    (by simp [prioritizedChecks])
  have schema :=
    check_of_accepted accepted (input.schemaValid, .schemaInvalid) (by simp [prioritizedChecks])
  simp only [argumentBindingValid, Bool.and_eq_true, beq_iff_eq] at bound
  simp only [schemaValid, closedGetOrderSchemaIsValid, Bool.and_eq_true] at schema
  obtain ⟨⟨-, only⟩, spelled⟩ := schema
  constructor
  · intro argument member
    have named := ((sameSet_iff _ _).mp only argument.1).mp (List.mem_map_of_mem member)
    exact List.mem_singleton.mp named
  · split at spelled
    · next raw found =>
      refine ⟨raw, found, ?_⟩
      simp only [Bool.and_eq_true, beq_iff_eq, bound.2, Option.some.injEq] at spelled
      simp only [normalizeOrderId, spelled.2]
      exact if_pos (spelled.2 ▸ spelled.1)
    · exact absurd spelled Bool.false_ne_true

include accepted in
private theorem admitted_of_accepted : input.Admitted := by
  have bound := check_of_accepted accepted (input.argumentBindingValid, .argumentBindingMismatch)
    (by simp [prioritizedChecks])
  have state := check_of_accepted accepted (input.stateVersionValid, .stateVersionMismatch)
    (by simp [prioritizedChecks])
  simp only [argumentBindingValid, graphBindingValid, Bool.and_eq_true, beq_iff_eq, and_assoc]
    at bound
  simp only [stateVersionValid, Bool.and_eq_true, beq_iff_eq, Option.isNone_iff_eq_none, and_assoc]
    at state
  obtain ⟨-, -, onlyRef, moveRefs, -⟩ := bound
  obtain ⟨owned, sameTask, unitTask, sameUnit, taskActive, unitActive, sameVersion, version,
    notProposed, -⟩ := state
  obtain ⟨onlyOrderId, boundValue⟩ := boundValue_of_accepted accepted
  exact {
    onlyOrderId := onlyOrderId
    boundValue := boundValue
    onlyBinding := ⟨onlyRef, moveRefs⟩
    ownedTask := owned
    sameGraph := ⟨sameTask, unitTask, sameUnit⟩
    active := ⟨taskActive, unitActive⟩
    validatedVersion := ⟨version, sameVersion ▸ version⟩
    notProposed := notProposed
    executable := executable_of_accepted accepted }

end GatewayInput

/-- The gateway always decides: it accepts exactly when all checks hold, rejects with the reason of
the first check that failed, and what it accepts is what the executor resolves. -/
theorem control_gateway_decision_law (input : GatewayInput)
    (move : validates input.revalidatedMove = true)
    (snapshot : validates input.registrySnapshot = true) (utc : input.decidedAt.requireUtc = true)
    (namedCall : input.providerToolCallId.all (· != "") = true) :
    ∃ gate, evaluateControlGateway input = some gate ∧ validates gate = true ∧
    gate.checks = input.checks ∧ (gate.decision = .accept ↔ input.checks.all id = true) ∧
      (gate.decision = .reject ↔ input.checks.all id = false) ∧
      gate.reasonCode = input.firstFailure ∧
      (gate.decision = .accept → input.Admitted) := by
  have valid := GatewayInput.validates_decisionFields move snapshot utc namedCall
  have decided : input.decisionFields.decision = if input.checks.all id then .accept
    else .reject := rfl
  refine ⟨input.decisionFields, construct_of_validates valid, valid, rfl, ?_, ?_,
    GatewayInput.reasonCode_eq_firstFailure, ?_⟩
  · rw [decided]
    cases input.checks.all id <;> simp
  · rw [decided]
    cases input.checks.all id <;> simp
  · intro acceptedDecision
    apply GatewayInput.admitted_of_accepted
    rw [decided] at acceptedDecision
    cases accepted : input.checks.all id
    · simp [accepted] at acceptedDecision
    · rfl

/-- A move that asks for order O-1001, which is bound to the Task's only input. -/
def exampleGatewayInput : GatewayInput where
  revalidatedMove :=
    { runId := 1
      taskId := 2
      requestUnitId := 3
      nextMoveCandidateRef := 4
      kind := .callTool
      requestedProviderToolName := "get_order"
      candidateArguments := [("order_id", .string " o-1001 ".toList)]
      normalizedCandidateOrderId := some "O-1001".toList
      bindingName := "order_id"
      bindingNormalizedValue := "O-1001".toList
      argumentBindingRefs := [5]
      proposedBaseTaskStateVersion := none
      validatedTaskStateVersion := 1 }
  customerContext :=
    { subjectRef := "subject"
      customerId := "customer"
      authScopes := ["orders:read"]
      authenticatedAt := .utc 0
      sessionRefHash := "session" }
  currentTask :=
    { taskId := 2, ownerCustomerId := "customer", status := .active, stateVersion := 1,
      createdAt := .utc 0
      updatedAt := .utc 0 }
  currentRequestUnit :=
    { requestUnitId := 3, taskId := 2, goalText := "show the order", goalSourceRefs := [6],
      inputBindingRefs := [5]
      status := .active, stateVersion := 1, createdAt := .utc 0, updatedAt := .utc 0 }
  currentInputBinding :=
    { bindingId := 5, name := "order_id", normalizedValue := "O-1001".toList,
      authority := .userClaim, sourceRefs := [6]
      validationStatus := .accepted, confirmedByUser := true, createdAt := .utc 0, updatedAt :=
        .utc 0 }
  registrySnapshot := exampleSnapshot
  contextManifest :=
    { contextManifestId := 9, runId := 1, modelCallId := 7,
      toolRegistryVersion := "tool-registry.p0.v1"
      modelVisibleToolsetHash := exampleSnapshot.modelVisibleToolsetHash, selectedMessageRefs := [6]
      redactionPolicyVersion := "redaction.p0.v1", tokenCounts := {}, assembledAt := .utc 1 }
  gateDecisionId := 8
  modelCallId := 7
  providerToolCallId := none
  decidedAt := .utc 1
  toolCallsUsed := 0
  maxToolCalls := 1
  progressValid := true

/-- The example is accepted. -/
theorem control_gateway_decision_law_example :
    ∃ gate, evaluateControlGateway exampleGatewayInput = some gate ∧
    gate.decision = .accept ∧ exampleGatewayInput.Admitted := by
  obtain ⟨gate, evaluated, -, -, accepts, -, -, admits⟩ :=
    control_gateway_decision_law exampleGatewayInput (by decide) exampleSnapshot_valid
      (by decide) (by decide)
  have accepted : gate.decision = .accept := accepts.mpr (by decide)
  exact ⟨gate, evaluated, accepted, admits accepted⟩

end MiniAgent.Core
