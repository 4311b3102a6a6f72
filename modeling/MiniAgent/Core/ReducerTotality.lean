import MiniAgent.Core.ReducerClosure

/-! # The reducer never fails internally

A failure after the preflight would be an atomic one. Under well-formed trusted arguments each
later validator is shown to accept what the loop built: the graphs, the durable closure, the
closure model and the three decisions. Together with the aggregate-only preflight this bounds
every outcome of the reducer on any candidate output.
-/

namespace MiniAgent.Core

open ContractModel Keyed
open Except (require require_eq_ok_iff require_of require_errorsIn)

/-- A clean graph passes its own validator. -/
private theorem initialTaskGraph_validates {candidate : TaskDeltaCandidate}
    {allocation : InitialTaskIdentityAllocationV2} {customerContext : CustomerContext}
    (messageRef : Uuid) {normalizedOrderId : Text} {now : Datetime}
    (goal : candidate.goalPatch ≠ "") (distinct : validates allocation = true)
    (customer : customerContext.customerId ≠ "") (normal : isOrderId normalizedOrderId = true)
    (utc : now.requireUtc = true) :
    validates (initialTaskGraph candidate allocation customerContext messageRef normalizedOrderId
      now) = true := by
  have identities : allocation.generated.Nodup := by
    simp only [validates, Bool.and_eq_true, allDistinct_iff] at distinct
    exact distinct.1
  rw [InitialAcceptedTaskGraphV2.validates_iff]
  refine ⟨⟨?_, ?_, ?_, ?_⟩, identities, ?_, ?_, ?_, ?_, ?_⟩
  · simp [validates, initialTaskGraph, goal, utc]
  · simp [validates, initialTaskGraph, normal, utc]
  · simp [validates, initialTaskGraph, customer, utc]
  · simp [validates, initialTaskGraph, goal, utc]
  · simp [InitialAcceptedTaskGraphV2.definesOneInitialTaskEffect, initialTaskGraph]
  · simp [InitialAcceptedTaskGraphV2.bindsAcceptedMessage, initialTaskGraph]
  · simp [InitialAcceptedTaskGraphV2.hasCleanTask, initialTaskGraph]
  · simp [InitialAcceptedTaskGraphV2.hasCleanRequestUnit, initialTaskGraph]
  · simp [InitialAcceptedTaskGraphV2.usesOneTimestamp, initialTaskGraph]

variable {requestInput : RequestUnderstandingInput} {output : RequestUnderstandingOutputV2}
  {messages : AuthoritativeMessages} {trusted : TrustedReducerArguments}

variable (output) in
private theorem reduceCandidate_total {allocations : Uuid → Option InitialTaskIdentityAllocationV2}
    {customerContext : CustomerContext} {now : Datetime} {candidate : TaskDeltaCandidate}
    (goal : candidate.goalPatch ≠ "") (customer : customerContext.customerId ≠ "")
    (utc : now.requireUtc = true)
    (allocated : ∃ allocation, allocations candidate.candidateId = some allocation ∧
      validates allocation = true) :
    ∃ result, reduceCandidate output allocations customerContext now candidate = .ok result := by
  obtain ⟨allocation, stored, distinct⟩ := allocated
  have decided := constructOr_of_validates (candidateDecision_validates output candidate)
    durableClosureCommitFailed
  cases reason : candidateRejectionReasonV2 candidate output with
  | some code =>
    simp only [candidateDecision, reason] at decided
    exact ⟨_, by simp only [reduceCandidate, reason, decided]; rfl⟩
  | none =>
    obtain ⟨input, normalized, single, -, -, -, normal⟩ := input_of_accepted reason
    have built := buildInitialTaskGraphV2_eq_ok_iff.mpr ⟨initialTaskGraph_validates
      output.messageRef goal distinct customer (isOrderId_of_normalizeOrderId normal) utc, rfl⟩
    simp only [candidateDecision, reason] at decided
    exact ⟨_, by simp only [reduceCandidate, reason, decided, single, normal, stored, built]; rfl⟩

variable (output) in
private theorem reduceCandidates_total {allocations : Uuid → Option InitialTaskIdentityAllocationV2}
    {customerContext : CustomerContext} {now : Datetime} {candidates : List TaskDeltaCandidate}
    (goal : ∀ candidate ∈ candidates, candidate.goalPatch ≠ "")
    (customer : customerContext.customerId ≠ "") (utc : now.requireUtc = true)
    (allocated : ∀ candidate ∈ candidates, ∃ allocation,
      allocations candidate.candidateId = some allocation ∧ validates allocation = true) :
    ∃ result, reduceCandidates output allocations customerContext now candidates = .ok result := by
  induction candidates with
  | nil => exact ⟨_, rfl⟩
  | cons candidate rest ih =>
    obtain ⟨first, reduced⟩ :=
      reduceCandidate_total output (goal candidate (List.mem_cons_self ..)) customer utc
      (allocated candidate (List.mem_cons_self ..))
    obtain ⟨later, following⟩ := ih (fun other member => goal other (List.mem_cons_of_mem _ member))
      (fun other member => allocated other (List.mem_cons_of_mem _ member))
    exact ⟨_, by simp only [reduceCandidates, reduced, following]; rfl⟩

/-- The loop's result for the emitted Candidates of a valid output. -/
structure LoopResult (output : RequestUnderstandingOutputV2) (trusted : TrustedReducerArguments)
    (graphs : List InitialAcceptedTaskGraphV2) : Prop where
  accepts : AcceptsAllocations trusted (output.taskDeltaCandidates.map (·.candidateId))
  built : List.Forall₂ (BuiltFor (lastByKey (·.candidateRef) trusted.candidateIdentityAllocations)
    trusted.customerContext output.messageRef trusted.now)
    (acceptedCandidates output output.taskDeltaCandidates) graphs
  distinct : (output.taskDeltaCandidates.map (·.candidateId)).Nodup

namespace LoopResult

variable {graphs : List InitialAcceptedTaskGraphV2}

/-- The allocations behind the graphs, in the order of the graphs. -/
private theorem exists_allocations (result : LoopResult output trusted graphs) :
    ∃ chosen : List InitialTaskIdentityAllocationV2, chosen ⊆ trusted.candidateIdentityAllocations ∧
      chosen.map (·.candidateRef) =
        (acceptedCandidates output output.taskDeltaCandidates).map (·.candidateId) ∧
      graphs.flatMap (·.identities) = chosen.flatMap (·.generated) := by
  have carried := result.built.imp fun _ _ built => built.carriesCandidate
  clear result
  generalize acceptedCandidates output output.taskDeltaCandidates = candidates at carried
  induction carried with
  | nil => exact ⟨[], List.nil_subset _, rfl, rfl⟩
  | cons carries _ ih =>
    obtain ⟨chosen, subset, refs, identities⟩ := ih
    obtain ⟨allocation, member, own, same⟩ := carries.identities
    exact ⟨allocation :: chosen, List.cons_subset.mpr ⟨member, subset⟩, by simp [own, refs],
      by simp [same, identities]⟩

/-- Every identity of a decision is used once. -/
private theorem nodup_identities (result : LoopResult output trusted graphs) :
    (trusted.requestUnderstandingRecordId :: trusted.nextMoveCandidateRef ::
      graphs.flatMap (·.identities)).Nodup := by
  obtain ⟨chosen, subset, refs, identities⟩ := result.exists_allocations
  have all := result.accepts.distinctIdentities
  simp only [TrustedReducerArguments.generatedIdentities, List.nodup_cons, List.mem_cons, not_or]
    at all
  have chosenDistinct : chosen.Nodup := by
    refine List.Nodup.of_map (·.candidateRef) (refs ▸ ?_)
    exact result.distinct.sublist (List.filter_sublist.map _)
  have within : chosen.flatMap (·.generated) ⊆
      trusted.candidateIdentityAllocations.flatMap (·.generated) := by
    intro identity member
    obtain ⟨allocation, chosenMember, generated⟩ := List.mem_flatMap.mp member
    exact List.mem_flatMap.mpr ⟨allocation, subset chosenMember, generated⟩
  rw [identities]
  simp only [List.nodup_cons, List.mem_cons, not_or]
  exact ⟨⟨all.1.1, fun member => all.1.2 (within member)⟩, fun member => all.2.1 (within member),
    nodup_flatMap_of_subset chosenDistinct subset all.2.2⟩

private theorem nodup_graphIdentities (result : LoopResult output trusted graphs) :
    (graphs.flatMap (·.identities)).Nodup :=
  (List.nodup_cons.mp (List.nodup_cons.mp result.nodup_identities).2).2

/-- What every built graph repeats of the request and of its own emitted Candidate. -/
structure GraphFacts (output : RequestUnderstandingOutputV2) (trusted : TrustedReducerArguments)
    (graph : InitialAcceptedTaskGraphV2) (candidate : TaskDeltaCandidate) : Prop where
  emitted : candidate ∈ output.taskDeltaCandidates
  carries : CarriesCandidate trusted candidate graph
  child : graph.acceptedDelta.messageRef = output.messageRef ∧
    graph.acceptedDelta.acceptedAt = trusted.now ∧
    graph.acceptedDelta.operation = candidate.operation ∧
    graph.acceptedDelta.baseTaskStateVersion = none ∧ graph.acceptedDelta.inputBindingRefs.Nodup
  binding : ∃ input, candidate.inputCandidates = [input] ∧ graph.inputBinding.name = input.name ∧
    normalizeOrderId input.candidateValue = some graph.inputBinding.normalizedValue ∧
    graph.inputBinding.authority = input.authority ∧
      graph.inputBinding.sourceRefs = [input.sourceRef]

theorem facts (result : LoopResult output trusted graphs) (graph : InitialAcceptedTaskGraphV2)
    (member : graph ∈ graphs) : ∃ candidate, GraphFacts output trusted graph candidate := by
  obtain ⟨candidate, acceptedMember, built⟩ := exists_of_forall₂_right result.built member
  have accepted := List.mem_filter.mp acceptedMember
  have carries := built.carriesCandidate
  obtain ⟨input, allocation, normalized, single, normal, -, rfl⟩ := built.built
  obtain ⟨other, -, otherSingle, source, name, authority, -⟩ :=
    input_of_accepted (Option.isNone_iff_eq_none.mp accepted.2)
  obtain rfl : input = other := by simpa [single] using otherSingle
  refine ⟨candidate, accepted.1, carries, ⟨rfl, rfl, rfl, rfl, List.nodup_singleton _⟩,
    input, single, name.symm, normal, authority.symm, ?_⟩
  simp [initialTaskGraph, source]

private theorem childIds_nodup (result : LoopResult output trusted graphs) :
    ((graphs.map (·.acceptedDelta)).map (·.acceptedDeltaId)).Nodup := by
  rw [List.map_map]
  exact nodup_map_of_nodup_flatMap (fun _ _ => List.mem_cons_self ..) result.nodup_graphIdentities

private theorem childTasks_nodup (result : LoopResult output trusted graphs) :
    ((graphs.map (·.acceptedDelta)).map (·.taskId)).Nodup := by
  rw [List.map_map]
  refine nodup_map_of_nodup_flatMap (fun graph member => ?_) result.nodup_graphIdentities
  obtain ⟨candidate, known⟩ := result.facts graph member
  have effect := ((InitialAcceptedTaskGraphV2.validates_iff graph).mp known.carries.closed).2.2.1
  simp only [InitialAcceptedTaskGraphV2.definesOneInitialTaskEffect, Bool.and_eq_true, beq_iff_eq]
    at effect
  simp [InitialAcceptedTaskGraphV2.identities, effect.1.1.1.2]

private theorem childRefs_eq (result : LoopResult output trusted graphs) :
    (graphs.map (·.acceptedDelta)).map (·.candidateRef) =
      acceptedCandidateRefs (output.taskDeltaCandidates.map (candidateDecision output)) := by
  rw [acceptedCandidateRefs_decisions, List.map_map]
  exact (map_eq_map_of_forall₂ result.built fun _ _ built =>
    built.carriesCandidate.candidateRef.symm).symm

private theorem childRefs_nodup (result : LoopResult output trusted graphs) :
    ((graphs.map (·.acceptedDelta)).map (·.candidateRef)).Nodup := by
  rw [result.childRefs_eq, acceptedCandidateRefs_decisions]
  exact result.distinct.sublist (List.filter_sublist.map _)

private theorem decisionRefs_eq (output : RequestUnderstandingOutputV2) :
    (output.taskDeltaCandidates.map (candidateDecision output)).map (·.candidateRef) =
      output.taskDeltaCandidates.map (·.candidateId) := by
  simp [candidateDecision]

private theorem validateDurableClosureV2_ok (result : LoopResult output trusted graphs) :
    validateDurableClosureV2 output (output.taskDeltaCandidates.map (candidateDecision output))
      (graphs.map (·.acceptedDelta)) trusted.now = .ok () := by
  simp only [validateDurableClosureV2, Except.bind_eq_ok_iff, require_eq_ok_iff, exists_const,
    Bool.and_eq_true, allDistinct_iff, sameSet_iff, decisionRefs_eq, result.childRefs_eq,
    implies_true,
    and_true, List.all_eq_true]
  refine ⟨result.distinct, ⟨⟨result.childRefs_eq ▸ result.childRefs_nodup, result.childIds_nodup⟩,
    .of_map Prod.fst (by simpa [Function.comp_def] using result.childIds_nodup)⟩, ?_, ?_⟩
  · intro child member
    obtain ⟨graph, graphMember, rfl⟩ := List.mem_map.mp member
    obtain ⟨candidate, known⟩ := result.facts graph graphMember
    have found := lastByKey_of_mem result.distinct known.emitted
    simp only [childMatchesEmitted, known.carries.candidateRef, found, known.child.1,
      known.child.2.1, known.child.2.2.1, beq_self_eq_true, Bool.true_and, allDistinct_iff]
    exact known.child.2.2.2.2
  · refine versionChainFrom_of_fresh (fun candidateId child stored => ?_) ?_ fun _ _ _ _ => rfl
    · obtain ⟨graph, graphMember, rfl⟩ := List.mem_map.mp (mem_of_lastByKey stored).1
      obtain ⟨candidate, known⟩ := result.facts graph graphMember
      exact known.child.2.2.2.1
    · have lookups : ((output.taskDeltaCandidates.map (·.candidateId)).filterMap
          (lastByKey (·.candidateRef) (graphs.map (·.acceptedDelta)))).Nodup :=
        result.distinct.filterMap fun left right child leftChild rightChild =>
          (mem_of_lastByKey leftChild).2.symm.trans (mem_of_lastByKey rightChild).2
      rw [List.filterMap_map] at lookups
      refine lookups.map_on fun left leftMember right rightMember same => ?_
      obtain ⟨leftCandidate, -, leftChild⟩ := List.mem_filterMap.mp leftMember
      obtain ⟨rightCandidate, -, rightChild⟩ := List.mem_filterMap.mp rightMember
      exact List.inj_on_of_nodup_map result.childTasks_nodup (mem_of_lastByKey leftChild).1
        (mem_of_lastByKey rightChild).1 same

private theorem acceptedCount_eq (result : LoopResult output trusted graphs) :
    acceptedCount (output.taskDeltaCandidates.map (candidateDecision output)) = graphs.length := by
  have lengths := congrArg List.length result.childRefs_eq
  rw [acceptedCandidateRefs, List.length_map, List.length_map, List.length_map] at lengths
  rw [acceptedCount, List.countP_eq_length_filter, ← lengths]

end LoopResult

section Closure

variable {graphs : List InitialAcceptedTaskGraphV2} {validated : Option ℕ} {moveRef : Option Uuid}
  {context : DurableQueryContextualizationCandidateV2} {durable : List DurableTaskDeltaCandidateV2}

private theorem durableRecordV2_validates (passes : PassesPreflight requestInput output messages)
    (result : LoopResult output trusted graphs)
    (contextProjected : projectContextualizationV2 messages output.contextualization = .ok context)
    (projected : List.Forall₂ ProjectsTaskDelta output.taskDeltaCandidates durable)
    (positive : validated.all (1 ≤ ·) = true) (bound : moveRef.isSome = true ∨ validated = none) :
    validates (durableRecordV2 requestInput output trusted.requestUnderstandingRecordId
      context durable
      (output.taskDeltaCandidates.map (candidateDecision output))
      (graphs.map (·.acceptedDelta)) none
      validated moveRef trusted.now) = true := by
  obtain ⟨schema, -, -, -, distinct, current, claims, -⟩ :=
    output.validates_iff.mp passes.outputValid
  obtain ⟨-, inputSchema, -⟩ := canonicalRequestInputV2_eq_ok_iff.mp passes.canonicalInput
  obtain ⟨contextValid, sources⟩ := projectContextualizationV2_spec contextProjected
  have ids : output.taskDeltaCandidates.map (·.candidateId) = durable.map (·.candidateId) :=
    map_eq_map_of_forall₂ projected fun _ _ kept => kept.candidateId.symm
  rw [RequestUnderstandingRecordV2.validates_iff]
  refine ⟨⟨rfl, inputSchema, schema⟩, contextValid, ?_, ?_, rfl, positive, result.accepts.now,
    ids ▸ distinct, LoopResult.decisionRefs_eq output ▸ distinct, ?_, result.childIds_nodup, ?_,
    sources ▸ current, ?_,
    bound.imp_right fun none => ⟨rfl, none⟩⟩
  · intro candidate member
    obtain ⟨_, -, kept⟩ := exists_of_forall₂_right projected member
    exact kept.valid
  · intro validation member
    obtain ⟨candidate, -, rfl⟩ := List.mem_map.mp member
    exact candidateDecision_validates output candidate
  · intro ref
    simp only [durableRecordV2, LoopResult.decisionRefs_eq, ids]
  · simp only [durableRecordV2, List.length_map, result.acceptedCount_eq]
  · intro candidate member input inputMember
    obtain ⟨emitted, emittedMember, kept⟩ := exists_of_forall₂_right projected member
    obtain ⟨emittedInput, emittedInputMember, same⟩ :=
      exists_of_forall₂_right kept.inputs inputMember
    have claim := claims emitted emittedMember emittedInput emittedInputMember
    simp only [isCurrentMessageClaimV2, Bool.and_eq_true, beq_iff_eq] at claim
    exact same.2.2.2.trans claim.1.1.2

variable (validated moveRef) in
/-- Every check of the closure builder succeeds on the loop's result. -/
private theorem buildRequestUnderstandingClosureV2_total
    (passes : PassesPreflight requestInput output messages)
    (result : LoopResult output trusted graphs) (positive : validated.all (1 ≤ ·) = true)
    (bound : moveRef.isSome = true ∨ validated = none) :
    ∃ closure, buildRequestUnderstandingClosureV2 requestInput output messages
      trusted.requestUnderstandingRecordId
      (output.taskDeltaCandidates.map (candidateDecision output))
      (graphs.map (·.acceptedDelta)) none validated moveRef trusted.now = .ok closure := by
  obtain ⟨context, contextProjected⟩ := passes.contextualization
  obtain ⟨durable, traversed⟩ := passes.candidates
  have projected := (Except.mapM_eq_ok_iff.mp traversed).imp fun _ _ kept =>
    projectTaskDeltaV2_spec kept
  have record := durableRecordV2_validates passes result contextProjected projected positive bound
  have noBase := (output.validates_iff.mp passes.outputValid).2.2.2.2.2.2.2
  have decisionsValid : canonicalCandidateValidationV2
      (output.taskDeltaCandidates.map (candidateDecision output)) = .ok _ :=
    canonicalTrustedRecordsV2_eq_ok_iff.mpr ⟨fun validation member => by
      obtain ⟨candidate, -, rfl⟩ := List.mem_map.mp member
      exact candidateDecision_validates output candidate, rfl⟩
  have childValid : ∀ child ∈ graphs.map (·.acceptedDelta), validates child = true := by
    intro child member
    obtain ⟨graph, graphMember, rfl⟩ := List.mem_map.mp member
    obtain ⟨candidate, known⟩ := result.facts graph graphMember
    exact ((InitialAcceptedTaskGraphV2.validates_iff graph).mp known.carries.closed).1.1
  have childrenValid : canonicalAcceptedTaskDeltasV2 (graphs.map (·.acceptedDelta)) = .ok _ :=
    canonicalTrustedRecordsV2_eq_ok_iff.mpr ⟨childValid, rfl⟩
  have ids : output.taskDeltaCandidates.map (·.candidateId) = durable.map (·.candidateId) :=
    map_eq_map_of_forall₂ projected fun _ _ kept => kept.candidateId.symm
  have closure : validates
      (⟨durableRecordV2 requestInput output trusted.requestUnderstandingRecordId
      context durable (output.taskDeltaCandidates.map (candidateDecision output))
      (graphs.map (·.acceptedDelta)) none validated moveRef trusted.now,
      graphs.map (·.acceptedDelta)⟩ :
      RequestUnderstandingClosureV2) = true := by
    rw [RequestUnderstandingClosureV2.validates_iff]
    refine ⟨record, childValid, result.childRefs_nodup, result.childIds_nodup, ?_,
      fun _ => Iff.rfl, ?_⟩
    · intro ref
      rw [result.childRefs_eq]
      exact Iff.rfl
    · intro child member
      obtain ⟨graph, graphMember, rfl⟩ := List.mem_map.mp member
      obtain ⟨candidate, known⟩ := result.facts graph graphMember
      obtain ⟨kept, keptMember, projects⟩ := exists_of_forall₂_right projected.flip known.emitted
      have found := lastByKey_of_mem (ids ▸ result.distinct) keptMember
      rw [projects.candidateId, ← known.carries.candidateRef] at found
      simp only [childMatchesDurable, durableRecordV2, found, known.child.1, known.child.2.1,
        known.child.2.2.1, projects.operation, known.carries.goal.1, projects.goalPatch,
        beq_self_eq_true, Bool.and_true, Bool.true_and, allDistinct_iff]
      exact known.child.2.2.2.2
  have boundary :
      (moveRef.isSome || (Option.isNone (none : Option ℕ) && validated.isNone)) = true := by
    rcases bound with present | absent <;> simp [*]
  have current : authoritativeMessageV2 messages output.messageRef =
      .ok requestInput.originalQuery :=
    passes.sameMessage ▸ passes.currentMessage
  refine ⟨⟨durableRecordV2 requestInput output trusted.requestUnderstandingRecordId context durable
    (output.taskDeltaCandidates.map (candidateDecision output))
      (graphs.map (·.acceptedDelta)) none validated
    moveRef trusted.now, graphs.map (·.acceptedDelta)⟩, ?_⟩
  simp only [buildRequestUnderstandingClosureV2, passes.canonicalInput, passes.canonicalOutput,
    decisionsValid, childrenValid, passes.visibleScope, current, contextProjected, traversed,
    result.validateDurableClosureV2_ok, Except.bind_ok, result.accepts.now, passes.sameMessage,
    beq_self_eq_true, require, ↓reduceIte, noBase, boundary, constructOr_of_validates record,
    constructOr_of_validates closure]

end Closure

section Decisions

variable {graphs : List InitialAcceptedTaskGraphV2} {proposed validated : Option ℕ}
  {moveRef : Option Uuid}
  {closure : RequestUnderstandingClosureV2}

/-- The closure built for the loop's result. -/
abbrev ClosesLoop (output : RequestUnderstandingOutputV2) (trusted : TrustedReducerArguments)
    (graphs : List InitialAcceptedTaskGraphV2) (proposed validated : Option ℕ)
    (moveRef : Option Uuid) (closure : RequestUnderstandingClosureV2) : Prop :=
  ClosesRequest output trusted.requestUnderstandingRecordId
    (output.taskDeltaCandidates.map (candidateDecision output))
      (graphs.map (·.acceptedDelta)) proposed validated moveRef closure

private theorem candidateProjection_ok (result : LoopResult output trusted graphs)
    (closes : ClosesLoop output trusted graphs proposed validated moveRef closure)
    (graph : InitialAcceptedTaskGraphV2) (member : graph ∈ graphs) :
    validateInitialGraphCandidateProjectionV2 closure.record graph = true := by
  obtain ⟨candidate, known⟩ := result.facts graph member
  obtain ⟨durable, durableMember, projects⟩ :=
    exists_of_forall₂_right closes.candidates.flip known.emitted
  have ids : output.taskDeltaCandidates.map (·.candidateId) =
      closure.record.taskDeltaCandidates.map (·.candidateId) :=
    map_eq_map_of_forall₂ closes.candidates fun _ _ kept => kept.candidateId.symm
  have matching : closure.record.taskDeltaCandidates.filter
      (·.candidateId == graph.acceptedDelta.candidateRef) = [durable] := by
    rw [known.carries.candidateRef, ← projects.candidateId]
    exact filter_key_eq_singleton (ids ▸ result.distinct) durableMember
  obtain ⟨input, single, name, normal, authority, sources⟩ := known.binding
  have inputs := projects.inputs
  rw [single, List.forall₂_cons_left_iff] at inputs
  obtain ⟨kept, others, same, rest, durableInputs⟩ := inputs
  obtain rfl := List.forall₂_nil_left_iff.mp rest
  simp only [validateInitialGraphCandidateProjectionV2, matching, known.child.1, closes.messageRef,
    known.child.2.2.1, projects.operation, known.carries.goal.1, projects.goalPatch,
    durableInputs, name,
    same.1, same.2.1, normal, authority, same.2.2.1, sources, same.2.2.2, beq_self_eq_true,
    Bool.and_self]

private theorem identityClosure_ok (result : LoopResult output trusted graphs)
    (closes : ClosesLoop output trusted graphs proposed validated moveRef closure)
    (reserved : moveRef = none ∨ moveRef = some trusted.nextMoveCandidateRef) :
    validateInitialGraphIdentityClosureV2 closure.record graphs = true := by
  have distinct := result.nodup_identities
  have identities : (trusted.requestUnderstandingRecordId ::
      graphs.flatMap (·.identities) ++ moveRef.toList).Nodup := by
    rcases reserved with rfl | rfl
    · rw [Option.toList_none, List.append_nil]
      exact distinct.sublist (.cons_cons _ (List.sublist_cons_self _ _))
    · rw [Option.toList_some, List.cons_append]
      exact (List.Perm.cons _ (List.perm_append_singleton _ _)).nodup_iff.mpr distinct
  simp only [validateInitialGraphIdentityClosureV2, closes.recordId, closes.nextMoveCandidateRef,
    Bool.and_eq_true, allDistinct_iff, identities, true_and, List.all_eq_true]
  intro graph member
  obtain ⟨candidate, known⟩ := result.facts graph member
  obtain ⟨-, -, effect, -, task, unit, -⟩ :=
    (InitialAcceptedTaskGraphV2.validates_iff graph).mp known.carries.closed
  simp only [InitialAcceptedTaskGraphV2.definesOneInitialTaskEffect,
    InitialAcceptedTaskGraphV2.hasCleanTask, InitialAcceptedTaskGraphV2.hasCleanRequestUnit,
    Bool.and_eq_true] at effect task unit
  grind

private theorem decisionFields_ok {graph : InitialAcceptedTaskGraphV2}
    (passes : PassesPreflight requestInput output messages)
    (result : LoopResult output trusted [graph]) (single : output.taskDeltaCandidates.length = 1)
    (closes : ClosesLoop output trusted [graph] none (some 1) (some trusted.nextMoveCandidateRef)
      closure) :
    validateInitialRoutableDecisionFieldsV2
      { closure := closure
        taskGraph := graph
        nextMoveCandidateRef := trusted.nextMoveCandidateRef
        nextMoveCandidate := output.nextMoveCandidate } = true := by
  obtain ⟨candidate, emitted⟩ := List.length_eq_one_iff.mp single
  have output' := output.validates_iff.mp passes.outputValid
  have member : graph ∈ [graph] := List.mem_singleton_self graph
  obtain ⟨own, known⟩ := result.facts graph member
  obtain rfl : own = candidate := by simpa [emitted] using known.emitted
  have accepted : (candidateDecision output own).decision = .accept := by
    have lengths := result.built.length_eq
    simp only [emitted, acceptedCandidates, List.filter_cons, List.filter_nil] at lengths
    split at lengths
    · next reason => simpa using reason
    · simp at lengths
  have candidates := closes.candidates
  rw [emitted, List.forall₂_cons_left_iff] at candidates
  obtain ⟨durable, others, projects, rest, durables⟩ := candidates
  obtain rfl := List.forall₂_nil_left_iff.mp rest
  have decisions := closes.candidateValidation
  rw [emitted, List.map_singleton] at decisions
  simp only [validateInitialRoutableDecisionFieldsV2, isExactCanonicalModelV2_eq, closes.valid,
    known.carries.closed, output'.2.2.2.1, durables, decisions, accepted,
    known.carries.candidateRef,
    projects.candidateId, closes.acceptedTaskDeltas, closes.acceptedDeltaRefs,
    closes.nextMoveCandidateRef,
    closes.proposedVersion, closes.validatedVersion, output'.2.2.2.2.2.2.2,
    candidateProjection_ok result closes graph member, identityClosure_ok result closes (.inr rfl),
    List.map_singleton, beq_self_eq_true, Bool.and_self]

private theorem noTaskDecision_validates (result : LoopResult output trusted [])
    (closes : ClosesLoop output trusted [] none none none closure) :
    validates (⟨closure⟩ : InitialRequestNoTaskDecisionV2) = true := by
  have none : acceptedCount closure.record.candidateValidation = 0 := by
    rw [closes.candidateValidation, result.acceptedCount_eq, List.length_nil]
  have rejected : closure.record.candidateValidation.any (·.decision == .accept) = false := by
    simpa [acceptedCount] using none
  change (_ && _) = true
  simp only [isExactCanonicalModelV2_eq, closes.valid, closes.acceptedTaskDeltas,
    closes.acceptedDeltaRefs, rejected, closes.nextMoveCandidateRef, closes.proposedVersion,
    closes.validatedVersion, List.map_nil,
    List.isEmpty_nil, Option.isNone_none, Bool.not_false, Bool.and_self]

private theorem unroutedDecision_validates (result : LoopResult output trusted graphs)
    (nonempty : graphs ≠ [])
    (several : ¬ (output.taskDeltaCandidates.length = 1 ∧ graphs.length = 1))
    (closes : ClosesLoop output trusted graphs none none none closure) :
    validates (⟨closure, graphs⟩ : InitialRequestUnroutedTaskGraphsDecisionV2) = true := by
  have count : acceptedCount closure.record.candidateValidation = graphs.length := by
    rw [closes.candidateValidation, result.acceptedCount_eq]
  have canonical : graphs.all isExactCanonicalModelV2 = true := by
    refine List.all_eq_true.mpr fun graph member => ?_
    obtain ⟨candidate, known⟩ := result.facts graph member
    rw [isExactCanonicalModelV2_eq, known.carries.closed]
  have projections : graphs.all (validateInitialGraphCandidateProjectionV2 closure.record) = true :=
    List.all_eq_true.mpr (candidateProjection_ok result closes)
  have emitted : closure.record.taskDeltaCandidates.length = output.taskDeltaCandidates.length :=
    closes.candidates.length_eq.symm
  have positive : 1 ≤ graphs.length := List.length_pos_iff.mpr nonempty
  have shape :
      (!(closure.record.taskDeltaCandidates.length == 1 && graphs.length == 1)) = true := by
    simpa [emitted] using not_and_or.mp several
  change (_ && _) = true
  simp only [List.isEmpty_eq_false_iff.mpr nonempty, isExactCanonicalModelV2_eq, closes.valid,
    canonical, count, positive, decide_true, closes.acceptedTaskDeltas, closes.acceptedDeltaRefs,
    closes.nextMoveCandidateRef,
    closes.proposedVersion, closes.validatedVersion, List.map_map, shape, projections,
    identityClosure_ok result closes (.inl rfl), Option.isNone_none, beq_self_eq_true,
    Bool.not_false,
    Bool.and_self, Function.comp_def]

end Decisions

/-- After the preflight and the allocation check nothing rejects what the loop built, if it can be
written. -/
private theorem validateAndReduceInitialRequestV2_total
    (passes : PassesPreflight requestInput output messages)
    (accepts : AcceptsAllocations trusted (output.taskDeltaCandidates.map (·.candidateId)))
    (encodable : output.nextMoveCandidate.isEncodable = true) :
    ∃ decision, validateAndReduceInitialRequestV2 requestInput output messages trusted =
    .ok decision := by
  obtain ⟨-, -, deltas, -, distinct, -, -, noBase⟩ := output.validates_iff.mp passes.outputValid
  have preflight := preflightInitialRequestProjectionV2_eq_ok_iff.mpr ⟨passes, rfl⟩
  have allocated := canonicalInitialIdentityAllocationsV2_eq_ok_iff.mpr ⟨accepts, rfl⟩
  have goals : ∀ candidate ∈ output.taskDeltaCandidates, candidate.goalPatch ≠ "" := by
    intro candidate member
    have valid := deltas candidate member
    simp only [validates, Bool.and_eq_true, bne_iff_ne] at valid
    exact valid.1.1.1.1
  have customer : trusted.customerContext.customerId ≠ "" := by
    have valid := accepts.customerContext
    simp only [validates, Bool.and_eq_true, bne_iff_ne] at valid
    exact valid.1.1.1.2
  have allocations : ∀ candidate ∈ output.taskDeltaCandidates, ∃ allocation,
      lastByKey (·.candidateRef) trusted.candidateIdentityAllocations candidate.candidateId =
        some allocation ∧ validates allocation = true := by
    intro candidate member
    obtain ⟨allocation, allocationMember, own⟩ :=
      List.mem_map.mp ((accepts.exactRefs _).mpr (List.mem_map_of_mem member))
    exact ⟨allocation, own ▸ lastByKey_of_mem accepts.distinctRefs allocationMember,
      accepts.allocations allocation allocationMember⟩
  obtain ⟨⟨decisions, graphs⟩, reduced⟩ :=
    reduceCandidates_total output goals customer accepts.now allocations
  obtain ⟨rfl, built⟩ := reduceCandidates_spec reduced
  have result : LoopResult output trusted graphs := ⟨accepts, built, distinct⟩
  simp only [validateAndReduceInitialRequestV2, preflight, allocated, reduced, Except.bind_ok,
    noBase, ite_self]
  by_cases exactOne : output.taskDeltaCandidates.length = 1 ∧ graphs.length = 1
  · obtain ⟨graph, rfl⟩ := List.length_eq_one_iff.mp exactOne.2
    obtain ⟨closure, closed⟩ := buildRequestUnderstandingClosureV2_total (some 1)
      (some trusted.nextMoveCandidateRef) passes result rfl (.inl rfl)
    have sealed := sealedRoutableDecision_eq_some.mpr ⟨decisionFields_ok passes result exactOne.1
      (buildRequestUnderstandingClosureV2_spec closed), encodable, rfl⟩
    refine ⟨.routable ⟨closure, graph, trusted.nextMoveCandidateRef, output.nextMoveCandidate⟩, ?_⟩
    simp only [exactOne.1, List.length_singleton, beq_self_eq_true, Bool.and_self,
      ↓reduceIte, closed, Except.bind_ok, sealed]
    rfl
  · have flag : (output.taskDeltaCandidates.length == 1 && graphs.length == 1) = false := by
      simpa using exactOne
    obtain ⟨closure, closed⟩ := buildRequestUnderstandingClosureV2_total none none passes result
      rfl (.inr rfl)
    have closes := buildRequestUnderstandingClosureV2_spec closed
    simp only [flag, Bool.false_eq_true, ↓reduceIte, closed, Except.bind_ok]
    cases graphs with
    | nil => exact ⟨_, by rw [construct_of_validates (noTaskDecision_validates result closes)]; rfl⟩
    | cons graph rest =>
      have unrouted := unroutedDecision_validates result (List.cons_ne_nil _ _) exactOne closes
      exact ⟨_, by rw [construct_of_validates unrouted]; rfl⟩

/-- Trusted arguments as the runtime prepares them for the emitted Candidates. -/
structure WellFormedTrusted (output : RequestUnderstandingOutputV2)
    (trusted : TrustedReducerArguments) :
    Prop where
  customerContext : validates trusted.customerContext = true
  now : trusted.now.requireUtc = true
  oneAllocationEach : (trusted.candidateIdentityAllocations.map (·.candidateRef)).Perm
    (output.taskDeltaCandidates.map (·.candidateId))
  distinct : trusted.generatedIdentities.Nodup
  fresh : ∀ candidate ∈ output.taskDeltaCandidates,
    candidate.candidateId ∉ trusted.generatedIdentities

/-- Well-formed trusted arguments pass the allocation check of every valid output. -/
private theorem WellFormedTrusted.acceptsAllocations (wellFormed : WellFormedTrusted output trusted)
    (distinct : (output.taskDeltaCandidates.map (·.candidateId)).Nodup) :
    AcceptsAllocations trusted (output.taskDeltaCandidates.map (·.candidateId)) := by
  refine ⟨wellFormed.customerContext, wellFormed.now, ?_,
    wellFormed.oneAllocationEach.nodup_iff.mpr distinct, fun _ =>
      wellFormed.oneAllocationEach.mem_iff, wellFormed.distinct⟩
  intro allocation member
  have generated : allocation.generated ⊆ trusted.generatedIdentities := fun identity present =>
    List.mem_cons_of_mem _
      (List.mem_cons_of_mem _ (List.mem_flatMap.mpr ⟨allocation, member, present⟩))
  have all := wellFormed.distinct
  simp only [TrustedReducerArguments.generatedIdentities, List.nodup_cons, List.nodup_flatMap]
    at all
  obtain ⟨candidate, emitted, own⟩ :=
    List.mem_map.mp (wellFormed.oneAllocationEach.mem_iff.mp (List.mem_map_of_mem member))
  simp only [validates, Bool.and_eq_true, allDistinct_iff, decide_eq_true_eq]
  exact ⟨all.2.2.1 allocation member,
    fun reused => wellFormed.fresh candidate emitted (own ▸ generated reused)⟩

/-- Model output that can be encoded is either decided, or refused by the preflight with an
aggregate code: no validator after the preflight rejects anything. -/
theorem model_output_never_fails_internally (requestInput : RequestUnderstandingInput)
    (output : RequestUnderstandingOutputV2) (messages : AuthoritativeMessages)
    (trusted : TrustedReducerArguments) (wellFormed : WellFormedTrusted output trusted)
    (encodable : output.nextMoveCandidate.isEncodable = true) :
    (∃ decision, validateAndReduceInitialRequestV2 requestInput output messages trusted =
      .ok decision) ∨
      ∃ reasonCode, preflightInitialRequestProjectionV2 requestInput output messages =
          .error (.aggregate reasonCode) ∧
        validateAndReduceInitialRequestV2 requestInput output messages trusted =
          .error (.aggregate reasonCode) := by
  cases preflight : preflightInitialRequestProjectionV2 requestInput output messages with
  | error failure =>
    obtain ⟨reasonCode, rfl⟩ := preflightInitialRequestProjectionV2_errorsIn failure preflight
    exact .inr ⟨reasonCode, rfl, by simp only [validateAndReduceInitialRequestV2, preflight]; rfl⟩
  | ok result =>
    obtain ⟨passes, -⟩ := preflightInitialRequestProjectionV2_eq_ok_iff.mp preflight
    have distinct := (output.validates_iff.mp passes.outputValid).2.2.2.2.1
    exact .inl (validateAndReduceInitialRequestV2_total passes
      (wellFormed.acceptsAllocations distinct) encodable)

/-- A quote that is not in the message is refused with an aggregate code. -/
theorem model_output_never_fails_internally_unknown_quote :
    (∃ decision, validateAndReduceInitialRequestV2 (exampleRequestInput "show O-1001".toList)
      (exampleOutput [exampleCandidate 10 "O-1002".toList "O-1002".toList])
      (exampleMessages "show O-1001".toList) (exampleTrusted [10]) = .ok decision) ∨
    ∃ reasonCode, preflightInitialRequestProjectionV2 (exampleRequestInput "show O-1001".toList)
      (exampleOutput [exampleCandidate 10 "O-1002".toList "O-1002".toList])
      (exampleMessages "show O-1001".toList) = .error (.aggregate reasonCode) ∧
    validateAndReduceInitialRequestV2 (exampleRequestInput "show O-1001".toList)
      (exampleOutput [exampleCandidate 10 "O-1002".toList "O-1002".toList])
      (exampleMessages "show O-1001".toList) (exampleTrusted [10]) =
      .error (.aggregate reasonCode) :=
  model_output_never_fails_internally _ _ _ _
    { customerContext := by decide
      now := by decide
      oneAllocationEach := .refl _
      distinct := by decide
      fresh := by decide } rfl

/-- An output that proposes to look up an order under a lone surrogate. -/
def surrogateOutput : RequestUnderstandingOutputV2 :=
  { exampleOutput [exampleCandidate 10 "O-1001".toList "O-1001".toList] with
    nextMoveCandidate :=
      { kind := .callTool
        requestedToolName := some "get_order"
        arguments := some [("order_id", .surrogates [] 0 [])] } }

/-- It is valid, and fails with the code of a closure that cannot be committed. -/
theorem surrogate_output_fails_internally :
    validates surrogateOutput = true ∧ WellFormedTrusted surrogateOutput (exampleTrusted [10]) ∧
      validateAndReduceInitialRequestV2 (exampleRequestInput "show O-1001".toList) surrogateOutput
        (exampleMessages "show O-1001".toList) (exampleTrusted [10]) =
        .error (.atomic .durableClosureCommitFailed) :=
  ⟨by decide,
    { customerContext := by decide
      now := by decide
      oneAllocationEach := .refl _
      distinct := by decide
      fresh := by decide },
    by decide +kernel⟩

end MiniAgent.Core
