import MiniAgent.Application.SupersedesChains

/-! # Evidence and the order of its rows

The validator builds its dictionaries while it iterates, takes first and last elements of grouped
lists and sorts events. An accepted closure has distinct identities in every family, so each
dictionary is a function of the family as a set; transitions are read within one Task and attempts
within one ToolCall; and the sort key of the events ends in their identity. Two arrangements of one
closure are accepted together.
-/

namespace MiniAgent.Application

open MiniAgent.Core ContractModel Keyed

/-- The same rows in another order. Transitions of one Task, and attempts of one ToolCall, keep
their own order. -/
structure Rearranged (left right : ExactRunEvidenceClosure) : Prop where
  conversationRecord : left.conversationRecord = right.conversationRecord
  runRecord : left.runRecord = right.runRecord
  messageRecords : left.messageRecords.Perm right.messageRecords
  requestUnderstandingRecord : left.requestUnderstandingRecord = right.requestUnderstandingRecord
  acceptedTaskDeltas : left.acceptedTaskDeltas.Perm right.acceptedTaskDeltas
  inputBindingRecords : left.inputBindingRecords.Perm right.inputBindingRecords
  taskRecords : left.taskRecords.Perm right.taskRecords
  taskStateTransitions : ∀ taskId, left.taskStateTransitions.filter (·.taskId == taskId) =
    right.taskStateTransitions.filter (·.taskId == taskId)
  requestUnitRecords : left.requestUnitRecords.Perm right.requestUnitRecords
  conversationTaskLinks : left.conversationTaskLinks.Perm right.conversationTaskLinks
  runTaskLinks : left.runTaskLinks.Perm right.runTaskLinks
  gateDecisions : left.gateDecisions.Perm right.gateDecisions
  toolCalls : left.toolCalls.Perm right.toolCalls
  toolAttempts : ∀ toolCallId, left.toolAttempts.filter (·.toolCallId == toolCallId) =
    right.toolAttempts.filter (·.toolCallId == toolCallId)
  observationRecords : left.observationRecords.Perm right.observationRecords
  contextManifests : left.contextManifests.Perm right.contextManifests
  modelVisibleToolsetArtifacts :
    left.modelVisibleToolsetArtifacts.Perm right.modelVisibleToolsetArtifacts
  traceEvents : left.traceEvents.Perm right.traceEvents

variable {left right : ExactRunEvidenceClosure}

theorem Rearranged.symm (same : Rearranged left right) : Rearranged right left where
  conversationRecord := same.conversationRecord.symm
  runRecord := same.runRecord.symm
  messageRecords := same.messageRecords.symm
  requestUnderstandingRecord := same.requestUnderstandingRecord.symm
  acceptedTaskDeltas := same.acceptedTaskDeltas.symm
  inputBindingRecords := same.inputBindingRecords.symm
  taskRecords := same.taskRecords.symm
  taskStateTransitions taskId := (same.taskStateTransitions taskId).symm
  requestUnitRecords := same.requestUnitRecords.symm
  conversationTaskLinks := same.conversationTaskLinks.symm
  runTaskLinks := same.runTaskLinks.symm
  gateDecisions := same.gateDecisions.symm
  toolCalls := same.toolCalls.symm
  toolAttempts toolCallId := (same.toolAttempts toolCallId).symm
  observationRecords := same.observationRecords.symm
  contextManifests := same.contextManifests.symm
  modelVisibleToolsetArtifacts := same.modelVisibleToolsetArtifacts.symm
  traceEvents := same.traceEvents.symm

/-- Lists that agree group by group are arrangements of one another. -/
private theorem perm_of_groups {α κ : Type} [DecidableEq α] [DecidableEq κ] {key : α → κ}
    {first second : List α}
    (groups : ∀ wanted, first.filter (key · == wanted) = second.filter (key · == wanted)) :
    first.Perm second := by
  rw [List.perm_iff_count]
  intro item
  have counted : ∀ items : List α,
      (items.filter (key · == key item)).count item = items.count item :=
    fun items => List.count_filter (beq_self_eq_true (key item))
  rw [← counted, groups, counted]

private theorem Rearranged.transitions_perm (same : Rearranged left right) :
    left.taskStateTransitions.Perm right.taskStateTransitions :=
  perm_of_groups same.taskStateTransitions

private theorem Rearranged.attempts_perm (same : Rearranged left right) :
    left.toolAttempts.Perm right.toolAttempts :=
  perm_of_groups same.toolAttempts

theorem Rearranged.recordsAreCanonical (same : Rearranged left right) :
    left.recordsAreCanonical = right.recordsAreCanonical := by
  simp only [ExactRunEvidenceClosure.recordsAreCanonical, same.conversationRecord, same.runRecord,
    same.messageRecords.all_eq, same.requestUnderstandingRecord, same.acceptedTaskDeltas.all_eq,
    same.inputBindingRecords.all_eq, same.taskRecords.all_eq, same.transitions_perm.all_eq,
    same.requestUnitRecords.all_eq, same.conversationTaskLinks.all_eq, same.runTaskLinks.all_eq,
    same.gateDecisions.all_eq, same.toolCalls.all_eq, same.attempts_perm.all_eq,
    same.observationRecords.all_eq,
    same.contextManifests.all_eq, same.modelVisibleToolsetArtifacts.all_eq, same.traceEvents.all_eq]

section Lookups

variable {closure : ExactRunEvidenceClosure}

private theorem checkIdentities_eq_ok_iff : closure.checkIdentities = .ok () ↔
    (closure.messageRecords.map (·.messageId)).Nodup ∧
    (closure.acceptedTaskDeltas.map (·.acceptedDeltaId)).Nodup ∧
      (closure.inputBindingRecords.map (·.bindingId)).Nodup ∧
      (closure.taskRecords.map (·.taskId)).Nodup ∧
      (closure.taskStateTransitions.map fun transition =>
        (transition.taskId, transition.requestUnitId, transition.resultStateVersion)).Nodup ∧
      (closure.requestUnitRecords.map (·.requestUnitId)).Nodup ∧
      (closure.conversationTaskLinks.map fun link =>
        (link.conversationId, link.taskId, link.linkedAt.instant)).Nodup ∧
      (closure.runTaskLinks.map (·.taskId)).Nodup ∧
      (closure.gateDecisions.map (·.gateDecisionId)).Nodup ∧
      (closure.toolCalls.map (·.toolCallId)).Nodup ∧
      (closure.toolAttempts.map fun attempt => (attempt.toolCallId, attempt.attemptNo)).Nodup ∧
      (closure.observationRecords.map (·.observationId)).Nodup ∧
      (closure.contextManifests.map (·.contextManifestId)).Nodup ∧
      (closure.modelVisibleToolsetArtifacts.map (·.modelVisibleToolsetHash)).Nodup ∧
      (closure.traceEvents.map (·.traceEventId)).Nodup := by
  simp only [ExactRunEvidenceClosure.checkIdentities, exactEvidenceUnique, Except.bind_eq_ok_iff,
    expect_eq_ok_iff, allDistinct_iff, exists_const]

theorem Rearranged.checkIdentities (same : Rearranged left right)
    (success : left.checkIdentities = .ok ()) :
    right.checkIdentities = .ok () := by
  rw [checkIdentities_eq_ok_iff] at success ⊢
  rwa [← (same.messageRecords.map _).nodup_iff, ← (same.acceptedTaskDeltas.map _).nodup_iff,
    ← (same.inputBindingRecords.map _).nodup_iff, ← (same.taskRecords.map _).nodup_iff,
    ← (same.transitions_perm.map _).nodup_iff, ← (same.requestUnitRecords.map _).nodup_iff,
    ← (same.conversationTaskLinks.map _).nodup_iff, ← (same.runTaskLinks.map _).nodup_iff,
    ← (same.gateDecisions.map _).nodup_iff, ← (same.toolCalls.map _).nodup_iff,
    ← (same.attempts_perm.map _).nodup_iff, ← (same.observationRecords.map _).nodup_iff,
    ← (same.contextManifests.map _).nodup_iff,
    ← (same.modelVisibleToolsetArtifacts.map _).nodup_iff,
    ← (same.traceEvents.map _).nodup_iff]

end Lookups

/-- Two closures answer every lookup of the validator alike. -/
structure SameLookups (left right : ExactRunEvidenceClosure) : Prop where
  conversationRecord : left.conversationRecord = right.conversationRecord
  runRecord : left.runRecord = right.runRecord
  requestUnderstandingRecord : left.requestUnderstandingRecord = right.requestUnderstandingRecord
  messageById : left.messageById = right.messageById
  bindingById : left.bindingById = right.bindingById
  taskById : left.taskById = right.taskById
  unitById : left.unitById = right.unitById
  unitByTask : left.unitByTask = right.unitByTask
  gateById : left.gateById = right.gateById
  callById : left.callById = right.callById
  observationById : left.observationById = right.observationById
  manifestById : left.manifestById = right.manifestById
  acceptedById : left.acceptedById = right.acceptedById
  orderedChildren : left.orderedChildren = right.orderedChildren
  transitionsByTask : left.transitionsByTask = right.transitionsByTask
  attemptsByCall : left.attemptsByCall = right.attemptsByCall

private theorem ClosedGraph.sameLookups (closed : ClosedGraph left) (same : Rearranged left right) :
    SameLookups left right := by
  obtain ⟨messages, deltas, bindings, tasks, -, units, -, -, gates, calls, -, observations,
      manifests, -, -⟩ :=
    checkIdentities_eq_ok_iff.mp closed.identities
  have children : left.childByCandidate = right.childByCandidate :=
    funext fun wanted =>
      lastByKey_eq_of_perm same.acceptedTaskDeltas closed.nodup_candidateRefs wanted
  constructor
  case conversationRecord => exact same.conversationRecord
  case runRecord => exact same.runRecord
  case requestUnderstandingRecord => exact same.requestUnderstandingRecord
  case messageById => exact funext (lastByKey_eq_of_perm same.messageRecords messages)
  case bindingById => exact funext (lastByKey_eq_of_perm same.inputBindingRecords bindings)
  case taskById => exact funext (lastByKey_eq_of_perm same.taskRecords tasks)
  case unitById => exact funext (lastByKey_eq_of_perm same.requestUnitRecords units)
  case unitByTask =>
    exact funext (lastByKey_eq_of_perm same.requestUnitRecords closed.nodup_unitTasks)
  case gateById => exact funext (lastByKey_eq_of_perm same.gateDecisions gates)
  case callById => exact funext (lastByKey_eq_of_perm same.toolCalls calls)
  case observationById => exact funext (lastByKey_eq_of_perm same.observationRecords observations)
  case manifestById => exact funext (lastByKey_eq_of_perm same.contextManifests manifests)
  case acceptedById => exact funext (lastByKey_eq_of_perm same.acceptedTaskDeltas deltas)
  case orderedChildren =>
    simp only [ExactRunEvidenceClosure.orderedChildren, same.requestUnderstandingRecord, children]
  case transitionsByTask => exact funext same.taskStateTransitions
  case attemptsByCall => exact funext same.toolAttempts

namespace SameLookups

open ExactRunEvidenceClosure

variable (same : SameLookups left right)
include same

theorem checkAcceptedChild : left.checkAcceptedChild = right.checkAcceptedChild := by
  funext record earlier child
  simp only [ExactRunEvidenceClosure.checkAcceptedChild, same.bindingById, same.taskById]

theorem checkVersionChain (children : List AcceptedTaskDeltaV2) (prior : Uuid → Option ℕ) :
    left.checkVersionChain prior children = right.checkVersionChain prior children := by
  induction children generalizing prior with
  | nil => rfl
  | cons child rest ih => simp only [ExactRunEvidenceClosure.checkVersionChain, same.taskById, ih]

theorem orderedChildrenByTask : left.orderedChildrenByTask = right.orderedChildrenByTask := by
  funext taskId
  simp only [ExactRunEvidenceClosure.orderedChildrenByTask, same.orderedChildren]

theorem checkRunTaskLink : left.checkRunTaskLink = right.checkRunTaskLink := by
  funext link
  simp only [ExactRunEvidenceClosure.checkRunTaskLink, same.runRecord, same.taskById,
    same.orderedChildrenByTask]

theorem checkRequestUnit : left.checkRequestUnit = right.checkRequestUnit := by
  funext earlier unit
  simp only [ExactRunEvidenceClosure.checkRequestUnit, same.taskById]

theorem checkLatestChild : left.checkLatestChild = right.checkLatestChild := by
  funext taskId
  simp only [ExactRunEvidenceClosure.checkLatestChild, same.unitByTask, same.orderedChildrenByTask]

theorem checkTransition : left.checkTransition = right.checkTransition := by
  funext transition
  simp only [ExactRunEvidenceClosure.checkTransition, same.taskById, same.unitById]

theorem checkChildTime : left.checkChildTime = right.checkChildTime := by
  funext task child
  simp only [ExactRunEvidenceClosure.checkChildTime, effectiveAt, same.transitionsByTask]

theorem checkTaskHistory : left.checkTaskHistory = right.checkTaskHistory := by
  funext task
  simp only [ExactRunEvidenceClosure.checkTaskHistory, same.transitionsByTask,
    same.orderedChildrenByTask, same.checkChildTime]

theorem checkManifest : left.checkManifest = right.checkManifest := by
  funext manifest
  simp only [ExactRunEvidenceClosure.checkManifest, checkManifestTask, same.runRecord,
    same.taskById, same.transitionsByTask, same.observationById]

theorem checkGate : left.checkGate = right.checkGate := by
  funext gate
  simp only [ExactRunEvidenceClosure.checkGate, same.manifestById]

theorem checkToolCall : left.checkToolCall = right.checkToolCall := by
  funext earlier call
  simp only [ExactRunEvidenceClosure.checkToolCall, callOwners, same.runRecord, same.taskById,
    same.unitById, same.manifestById, same.gateById]

theorem checkAttemptHistory : left.checkAttemptHistory = right.checkAttemptHistory := by
  funext call
  simp only [ExactRunEvidenceClosure.checkAttemptHistory, same.attemptsByCall]

theorem checkTraceEvent : left.checkTraceEvent = right.checkTraceEvent := by
  funext earlier event
  simp only [ExactRunEvidenceClosure.checkTraceEvent, checkEventShape, checkEventChild,
    checkEventTask, checkEventManifest, checkEventToolCall, checkEventObservation, same.runRecord,
    same.acceptedById, same.taskById,
    same.unitById, same.manifestById, same.callById, same.observationById]

theorem checkGateEvent : left.checkGateEvent = right.checkGateEvent := by
  funext event
  simp only [ExactRunEvidenceClosure.checkGateEvent, same.manifestById]

theorem checkNormalizedResult : left.checkNormalizedResult = right.checkNormalizedResult := by
  funext event
  simp only [ExactRunEvidenceClosure.checkNormalizedResult, same.callById, same.attemptsByCall]

end SameLookups

section Loops

variable {closure : ExactRunEvidenceClosure}

private theorem checkAcceptedChild_split {record : RequestUnderstandingRecordV2}
    (earlier : List AcceptedTaskDeltaV2) (child : AcceptedTaskDeltaV2) :
    closure.checkAcceptedChild record earlier child = .ok () ↔
      (∀ other ∈ earlier, ¬other.candidateRef = child.candidateRef) ∧
        closure.checkAcceptedChild record [] child = .ok () := by
  simp only [ExactRunEvidenceClosure.checkAcceptedChild, Except.bind_eq_ok_iff, expect_eq_ok_iff,
    exists_const, decide_eq_true_eq, List.mem_map, not_exists, not_and, List.not_mem_nil,
    false_implies, implies_true, true_and]

private theorem checkRequestUnit_split (earlier : List RequestUnitRecord)
    (unit : RequestUnitRecord) :
    closure.checkRequestUnit earlier unit = .ok () ↔
      (∀ other ∈ earlier, ¬other.taskId = unit.taskId) ∧
      closure.checkRequestUnit [] unit = .ok () := by
  by_cases repeated : unit.taskId ∈ earlier.map (·.taskId)
  · have refused : closure.checkRequestUnit earlier unit ≠ .ok () := by
      simp only [ExactRunEvidenceClosure.checkRequestUnit, if_pos repeated]
      exact Except.throw_ne_ok
    obtain ⟨other, member, same⟩ := List.mem_map.mp repeated
    exact iff_of_false refused fun apart => apart.1 other member same
  · have fresh : ∀ other ∈ earlier, ¬other.taskId = unit.taskId :=
      fun other member same => repeated (List.mem_map.mpr ⟨other, member, same⟩)
    have first : unit.taskId ∉ ([] : List RequestUnitRecord).map (·.taskId) := List.not_mem_nil
    simp only [ExactRunEvidenceClosure.checkRequestUnit, if_neg repeated, if_neg first]
    exact (and_iff_right fresh).symm

private theorem checkToolCall_split (earlier : List ToolCallRecord) (call : ToolCallRecord) :
    closure.checkToolCall earlier call = .ok () ↔
      (∀ other ∈ earlier, ¬other.gateDecisionId = call.gateDecisionId) ∧
      closure.checkToolCall [] call = .ok () := by
  unfold ExactRunEvidenceClosure.checkToolCall
  cases closure.callOwners call with
  | none => exact iff_of_false Except.throw_ne_ok fun both => Except.throw_ne_ok both.2
  | some owners =>
    simp only [Except.bind_eq_ok_iff, expect_eq_ok_iff, exists_const, decide_eq_true_eq,
      List.mem_map, not_exists, not_and, List.not_mem_nil, false_implies, implies_true, true_and]

/-- Two normalised results of one ToolCall. -/
def ResultsClash (other event : TraceEvent) : Prop :=
  other.eventType = .toolResultNormalized ∧ event.eventType = .toolResultNormalized ∧
    other.toolCallId = event.toolCallId

private theorem checkEventShape_split (earlier : List TraceEvent) (event : TraceEvent) :
    closure.checkEventShape earlier event = .ok () ↔
      (∀ other ∈ earlier, ¬ResultsClash other event) ∧
      closure.checkEventShape [] event = .ok () := by
  simp only [ExactRunEvidenceClosure.checkEventShape, Except.bind_eq_ok_iff, expect_eq_ok_iff,
    exists_const]
  split_ifs with normalized
  · have apart : (!earlier.any fun other =>
        other.eventType == .toolResultNormalized && other.toolCallId == event.toolCallId) = true ↔
        ∀ other ∈ earlier, ¬ResultsClash other event := by
      simp [ResultsClash, normalized]
    simp only [Except.bind_eq_ok_iff, expect_eq_ok_iff, exists_const, apart, List.any_nil,
      Bool.not_false]
    tauto
  · have apart : ∀ other ∈ earlier, ¬ResultsClash other event :=
      fun other _ clash => normalized clash.2.1
    exact (and_iff_right apart).symm

private theorem checkTraceEvent_split (earlier : List TraceEvent) (event : TraceEvent) :
    closure.checkTraceEvent earlier event = .ok () ↔
      (∀ other ∈ earlier, ¬ResultsClash other event) ∧
      closure.checkTraceEvent [] event = .ok () := by
  simp only [ExactRunEvidenceClosure.checkTraceEvent, Except.bind_eq_ok_iff]
  constructor
  · rintro ⟨⟨⟩, shape, rest⟩
    obtain ⟨apart, alone⟩ := (checkEventShape_split earlier event).mp shape
    exact ⟨apart, (), alone, rest⟩
  · rintro ⟨apart, ⟨⟩, alone, rest⟩
    exact ⟨(), (checkEventShape_split earlier event).mpr ⟨apart, alone⟩, rest⟩

end Loops

namespace ClosedGraph

open ExactRunEvidenceClosure

variable (closed : ClosedGraph left) (same : Rearranged left right)
include closed same

private theorem root_of : right.checkRoot = .ok () := by
  have success := closed.root
  rwa [checkRoot, same.runRecord, same.conversationRecord] at success

private theorem messages_of : right.checkMessages = .ok () := by
  have success := closed.messages
  rwa [checkMessages, same.messageRecords.all_eq, same.conversationRecord] at success

private theorem requestUnderstanding_of : right.checkRequestUnderstanding = .ok () := by
  have lookups := closed.sameLookups same
  have success := closed.requestUnderstanding
  unfold checkRequestUnderstanding at success ⊢
  rw [← same.requestUnderstandingRecord]
  cases stored : left.requestUnderstandingRecord with
  | none =>
    simp only [stored] at success ⊢
    rwa [← same.acceptedTaskDeltas.isEmpty_eq]
  | some record =>
    simp only [stored, Except.bind_eq_ok_iff, expect_eq_ok_iff, exists_const] at success ⊢
    obtain ⟨rooted, named, ⟨⟩, each, accepted, chain⟩ := success
    refine ⟨?_, ?_, (), ?_, ?_, ?_⟩
    · rwa [← same.runRecord, ← lookups.messageById]
    · rwa [← (sameSet_eq_of_perm (same.acceptedTaskDeltas.map _)).2]
    · rw [lookups.checkAcceptedChild] at each
      exact Except.forAfterM_eq_ok_of_perm checkAcceptedChild_split
        (fun _ _ => Eq.symm) same.acceptedTaskDeltas each
    · rwa [← (sameSet_eq_of_perm (same.acceptedTaskDeltas.map _)).1]
    · rwa [← lookups.checkVersionChain, ← lookups.orderedChildren]

private theorem tasks_of : right.checkTasks = .ok () := by
  have success := closed.tasks
  simp only [checkTasks, taskIds, Except.bind_eq_ok_iff, expect_eq_ok_iff, exists_const]
    at success ⊢
  rwa [← (sameSet_eq_of_perm (same.acceptedTaskDeltas.map _)).1,
    ← (sameSet_eq_of_perm (same.taskRecords.map _)).2, ← same.taskRecords.all_eq,
    ← same.conversationRecord]

private theorem links_of : right.checkLinks = .ok () := by
  have lookups := closed.sameLookups same
  have success := closed.links
  simp only [checkLinks, taskIds, Except.bind_eq_ok_iff, expect_eq_ok_iff, exists_const]
    at success ⊢
  obtain ⟨⟨⟩, runLinks, runSet, ⟨⟩, conversationLinks, conversationSet⟩ := success
  refine ⟨(), ?_, ?_, (), ?_, ?_⟩
  · rw [← lookups.checkRunTaskLink]
    exact Except.forM_eq_ok_of_perm same.runTaskLinks runLinks
  · rwa [← (sameSet_eq_of_perm (same.runTaskLinks.map _)).1,
      ← (sameSet_eq_of_perm (same.taskRecords.map _)).2]
  · rw [← lookups.conversationRecord, ← lookups.taskById]
    exact Except.forM_eq_ok_of_perm same.conversationTaskLinks conversationLinks
  · rwa [← (sameSet_eq_of_perm (same.conversationTaskLinks.map _)).1,
      ← (sameSet_eq_of_perm (same.taskRecords.map _)).2]

private theorem requestUnits_of : right.checkRequestUnits = .ok () := by
  have lookups := closed.sameLookups same
  have success := closed.requestUnits
  simp only [checkRequestUnits, taskIds, Except.bind_eq_ok_iff, expect_eq_ok_iff, exists_const]
    at success ⊢
  obtain ⟨⟨⟩, each, units, latest⟩ := success
  refine ⟨(), ?_, ?_, ?_⟩
  · rw [lookups.checkRequestUnit] at each
    exact Except.forAfterM_eq_ok_of_perm checkRequestUnit_split
      (fun _ _ => Eq.symm) same.requestUnitRecords each
  · rwa [← (sameSet_eq_of_perm (same.requestUnitRecords.map _)).1,
      ← (sameSet_eq_of_perm (same.taskRecords.map _)).2]
  · rwa [← lookups.orderedChildren, ← lookups.checkLatestChild]

private theorem history_of : right.checkHistory = .ok () := by
  have lookups := closed.sameLookups same
  have success := closed.history
  simp only [checkHistory, Except.bind_eq_ok_iff] at success ⊢
  obtain ⟨⟨⟩, transitions, tasks⟩ := success
  refine ⟨(), ?_, ?_⟩
  · rw [← lookups.checkTransition]
    exact Except.forM_eq_ok_of_perm same.transitions_perm transitions
  · rw [← lookups.checkTaskHistory]
    exact Except.forM_eq_ok_of_perm same.taskRecords tasks

private theorem bindings_of : right.checkBindings = .ok () :=
  Except.forM_eq_ok_of_perm same.inputBindingRecords closed.bindings

private theorem manifests_of : right.contextManifests.forM right.checkManifest = .ok () := by
  rw [← (closed.sameLookups same).checkManifest]
  exact Except.forM_eq_ok_of_perm same.contextManifests closed.manifests

private theorem gates_of : right.gateDecisions.forM right.checkGate = .ok () := by
  rw [← (closed.sameLookups same).checkGate]
  exact Except.forM_eq_ok_of_perm same.gateDecisions closed.gates

private theorem toolCalls_of :
    Except.forAfterM right.checkToolCall [] right.toolCalls = .ok () := by
  have each := closed.toolCalls
  rw [(closed.sameLookups same).checkToolCall] at each
  exact Except.forAfterM_eq_ok_of_perm checkToolCall_split (fun _ _ => Eq.symm) same.toolCalls each

private theorem attempts_of : right.checkAttempts = .ok () := by
  have lookups := closed.sameLookups same
  have success := closed.attempts
  simp only [checkAttempts, Except.bind_eq_ok_iff] at success ⊢
  obtain ⟨⟨⟩, parents, histories⟩ := success
  refine ⟨(), ?_, ?_⟩
  · rw [← lookups.callById]
    exact Except.forM_eq_ok_of_perm same.attempts_perm parents
  · rw [← lookups.checkAttemptHistory]
    exact Except.forM_eq_ok_of_perm same.toolCalls histories

private theorem observations_of : right.checkObservations = .ok () := by
  have success := closed.observations
  rw [checkObservations, (closed.sameLookups same).observationById] at success
  exact Except.forM_eq_ok_of_perm same.observationRecords success

private theorem traceEvents_of :
    Except.forAfterM right.checkTraceEvent [] right.traceEvents = .ok () := by
  have each := closed.traceEvents
  rw [(closed.sameLookups same).checkTraceEvent] at each
  apply Except.forAfterM_eq_ok_of_perm checkTraceEvent_split _ same.traceEvents each
  rintro first second ⟨normalized, also, call⟩
  exact ⟨also, normalized, call.symm⟩

private theorem normalizedResults_of :
    (right.traceEvents.filter (·.eventType == .toolResultNormalized)).forM
    right.checkNormalizedResult = .ok () := by
  rw [← (closed.sameLookups same).checkNormalizedResult]
  exact Except.forM_eq_ok_of_perm (same.traceEvents.filter _) closed.normalizedResults

private theorem observationEdges_of : right.checkObservationEdges = .ok () := by
  have success := closed.observationEdges
  have edges : left.observationSourceEdges.Perm right.observationSourceEdges :=
    same.traceEvents.filterMap _
  simp only [checkObservationEdges, expect_eq_ok_iff] at success ⊢
  rwa [← (sameSet_eq_of_perm edges).1, ← (sameSet_eq_of_perm (same.observationRecords.map _)).2,
    ← allDistinct_eq_of_perm edges]

private theorem gateTrace_of : right.checkGateTrace = .ok () := by
  have lookups := closed.sameLookups same
  have gateEvents : left.gateEvents.Perm right.gateEvents := same.traceEvents.filter _
  have events : ∀ projection,
      (left.eventsOfProjection projection).Perm (right.eventsOfProjection projection) :=
    fun projection => gateEvents.filter _
  have owners : ∀ projection,
      (left.ownersOfProjection projection).Perm (right.ownersOfProjection projection) :=
    fun projection => same.gateDecisions.filter _
  have projections : (left.gateEvents.map eventProjection).dedup.Perm
      (right.gateEvents.map eventProjection).dedup :=
    (gateEvents.map _).dedup
  have success := closed.gateTrace
  simp only [checkGateTrace, Except.bind_eq_ok_iff, expect_eq_ok_iff, exists_const,
    List.all_eq_true, decide_eq_true_eq, Except.forM_eq_ok_iff] at success ⊢
  obtain ⟨covered, each⟩ := success
  constructor
  · intro projection member
    rw [← (events projection).length_eq, ← (owners projection).length_eq]
    exact covered projection (projections.mem_iff.mpr member)
  · intro projection member
    have checked := each projection (projections.mem_iff.mpr member)
    simp only [checkGateProjection, Except.bind_eq_ok_iff, expect_eq_ok_iff] at checked ⊢
    obtain ⟨⟨⟩, own, crossing⟩ := checked
    refine ⟨(), ?_, ?_⟩
    · rw [← lookups.checkGateEvent]
      exact Except.forM_eq_ok_of_perm (events projection) own
    · rwa [← (events projection).countP_eq, ← (owners projection).countP_eq, ← lookups.unitById]

omit closed in
/-- Of the Tasks only the set of their statuses counts. -/
private theorem checkRunStoppedEvent_eq :
    left.checkRunStoppedEvent = right.checkRunStoppedEvent := by
  funext event
  have statuses :
      (left.taskRecords.map (·.status)).dedup.Perm (right.taskRecords.map (·.status)).dedup :=
    (same.taskRecords.map _).dedup
  simp only [checkRunStoppedEvent, same.runRecord, same.taskRecords.isEmpty_eq, statuses.length_eq]
  generalize (left.taskRecords.map (·.status)).dedup = leftStatuses at statuses
  generalize (right.taskRecords.map (·.status)).dedup = rightStatuses at statuses
  have sizes := statuses.length_eq
  rcases leftStatuses with _ | ⟨first, _ | ⟨second, rest⟩⟩
  · rw [List.nil_perm.mp statuses]
  · rw [List.singleton_perm.mp statuses]
  · rcases rightStatuses with _ | ⟨other, _ | ⟨another, others⟩⟩
    · simp at sizes
    · simp at sizes
    · rfl

private theorem runStopped_of : right.checkRunStopped = .ok () := by
  have stops : (left.traceEvents.filter (·.eventType == .runStopped)).Perm
      (right.traceEvents.filter (·.eventType == .runStopped)) := same.traceEvents.filter _
  have success := closed.runStopped
  simp only [checkRunStopped] at success ⊢
  rw [← same.runRecord, ← stops.isEmpty_eq]
  split_ifs at success ⊢ with active failed
  · exact success
  · exact success
  · split at success
    case h_2 => exact absurd success Except.throw_ne_ok
    case h_1 event only =>
      rw [only] at stops
      rw [← List.singleton_perm.mp stops, ← checkRunStoppedEvent_eq same]
      exact success

end ClosedGraph

section Lifecycles

open ExactRunEvidenceClosure

variable {first second third : ToolCallStatus × TraceEvent}

private theorem lifecycleLe_iff : lifecycleLe first second = true ↔
    first.2.occurredAt.instant < second.2.occurredAt.instant ∨
      first.2.occurredAt.instant = second.2.occurredAt.instant ∧
        (toolLifecyclePhase first.1 < toolLifecyclePhase second.1 ∨
          toolLifecyclePhase first.1 = toolLifecyclePhase second.1 ∧
          first.2.traceEventId ≤ second.2.traceEventId) := by
  have unfolded : lifecycleLe first second =
      (first.2.occurredAt.instant < second.2.occurredAt.instant ||
      (first.2.occurredAt.instant == second.2.occurredAt.instant &&
        (toolLifecyclePhase first.1 < toolLifecyclePhase second.1 ||
          (toolLifecyclePhase first.1 == toolLifecyclePhase second.1 &&
            first.2.traceEventId ≤ second.2.traceEventId)))) := rfl
  simp only [unfolded, Bool.or_eq_true, Bool.and_eq_true, decide_eq_true_eq, beq_iff_eq]

private theorem lifecycleLe_total (first second : ToolCallStatus × TraceEvent) :
    lifecycleLe first second = true ∨ lifecycleLe second first = true := by
  rw [lifecycleLe_iff, lifecycleLe_iff]
  grind

private theorem lifecycleLe_trans (early : lifecycleLe first second = true)
    (late : lifecycleLe second third = true) :
    lifecycleLe first third = true := by
  rw [lifecycleLe_iff] at early late ⊢
  grind

private theorem traceEventId_eq_of_lifecycleLe (forward : lifecycleLe first second = true)
    (backward : lifecycleLe second first = true) :
    first.2.traceEventId = second.2.traceEventId := by
  rw [lifecycleLe_iff] at forward backward
  grind

/-- Events of distinct identities are sorted in one way only. -/
private theorem insertionSort_lifecycle_eq {lefts rights : List (ToolCallStatus × TraceEvent)}
    (same : lefts.Perm rights)
    (apart : ∀ first ∈ lefts, ∀ second ∈ lefts, first.2.traceEventId = second.2.traceEventId →
      first = second) :
    lefts.insertionSort (lifecycleLe · ·) = rights.insertionSort (lifecycleLe · ·) := by
  have total : Std.Total fun first second => lifecycleLe first second = true := ⟨lifecycleLe_total⟩
  have transitive : IsTrans _ fun first second => lifecycleLe first second = true :=
    ⟨fun _ _ _ early late => lifecycleLe_trans early late⟩
  have leftPermuted := List.perm_insertionSort (lifecycleLe · ·) lefts
  have rightPermuted := List.perm_insertionSort (lifecycleLe · ·) rights
  apply (leftPermuted.trans (same.trans rightPermuted.symm)).eq_of_pairwise _
    (List.pairwise_insertionSort _ lefts)
    (List.pairwise_insertionSort _ rights)
  intro first second member other forward backward
  apply apart first (leftPermuted.mem_iff.mp member) second
    (same.mem_iff.mpr (rightPermuted.mem_iff.mp other))
  exact traceEventId_eq_of_lifecycleLe forward backward

private theorem ClosedGraph.orderedLifecycle_eq (closed : ClosedGraph left)
    (same : Rearranged left right) (call : ToolCallRecord) :
    left.orderedLifecycle call = right.orderedLifecycle call := by
  apply insertionSort_lifecycle_eq (same.traceEvents.filterMap _)
  have distinct : (left.traceEvents.map (·.traceEventId)).Nodup := by
    have identities := checkIdentities_eq_ok_iff.mp closed.identities
    tauto
  have origin : ∀ item ∈ left.traceEvents.filterMap fun event =>
      if event.toolCallId = some call.toolCallId then
        (toolTraceStatus event.eventType).map fun status => (status, event)
      else none, item.2 ∈ left.traceEvents ∧ toolTraceStatus item.2.eventType = some item.1 := by
    intro item member
    obtain ⟨event, recorded, found⟩ := List.mem_filterMap.mp member
    split_ifs at found
    obtain ⟨status, known, rfl⟩ := Option.map_eq_some_iff.mp found
    exact ⟨recorded, known⟩
  rintro ⟨status, event⟩ member ⟨otherStatus, other⟩ otherMember sameId
  obtain ⟨recorded, known⟩ := origin _ member
  obtain ⟨otherRecorded, otherKnown⟩ := origin _ otherMember
  obtain rfl : event = other := List.inj_on_of_nodup_map distinct recorded otherRecorded sameId
  obtain rfl : status = otherStatus := Option.some.inj (known.symm.trans otherKnown)
  rfl

private theorem ClosedGraph.lifecycles_of (closed : ClosedGraph left)
    (same : Rearranged left right) :
    right.toolCalls.forM right.checkLifecycle = .ok () := by
  have checks : left.checkLifecycle = right.checkLifecycle := by
    funext call
    simp only [checkLifecycle, closed.orderedLifecycle_eq same]
  rw [← checks]
  exact Except.forM_eq_ok_of_perm same.toolCalls closed.lifecycles

end Lifecycles

section References

open ExactRunEvidenceClosure

theorem Rearranged.referencedMessageIds (same : Rearranged left right) :
    left.referencedMessageIds.Perm right.referencedMessageIds := by
  simp only [ExactRunEvidenceClosure.referencedMessageIds, same.requestUnderstandingRecord]
  exact ((((((List.Perm.refl _).append (same.acceptedTaskDeltas.map _)).append
    (same.requestUnitRecords.flatMap_right _)).append
      (same.inputBindingRecords.flatMap_right _)).append
    (same.contextManifests.flatMap_right _)).append (same.traceEvents.filterMap _))

theorem Rearranged.referencedBindingIds (same : Rearranged left right) :
    left.referencedBindingIds.Perm right.referencedBindingIds :=
  (((((same.acceptedTaskDeltas.flatMap_right _).append
    (same.requestUnitRecords.flatMap_right _)).append
    (same.gateDecisions.flatMap_right _)).append (same.toolCalls.flatMap_right _)).append
    (same.traceEvents.filterMap _)).append (same.traceEvents.flatMap_right _)

theorem Rearranged.referencedObservationIds (same : Rearranged left right) :
    left.referencedObservationIds.Perm right.referencedObservationIds :=
  ((same.requestUnitRecords.flatMap_right _).append (same.contextManifests.flatMap_right _)).append
    (same.traceEvents.filterMap _)

theorem Rearranged.referencedArtifactHashes (same : Rearranged left right) :
    left.referencedArtifactHashes.Perm right.referencedArtifactHashes :=
  (same.contextManifests.map _).append (same.traceEvents.filterMap _)

/-- A dictionary of the closure knows only the identities of its family. -/
private theorem mem_of_lookup_isSome {α β : Type} {key : α → Uuid} {items : List α} {read : α → β}
    (wanted : Uuid) (known : ((lastByKey key items wanted).map read).isSome = true) :
    wanted ∈ items.map key := by
  rw [Option.isSome_map] at known
  obtain ⟨item, found⟩ := Option.isSome_iff_exists.mp known
  obtain ⟨member, rfl⟩ := mem_of_lastByKey found
  exact List.mem_map_of_mem member

/-- Expanding within one family does not see the order of the references. -/
private theorem expand_of_family {α : Type} {key : α → Uuid} {supersedes : α → Option Uuid}
    {items : List α} {familyName : String} {references others found : List Uuid}
    (same : references.Perm others) (success : exactEvidenceExpandSupersedes references (fun ref =>
      (lastByKey key items ref).map supersedes)
      items.length familyName = .ok found) :
    ∃ otherFound, exactEvidenceExpandSupersedes others
    (fun ref => (lastByKey key items ref).map supersedes)
      items.length familyName = .ok otherFound ∧ ∀ target, target ∈ found ↔
      target ∈ otherFound := by
  have counted : items.length = (items.map key).length := (List.length_map key).symm
  rw [counted] at success ⊢
  exact exactEvidenceExpandSupersedes_of_perm mem_of_lookup_isSome same success

private theorem ClosedGraph.references_of (closed : ClosedGraph left)
    (same : Rearranged left right) :
    right.checkReferences = .ok () := by
  have lookups := closed.sameLookups same
  have success := closed.references
  simp only [checkReferences, Except.bind_eq_ok_iff, expect_eq_ok_iff, exists_const, sameSet_iff]
    at success ⊢
  obtain ⟨bindings, bindingsFound, observations, observationsFound, messageSet, bindingSet,
    observationSet, artifactSet⟩ := success
  rw [lookups.bindingById, same.inputBindingRecords.length_eq] at bindingsFound
  rw [lookups.observationById, same.observationRecords.length_eq] at observationsFound
  obtain ⟨otherBindings, otherBindingsFound, sameBindings⟩ :=
    expand_of_family same.referencedBindingIds bindingsFound
  obtain ⟨otherObservations, otherObservationsFound, sameObservations⟩ :=
    expand_of_family same.referencedObservationIds observationsFound
  refine ⟨otherBindings, otherBindingsFound, otherObservations, otherObservationsFound, ?_,
    ?_, ?_, ?_⟩
  · simpa only [same.referencedMessageIds.mem_iff, (same.messageRecords.map _).mem_iff]
      using messageSet
  · simpa only [sameBindings, (same.inputBindingRecords.map _).mem_iff] using bindingSet
  · simpa only [sameObservations, (same.observationRecords.map _).mem_iff] using observationSet
  · simpa only [same.referencedArtifactHashes.mem_iff,
      (same.modelVisibleToolsetArtifacts.map _).mem_iff] using
      artifactSet

end References

theorem ClosedGraph.rearranged (closed : ClosedGraph left) (same : Rearranged left right) :
    ClosedGraph right where
  root := closed.root_of same
  identities := same.checkIdentities closed.identities
  messages := closed.messages_of same
  requestUnderstanding := closed.requestUnderstanding_of same
  tasks := closed.tasks_of same
  links := closed.links_of same
  requestUnits := closed.requestUnits_of same
  history := closed.history_of same
  bindings := closed.bindings_of same
  manifests := closed.manifests_of same
  gates := closed.gates_of same
  toolCalls := closed.toolCalls_of same
  attempts := closed.attempts_of same
  observations := closed.observations_of same
  traceEvents := closed.traceEvents_of same
  gateTrace := closed.gateTrace_of same
  normalizedResults := closed.normalizedResults_of same
  runStopped := closed.runStopped_of same
  lifecycles := closed.lifecycles_of same
  observationEdges := closed.observationEdges_of same
  references := closed.references_of same

/-- The validator accepts exactly canonical records whose sections all pass. -/
private theorem validates_iff_closedGraph {closure : ExactRunEvidenceClosure} :
    validates closure = true ↔ closure.recordsAreCanonical = true ∧ ClosedGraph closure := by
  constructor
  · intro valid
    exact ⟨(Bool.and_eq_true_iff.mp valid).1, closedGraph_of_validates valid⟩
  · rintro ⟨canonical, closed⟩
    have passed : closure.suppliedGraphIsExactAndRootClosed = .ok () := by
      simp only [ExactRunEvidenceClosure.suppliedGraphIsExactAndRootClosed, closed.root,
        closed.identities, closed.messages, closed.requestUnderstanding, closed.tasks, closed.links,
        closed.requestUnits, closed.history,
        closed.bindings, closed.manifests, closed.gates, closed.toolCalls, closed.attempts,
        closed.observations,
        closed.traceEvents, closed.gateTrace, closed.normalizedResults, closed.runStopped,
        closed.lifecycles,
        closed.observationEdges, closed.references, Except.bind_ok]
    refine Bool.and_eq_true_iff.mpr ⟨canonical, ?_⟩
    rw [passed]
    rfl

private theorem Rearranged.validates_eq (same : Rearranged left right) :
    validates left = validates right := by
  rw [Bool.eq_iff_iff, validates_iff_closedGraph, validates_iff_closedGraph,
    same.recordsAreCanonical]
  exact and_congr_right fun _ =>
    ⟨fun closed => closed.rearranged same, fun closed => closed.rearranged same.symm⟩

/-- `==` of two events, whose times are compared as instants. -/
def sameEvent (event other : TraceEvent) : Bool :=
  { event with occurredAt := other.occurredAt } == other &&
    event.occurredAt.instant == other.occurredAt.instant

/-- The fields from which `_execute_http_case` rebuilds the closure, its trace in the order of the
store; nothing where the two traces differ. -/
def executeHttpCaseFields (closure : ExactRunEvidenceClosure) (orderedTrace : List TraceEvent) :
    Option ExactRunEvidenceClosure :=
  let closureTraceById := lastByKey (·.traceEventId) closure.traceEvents
  let orderedTraceIds := orderedTrace.map (·.traceEventId)
  if allDistinct (closure.traceEvents.map (·.traceEventId)) && allDistinct orderedTraceIds &&
      (sameSet (closure.traceEvents.map (·.traceEventId)) orderedTraceIds &&
        orderedTrace.all fun event =>
          (closureTraceById event.traceEventId).any (sameEvent · event)) then
    some { closure with traceEvents := orderedTraceIds.filterMap closureTraceById }
  else none

/-- Looking up the identities of a family gives back the family. -/
private theorem filterMap_lastByKey {α : Type} {key : α → Uuid} {items : List α}
    (distinct : (items.map key).Nodup) :
    (items.map key).filterMap (lastByKey key items) = items := by
  suffices found : ∀ chosen : List α, chosen ⊆ items →
      (chosen.map key).filterMap (lastByKey key items) = chosen by
    exact found items (List.Subset.refl items)
  intro chosen listed
  induction chosen with
  | nil => rfl
  | cons item rest ih =>
    obtain ⟨member, others⟩ := List.cons_subset.mp listed
    rw [List.map_cons, List.filterMap_cons, lastByKey_of_mem distinct member, ih others]

private theorem executeHttpCaseFields_rearranged {closure rebuilt : ExactRunEvidenceClosure}
    {orderedTrace : List TraceEvent}
    (built : executeHttpCaseFields closure orderedTrace = some rebuilt) :
    Rearranged closure rebuilt := by
  simp only [executeHttpCaseFields] at built
  split_ifs at built with matched
  obtain rfl := Option.some.inj built
  simp only [Bool.and_eq_true, allDistinct_iff, sameSet_iff] at matched
  obtain ⟨⟨distinct, orderedDistinct⟩, identities, -⟩ := matched
  have reordered :
      (closure.traceEvents.map (·.traceEventId)).Perm (orderedTrace.map (·.traceEventId)) :=
    (List.perm_ext_iff_of_nodup distinct orderedDistinct).mpr identities
  have events := reordered.filterMap (lastByKey (·.traceEventId) closure.traceEvents)
  rw [filterMap_lastByKey distinct] at events
  constructor <;> first | exact events | exact List.Perm.refl _ | rfl | exact fun _ => rfl

/-- Whether evidence is accepted does not depend on the order of its rows, and the closure with the
trace in the order of the store is accepted exactly if the loaded one is. -/
theorem evidence_is_order_free :
    (∀ left right : ExactRunEvidenceClosure, Rearranged left right →
      validates left = validates right) ∧
      ∀ (closure rebuilt : ExactRunEvidenceClosure) (orderedTrace : List TraceEvent),
        executeHttpCaseFields closure orderedTrace = some rebuilt →
        validates rebuilt = validates closure :=
  ⟨fun _ _ same => same.validates_eq, fun _ _ _ built =>
    (executeHttpCaseFields_rearranged built).validates_eq.symm⟩

/-- The concrete Run with the start of the Run after or before its ToolCall. -/
def exampleTrace (events : List TraceEvent → List TraceEvent) : ExactRunEvidenceClosure :=
  let closure := exampleEvidence [exampleBinding 30 "O-1001".toList] 30
  { closure with
    traceEvents :=
      events ({ traceEventId := 91, eventType := .runStarted, occurredAt := .utc 0, runId := 1 } ::
      closure.traceEvents) }

theorem evidence_is_order_free_reversed :
    validates (exampleTrace id) = true ∧ validates (exampleTrace List.reverse) = true ∧
      executeHttpCaseFields (exampleTrace id) (exampleTrace List.reverse).traceEvents =
        some (exampleTrace List.reverse) := by
  have accepted : validates (exampleTrace id) = true := by decide +kernel
  have built : executeHttpCaseFields (exampleTrace id) (exampleTrace List.reverse).traceEvents =
      some (exampleTrace List.reverse) := by decide
  refine ⟨accepted, ?_, built⟩
  rw [evidence_is_order_free.2 _ _ _ built]
  exact accepted

end MiniAgent.Application
