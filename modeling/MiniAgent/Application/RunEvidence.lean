import MiniAgent.Application.Commands
import MiniAgent.Library.Outcome

/-! # The exact evidence of one Run

`ExactRunEvidenceClosure` is accepted only when the supplied records form one closed graph around
a Run. The validator is kept as the sequence of its sections, each with the messages it raises;
`keyError` is the exception of an unguarded dictionary access. A dictionary of the validator is
`lastByKey` of the list it is built from, and a set is the list of what was added to it.
-/

namespace MiniAgent.Application

open MiniAgent.Core ContractModel Keyed
open Except (require forAfterM)

/-- What can leave the validator instead of the closure. -/
inductive EvidenceFailure
  | valueError (message : String)
  | keyError
deriving DecidableEq, Repr

abbrev Evidence := Except EvidenceFailure

/-- `if not condition: raise ValueError(message)` -/
def expect (condition : Bool) (message : String) : Evidence Unit :=
  require condition (.valueError message)

/-- An unguarded dictionary access. -/
def getItem {α : Type} (found : Option α) : Evidence α :=
  match found with
  | some value => .ok value
  | none => .error .keyError

/-- Internally closed logical records for exactly one owner-scoped Run. -/
structure ExactRunEvidenceClosure where
  conversationRecord : ConversationRecord
  runRecord : AgentRunRecord
  messageRecords : List MessageRecord
  requestUnderstandingRecord : Option RequestUnderstandingRecordV2
  acceptedTaskDeltas : List AcceptedTaskDeltaV2
  inputBindingRecords : List InputBinding
  taskRecords : List TaskRecord
  taskStateTransitions : List TaskStateTransition
  requestUnitRecords : List RequestUnitRecord
  conversationTaskLinks : List ConversationTaskLinkRecord
  runTaskLinks : List RunTaskLinkRecord
  gateDecisions : List GateDecision
  toolCalls : List ToolCallRecord
  toolAttempts : List ToolAttemptRecord
  observationRecords : List OrderObservation
  contextManifests : List ContextManifest
  modelVisibleToolsetArtifacts : List ModelVisibleToolsetArtifact
  traceEvents : List TraceEvent
deriving DecidableEq, Repr

def exactEvidenceUnique {Identity : Type} [DecidableEq Identity] (identities : List Identity)
    (familyName : String) : Evidence Unit :=
  expect (allDistinct identities) (familyName ++ " identities must be unique")

def exactEvidenceRequireUniqueRefs (references : List Uuid) (fieldName : String) : Evidence Unit :=
  expect (allDistinct references) (fieldName ++ " references must be unique")

def exactRunEvidenceBindingValidationMessage : String :=
  "accepted child bindings must preserve validated input values"

/-- Follow one chain of supersedes links. The path only grows by records of the closure, so as
many steps as there are records, and one more to notice the end, are enough. -/
def followSupersedes (supersedes : Uuid → Option (Option Uuid)) (familyName : String)
    (reachable : List Uuid) : ℕ → List Uuid → Option Uuid → Evidence (List Uuid)
  | _, path, none => return reachable ++ path
  | 0, _, some _ => throw .keyError
  | fuel + 1, path, some current =>
    if current ∈ reachable then return reachable ++ path
    else do
      expect (current ∉ path) (familyName ++ " supersedes graph must be acyclic")
      match supersedes current with
      | none => throw (.valueError (familyName ++ " reference must resolve in closure"))
      | some next => followSupersedes supersedes familyName reachable fuel (path ++ [current]) next

/-- Everything reachable from the references by supersedes links. -/
def exactEvidenceExpandSupersedes (initialRefs : List Uuid)
    (supersedes : Uuid → Option (Option Uuid)) (recordCount : ℕ) (familyName : String) :
    Evidence (List Uuid) :=
  initialRefs.foldlM (fun reachable initialRef =>
    followSupersedes supersedes familyName reachable (recordCount + 1) [] (some initialRef)) []

namespace ExactRunEvidenceClosure

variable (closure : ExactRunEvidenceClosure)

def messageById : Uuid → Option MessageRecord := lastByKey (·.messageId) closure.messageRecords

def bindingById : Uuid → Option InputBinding := lastByKey (·.bindingId) closure.inputBindingRecords

def taskById : Uuid → Option TaskRecord := lastByKey (·.taskId) closure.taskRecords

def unitById : Uuid → Option RequestUnitRecord :=
  lastByKey (·.requestUnitId) closure.requestUnitRecords

def gateById : Uuid → Option GateDecision := lastByKey (·.gateDecisionId) closure.gateDecisions

def callById : Uuid → Option ToolCallRecord := lastByKey (·.toolCallId) closure.toolCalls

def observationById : Uuid → Option OrderObservation :=
  lastByKey (·.observationId) closure.observationRecords

def manifestById : Uuid → Option ContextManifest :=
  lastByKey (·.contextManifestId) closure.contextManifests

def acceptedById : Uuid → Option AcceptedTaskDeltaV2 :=
  lastByKey (·.acceptedDeltaId) closure.acceptedTaskDeltas

def childByCandidate : Uuid → Option AcceptedTaskDeltaV2 :=
  lastByKey (·.candidateRef) closure.acceptedTaskDeltas

/-- `unit_by_task`; the units loop has made its keys distinct. -/
def unitByTask : Uuid → Option RequestUnitRecord := lastByKey (·.taskId) closure.requestUnitRecords

def taskIds : List Uuid := closure.taskRecords.map (·.taskId)

/-- The accepted children in the order of their candidates. -/
def orderedChildren : List AcceptedTaskDeltaV2 :=
  match closure.requestUnderstandingRecord with
  | none => []
  | some record => record.taskDeltaCandidates.filterMap fun candidate =>
      closure.childByCandidate candidate.candidateId

def orderedChildrenByTask (taskId : Uuid) : List AcceptedTaskDeltaV2 :=
  closure.orderedChildren.filter (·.taskId == taskId)

def transitionsByTask (taskId : Uuid) : List TaskStateTransition :=
  closure.taskStateTransitions.filter (·.taskId == taskId)

def attemptsByCall (toolCallId : Uuid) : List ToolAttemptRecord :=
  closure.toolAttempts.filter (·.toolCallId == toolCallId)

def checkRoot : Evidence Unit :=
  expect (closure.runRecord.conversationId == some closure.conversationRecord.conversationId)
    "Run must identify the exact closure Conversation"

def checkIdentities : Evidence Unit := do
  exactEvidenceUnique (closure.messageRecords.map (·.messageId)) "Message"
  exactEvidenceUnique (closure.acceptedTaskDeltas.map (·.acceptedDeltaId)) "AcceptedTaskDelta"
  exactEvidenceUnique (closure.inputBindingRecords.map (·.bindingId)) "InputBinding"
  exactEvidenceUnique (closure.taskRecords.map (·.taskId)) "Task"
  exactEvidenceUnique (closure.taskStateTransitions.map fun transition =>
    (transition.taskId, transition.requestUnitId,
      transition.resultStateVersion)) "TaskStateTransition"
  exactEvidenceUnique (closure.requestUnitRecords.map (·.requestUnitId)) "RequestUnit"
  exactEvidenceUnique (closure.conversationTaskLinks.map fun link =>
    (link.conversationId, link.taskId, link.linkedAt.instant)) "ConversationTaskLink"
  exactEvidenceUnique (closure.runTaskLinks.map (·.taskId)) "RunTaskLink"
  exactEvidenceUnique (closure.gateDecisions.map (·.gateDecisionId)) "GateDecision"
  exactEvidenceUnique (closure.toolCalls.map (·.toolCallId)) "ToolCall"
  exactEvidenceUnique
    (closure.toolAttempts.map fun attempt => (attempt.toolCallId, attempt.attemptNo))
    "ToolAttempt"
  exactEvidenceUnique (closure.observationRecords.map (·.observationId)) "Observation"
  exactEvidenceUnique (closure.contextManifests.map (·.contextManifestId)) "ContextManifest"
  exactEvidenceUnique (closure.modelVisibleToolsetArtifacts.map (·.modelVisibleToolsetHash))
    "ModelVisibleToolsetArtifact"
  exactEvidenceUnique (closure.traceEvents.map (·.traceEventId)) "TraceEvent"

def checkMessages : Evidence Unit :=
  expect (closure.messageRecords.all (·.conversationId ==
    closure.conversationRecord.conversationId))
    "every Message must belong to the root Conversation"

/-- The bound value, its authority and its one source are those of the candidate input. -/
def preservesInput (binding : InputBinding) (input : DurableInputCandidateV2) : Bool :=
  normalizeOrderId input.candidateValue == some binding.normalizedValue &&
    binding.authority == input.authority && binding.sourceRefs == [input.sourceRef]

/-- The child's bindings are compared with the candidate's inputs name by name. Both sides are
dictionaries, so of several bindings of one name only the last is looked at. -/
def checkChildBindings (candidate : DurableTaskDeltaCandidateV2)
    (childBindings : List InputBinding) :
    Evidence Unit := do
  let expectedInputs := lastByKey (·.name) candidate.inputCandidates
  let actualBindings := dictValues (·.name) childBindings
  expect (sameSet (actualBindings.map (·.name)) (candidate.inputCandidates.map (·.name)))
    "accepted child bindings must match candidate inputs"
  expect ((dictValues (·.name) candidate.inputCandidates).all fun input =>
    (normalizeOrderId input.candidateValue).isSome) exactRunEvidenceBindingValidationMessage
  expect (actualBindings.all fun binding =>
    (expectedInputs binding.name).any (preservesInput binding))
    exactRunEvidenceBindingValidationMessage

/-- One pass of the loop over the accepted children; `earlier` are the children before. -/
def checkAcceptedChild (record : RequestUnderstandingRecordV2) (earlier : List AcceptedTaskDeltaV2)
    (child : AcceptedTaskDeltaV2) : Evidence Unit := do
  expect (child.candidateRef ∉ earlier.map (·.candidateRef))
    "an accepted candidate must have exactly one child"
  match lastByKey (·.candidateId) record.taskDeltaCandidates child.candidateRef,
      lastByKey (·.candidateRef) record.candidateValidation child.candidateRef with
  | some candidate, some decision =>
    expect (decision.decision == .accept) "accepted child must bind one accepted candidate"
    expect (child.messageRef == record.messageRef && child.operation == candidate.operation &&
      child.goalText == candidate.goalPatch &&
      child.acceptedAt.instant == record.createdAt.instant)
      "accepted child must preserve its parent candidate projection"
    exactEvidenceRequireUniqueRefs child.inputBindingRefs "AcceptedTaskDelta.input_binding_refs"
    expect (child.inputBindingRefs.all fun ref => (closure.bindingById ref).isSome)
      "accepted child InputBinding refs must resolve in closure"
    checkChildBindings candidate (child.inputBindingRefs.filterMap closure.bindingById)
    expect (closure.taskById child.taskId).isSome "accepted child Task must resolve in closure"
  | _, _ => throw (.valueError "accepted child must bind one accepted candidate")

/-- The version chain; `prior` maps a Task to the last result version seen. -/
def checkVersionChain : (Uuid → Option ℕ) → List AcceptedTaskDeltaV2 → Evidence Unit
  | _, [] => return
  | prior, child :: rest => do
    let expectedResult ← (match prior child.taskId with
      | none => return (child.baseTaskStateVersion.getD 0) + 1
      | some priorResult => do
        expect (child.baseTaskStateVersion == some priorResult)
          "accepted Task delta chain must be contiguous"
        return priorResult + 1 : Evidence ℕ)
    expect (child.resultTaskStateVersion == expectedResult)
      "accepted Task delta result version must advance once"
    let task ← getItem (closure.taskById child.taskId)
    expect (decide (child.resultTaskStateVersion ≤ task.stateVersion))
      "accepted Task delta must fit the current Task history"
    checkVersionChain
      (fun taskId => if taskId = child.taskId then some child.resultTaskStateVersion
        else prior taskId) rest

/-- The candidates that the record decided to accept. -/
def acceptedCandidateIds (record : RequestUnderstandingRecordV2) : List Uuid :=
  ((dictValues (·.candidateRef) record.candidateValidation).filter (·.decision == .accept)).map
    (·.candidateRef)

def checkRequestUnderstanding : Evidence Unit :=
  match closure.requestUnderstandingRecord with
  | none => expect closure.acceptedTaskDeltas.isEmpty
      "accepted children require a RequestUnderstanding record"
  | some record => do
    expect (record.runId == closure.runRecord.runId &&
      (closure.messageById record.messageRef).isSome)
      "RequestUnderstanding must bind the root Run and a closure Message"
    expect (sameSet record.acceptedDeltaRefs (closure.acceptedTaskDeltas.map (·.acceptedDeltaId)))
      "RequestUnderstanding must name the exact accepted child set"
    forAfterM (closure.checkAcceptedChild record) [] closure.acceptedTaskDeltas
    expect (sameSet (closure.acceptedTaskDeltas.map (·.candidateRef)) (acceptedCandidateIds record))
      "accepted decisions must have the exact accepted child set"
    closure.checkVersionChain (fun _ => none) closure.orderedChildren

def checkTasks : Evidence Unit := do
  expect (sameSet (closure.acceptedTaskDeltas.map (·.taskId)) closure.taskIds)
    "accepted child Task refs must match the exact closure Task set"
  expect (closure.taskRecords.all (·.ownerCustomerId == closure.conversationRecord.ownerCustomerId))
    "Task owner must match the root Conversation owner"

def checkRunTaskLink (link : RunTaskLinkRecord) : Evidence Unit := do
  match if link.runId = closure.runRecord.runId then closure.taskById link.taskId else none with
  | none => throw (.valueError "RunTaskLink must bind the root Run and closure Task")
  | some task =>
    expect (link.baseTaskStateVersion.all (· ≤ task.stateVersion))
      "RunTaskLink base version exceeds its Task"
    expect (link.resultTaskStateVersion.all (· == task.stateVersion))
      "RunTaskLink result version must match its Task projection"
    if closure.runRecord.status.isActive then
      expect link.resultTaskStateVersion.isNone
        "active RunTaskLink cannot carry a result Task version"
    else
      expect link.resultTaskStateVersion.isSome
        "terminal RunTaskLink requires the exact Task result version"
    let first ← getItem (closure.orderedChildrenByTask link.taskId).head?
    expect (first.baseTaskStateVersion == link.baseTaskStateVersion)
      "accepted Task delta first base must match RunTaskLink base"

def checkLinks : Evidence Unit := do
  closure.runTaskLinks.forM closure.checkRunTaskLink
  expect (sameSet (closure.runTaskLinks.map (·.taskId)) closure.taskIds)
    "RunTaskLink set must match the exact Task set"
  closure.conversationTaskLinks.forM fun link =>
    expect (link.conversationId == closure.conversationRecord.conversationId &&
      (closure.taskById link.taskId).isSome)
      "ConversationTaskLink must bind the root Conversation and Task"
  expect (sameSet (closure.conversationTaskLinks.map (·.taskId)) closure.taskIds)
    "ConversationTaskLink set must match the exact Task set"

def checkRequestUnit (earlier : List RequestUnitRecord) (unit : RequestUnitRecord) :
    Evidence Unit := do
  match if unit.taskId ∈ earlier.map (·.taskId) then none else closure.taskById unit.taskId with
  | none => throw (.valueError "closure requires one exact RequestUnit per Task")
  | some task =>
    expect (unit.status == task.status && unit.stateVersion == task.stateVersion)
      "RequestUnit status/version must match its Task projection"
    exactEvidenceRequireUniqueRefs unit.goalSourceRefs "RequestUnit.goal_source_refs"
    exactEvidenceRequireUniqueRefs unit.inputBindingRefs "RequestUnit.input_binding_refs"
    exactEvidenceRequireUniqueRefs unit.observationRefs "RequestUnit.observation_refs"
    expect (unit.evidenceBindingRefs.isEmpty && unit.pendingActionRef.isNone)
      "P0 exact Run closure cannot contain Evidence or Action refs"

/-- The latest child of a Task and the Task's RequestUnit tell the same story. -/
def checkLatestChild (taskId : Uuid) : Evidence Unit := do
  let unit ← getItem (closure.unitByTask taskId)
  let latestChild ← getItem (closure.orderedChildrenByTask taskId).getLast?
  expect (latestChild.goalText == unit.goalText &&
    sameSet latestChild.inputBindingRefs unit.inputBindingRefs &&
    decide (latestChild.messageRef ∈ unit.goalSourceRefs))
    "latest accepted child and RequestUnit causality must match exactly"

def checkRequestUnits : Evidence Unit := do
  forAfterM closure.checkRequestUnit [] closure.requestUnitRecords
  expect (sameSet (closure.requestUnitRecords.map (·.taskId)) closure.taskIds)
    "RequestUnit set must match the exact Task set"
  (closure.orderedChildren.map (·.taskId)).dedup.forM closure.checkLatestChild

def checkTransition (transition : TaskStateTransition) : Evidence Unit :=
  expect ((closure.taskById transition.taskId).isSome &&
    (closure.unitById transition.requestUnitId).any (·.taskId == transition.taskId))
    "Task transition must bind its closure Task and RequestUnit"

/-- When a Task version took effect. -/
def effectiveAt (task : TaskRecord) (version : ℕ) : Option Datetime :=
  match (closure.transitionsByTask task.taskId).reverse.find? (·.resultStateVersion == version) with
  | some transition => some transition.changedAt
  | none => if version = 1 then some task.createdAt else none

def checkChildTime (task : TaskRecord) (child : AcceptedTaskDeltaV2) : Evidence Unit :=
  match child.baseTaskStateVersion with
  | none => expect (task.createdAt.instant == child.acceptedAt.instant)
      "new accepted Task delta must match Task creation time"
  | some base =>
    expect ((closure.effectiveAt task base).any (fun effective =>
        decide (effective.instant ≤ child.acceptedAt.instant)) &&
      (closure.effectiveAt task child.resultTaskStateVersion).any fun effective =>
        decide (child.acceptedAt.instant ≤ effective.instant))
      "accepted Task delta must fit the current Task history"

def checkTaskHistory (task : TaskRecord) : Evidence Unit := do
  let transitions := closure.transitionsByTask task.taskId
  expect (task.stateVersion == transitions.length + 1)
    "Task transition history must be complete and contiguous"
  expect (transitions.map (·.resultStateVersion) == List.range' 2 transitions.length)
    "Task transition history must be complete and contiguous"
  match transitions.head?, transitions.getLast? with
  | some first, some last =>
    expect (first.fromStatus == .active) "Task history must start from ACTIVE"
    expect (decide (task.createdAt.instant ≤ first.changedAt.instant))
      "Task transition cannot precede Task creation"
    expect ((transitions.zip transitions.tail).all fun (current, following) =>
      current.toStatus == following.fromStatus &&
        decide (current.changedAt.instant ≤ following.changedAt.instant))
      "Task transition status and timestamp chain must be contiguous"
    expect (last.toStatus == task.status && last.changedAt.instant == task.updatedAt.instant)
      "Task terminal transition must match its current projection"
    (closure.orderedChildrenByTask task.taskId).forM (closure.checkChildTime task)
  | _, _ =>
    expect (task.status == .active) "Task without transitions must retain initial ACTIVE status"

def checkHistory : Evidence Unit := do
  closure.taskStateTransitions.forM closure.checkTransition
  closure.taskRecords.forM closure.checkTaskHistory

def checkBindings : Evidence Unit :=
  closure.inputBindingRecords.forM fun binding =>
    exactEvidenceRequireUniqueRefs binding.sourceRefs "InputBinding.source_refs"

def checkManifestTask (manifest : ContextManifest) (taskStateRef : TaskStateRefAndVersion) :
    Evidence Unit := do
  match closure.taskById taskStateRef.taskId with
  | none => throw (.valueError "ContextManifest Task ref must resolve in closure")
  | some task =>
    let resultOf (version : ℕ) :=
      (closure.transitionsByTask task.taskId).find? (·.resultStateVersion == version)
    let effective :=
      if taskStateRef.stateVersion = 1 then some task.createdAt
      else (resultOf taskStateRef.stateVersion).map (·.changedAt)
    expect (effective.any (fun start => decide (start.instant ≤ manifest.assembledAt.instant)) &&
      (resultOf (taskStateRef.stateVersion + 1)).all fun following =>
        decide (manifest.assembledAt.instant < following.changedAt.instant))
      "ContextManifest Task version must match history at assembly"

def checkManifest (manifest : ContextManifest) : Evidence Unit := do
  expect (manifest.runId == closure.runRecord.runId) "ContextManifest must belong to the root Run"
  exactEvidenceRequireUniqueRefs manifest.selectedMessageRefs
    "ContextManifest.selected_message_refs"
  (match manifest.taskStateRefAndVersion with
    | none => return
    | some taskStateRef => closure.checkManifestTask manifest taskStateRef : Evidence Unit)
  exactEvidenceRequireUniqueRefs (manifest.observationRefsAndVersions.map (·.recordRef))
    "ContextManifest.observation_refs_and_versions"
  manifest.observationRefsAndVersions.forM fun versionedRef =>
    expect ((closure.observationById versionedRef.recordRef).any
      (·.sourceVersion == some versionedRef.version))
      "ContextManifest Observation version must match exactly"
  expect (manifest.evidenceRefsAndVersions.isEmpty && manifest.actionRecordRefs.isEmpty)
    "P0 exact Run closure cannot contain Evidence or Action refs"

def checkGate (gate : GateDecision) : Evidence Unit := do
  match closure.manifestById gate.contextManifestId with
  | none => throw (.valueError "GateDecision manifest must resolve in closure")
  | some manifest =>
    exactEvidenceRequireUniqueRefs gate.argumentBindingRefs "GateDecision.argument_binding_refs"
    expect (gate.modelCallId == manifest.modelCallId)
      "GateDecision model call must match its ContextManifest"

/-- The records a ToolCall is owned by. -/
def callOwners (call : ToolCallRecord) :
    Option (TaskRecord × RequestUnitRecord × ContextManifest × GateDecision) := do
  let task ← closure.taskById call.taskId
  let unit ← closure.unitById call.requestUnitId
  let manifest ← closure.manifestById call.contextManifestId
  let gate ← closure.gateById call.gateDecisionId
  if call.runId = closure.runRecord.runId ∧ unit.taskId = call.taskId then
    some (task, unit, manifest, gate)
  else none

def checkToolCall (earlier : List ToolCallRecord) (call : ToolCallRecord) : Evidence Unit := do
  match closure.callOwners call with
  | none => throw (.valueError "ToolCall owner graph must close to the exact Run")
  | some (task, unit, manifest, gate) =>
    expect (call.gateDecisionId ∉ earlier.map (·.gateDecisionId))
      "a GateDecision cannot dispatch multiple ToolCalls"
    exactEvidenceRequireUniqueRefs call.argumentBindingRefs "ToolCall.argument_binding_refs"
    expect (call.argumentBindingRefs.all (· ∈ unit.inputBindingRefs))
      "ToolCall argument bindings must belong to its RequestUnit"
    expect (gate.decision == .accept &&
      gate.resolvedCanonicalToolName == some call.canonicalToolName &&
      gate.modelCallId == call.modelCallId && manifest.modelCallId == call.modelCallId &&
      gate.contextManifestId == call.contextManifestId &&
      sameSet gate.argumentBindingRefs call.argumentBindingRefs &&
      gate.validatedTaskStateVersion == some call.validatedTaskStateVersion &&
      manifest.toolRegistryVersion == call.toolRegistryVersion &&
      decide (call.validatedTaskStateVersion ≤ task.stateVersion))
      "ToolCall must preserve its accepted Gate and Manifest projection"

end ExactRunEvidenceClosure

/-- A finished attempt with an outcome. -/
def isFinishedAttempt (attempt : ToolAttemptRecord) : Bool :=
  attempt.finishedAt.isSome && attempt.outcome.isSome

/-- The status of a ToolCall agrees with its attempts, the last one in particular. -/
def checkAttemptStatus (call : ToolCallRecord) (attempts : List ToolAttemptRecord) :
    Evidence Unit :=
  match call.status with
  | .created => return
  | .running =>
    expect (attempts.getLast?.any (fun last => last.finishedAt.isNone && last.outcome.isNone) &&
      attempts.dropLast.all isFinishedAttempt) "RUNNING ToolCall requires one active final attempt"
  | .interrupted => do
    expect (attempts.dropLast.all isFinishedAttempt)
      "INTERRUPTED ToolCall has inconsistent prior attempts"
    match attempts.getLast? with
    | none => return
    | some last =>
      expect (last.finishedAt.isNone || (last.outcome == some .interrupted &&
        call.finishedAt.map (·.instant) == last.finishedAt.map (·.instant)))
        "INTERRUPTED ToolCall final attempt must agree"
  | .succeeded | .failed | .timedOut =>
    expect (attempts.all isFinishedAttempt && attempts.getLast?.any fun last =>
      last.outcome.any (· ∈ (terminalToolOutcomes call.status).getD []) &&
        call.finishedAt.map (·.instant) == last.finishedAt.map (·.instant) &&
        call.failureCode == last.failureCode)
      "terminal ToolCall and final attempt must agree"

namespace ExactRunEvidenceClosure

variable (closure : ExactRunEvidenceClosure)

def checkAttemptHistory (call : ToolCallRecord) : Evidence Unit := do
  let attempts := closure.attemptsByCall call.toolCallId
  expect (call.attemptCount == attempts.length)
    "ToolCall requires the exact contiguous attempt history"
  expect (attempts.map (·.attemptNo) == List.range' 1 attempts.length)
    "ToolCall requires the exact contiguous attempt history"
  expect (attempts.all (fun attempt =>
    decide (call.startedAt.instant ≤ attempt.startedAt.instant)) &&
    (attempts.zip attempts.tail).all fun (current, following) =>
      current.finishedAt.any fun finished =>
        decide (finished.instant ≤ following.startedAt.instant))
    "ToolAttempt timestamps must be ordered"
  checkAttemptStatus call attempts

def checkAttempts : Evidence Unit := do
  closure.toolAttempts.forM fun attempt =>
    expect (closure.callById attempt.toolCallId).isSome
      "ToolAttempt parent ToolCall must resolve in closure"
  closure.toolCalls.forM closure.checkAttemptHistory

def checkObservations : Evidence Unit :=
  closure.observationRecords.forM fun observation =>
    expect (observation.supersedes.all fun ref => (closure.observationById ref).isSome)
      "Observation supersedes must resolve in closure"

/-- `a is not None and a != b`, negated. -/
def agrees {α : Type} [DecidableEq α] (claimed : Option α) (actual : α) : Bool :=
  claimed.all (· == actual)

def checkEventShape (earlier : List TraceEvent) (event : TraceEvent) : Evidence Unit := do
  expect (event.runId == closure.runRecord.runId && event.caseId.isNone)
    "TraceEvent must bind the root Run without Eval case identity"
  expect (event.eventType == .gateDecisionRecorded ||
    (event.gateDecision.isNone && event.gateReasonCode.isNone))
      "Gate fields require GateDecisionRecorded"
  expect (event.eventType == .runStopped || (event.userOutcome.isNone && event.stopReason.isNone))
    "terminal fields require RunStopped"
  if event.eventType = .toolResultNormalized then
    expect (event.safeToolOutcome.isSome && event.toolCallId.isSome)
      "ToolResultNormalized requires safe_tool_outcome and tool_call_id"
    expect (!earlier.any fun other =>
      other.eventType == .toolResultNormalized && other.toolCallId == event.toolCallId)
      "ToolResultNormalized must be unique per ToolCall"
  else expect event.safeToolOutcome.isNone "safe_tool_outcome requires ToolResultNormalized"

def checkEventChild (event : TraceEvent) : Evidence Unit :=
  match event.acceptedDeltaRef with
  | none => return
  | some acceptedDeltaRef =>
    match closure.acceptedById acceptedDeltaRef with
    | none => throw (.valueError "Trace accepted child ref must resolve in closure")
    | some child =>
      expect (agrees event.messageRef child.messageRef && agrees event.taskId child.taskId &&
        event.requestUnitId.all fun unitId =>
          (closure.unitById unitId).any (·.taskId == child.taskId))
        "Trace accepted child correlations must match"

def checkEventTask (event : TraceEvent) : Evidence Unit := do
  expect (event.taskId.all fun taskId => (closure.taskById taskId).isSome)
    "Trace Task ref must resolve in closure"
  expect (event.requestUnitId.all fun unitId => (closure.unitById unitId).isSome)
    "Trace RequestUnit ref must resolve in closure"
  expect (event.taskId.all fun taskId => event.requestUnitId.all fun unitId =>
    (closure.unitById unitId).all (·.taskId == taskId)) "Trace Task and RequestUnit refs must agree"
  exactEvidenceRequireUniqueRefs event.argumentBindingRefs "TraceEvent.argument_binding_refs"

def checkEventManifest (event : TraceEvent) : Evidence Unit :=
  match event.contextManifestId with
  | none => return
  | some contextManifestId =>
    match closure.manifestById contextManifestId with
    | none => throw (.valueError "Trace ContextManifest ref must resolve in closure")
    | some manifest =>
      expect (agrees event.modelCallId manifest.modelCallId &&
        agrees event.modelVisibleToolsetHash manifest.modelVisibleToolsetHash &&
        agrees event.toolRegistryVersion manifest.toolRegistryVersion)
        "Trace Manifest correlations must match"

def checkEventToolCall (event : TraceEvent) : Evidence Unit :=
  match event.toolCallId with
  | none => return
  | some toolCallId =>
    match closure.callById toolCallId with
    | none => throw (.valueError "Trace ToolCall ref must resolve in closure")
    | some call => do
      expect (agrees event.taskId call.taskId) "Trace Task must match its ToolCall"
      expect (agrees event.requestUnitId call.requestUnitId)
        "Trace RequestUnit must match its ToolCall"
      expect (agrees event.contextManifestId call.contextManifestId)
        "Trace Manifest must match its ToolCall"
      let manifest ← getItem (closure.manifestById call.contextManifestId)
      expect (agrees event.modelCallId call.modelCallId &&
        agrees event.modelVisibleToolsetHash manifest.modelVisibleToolsetHash &&
        agrees event.toolRegistryVersion call.toolRegistryVersion &&
        (event.argumentBindingRefs.isEmpty ||
          sameSet event.argumentBindingRefs call.argumentBindingRefs))
        "Trace ToolCall correlations must match"

def checkEventObservation (event : TraceEvent) : Evidence Unit :=
  match event.observationRef with
  | none => return
  | some observationRef =>
    match closure.observationById observationRef with
    | none => throw (.valueError "Trace Observation ref must resolve in closure")
    | some observation =>
      if event.eventType ≠ .observationRecorded then return
      else
        expect ((event.toolCallId.bind closure.callById).any fun call =>
          call.status == .succeeded && call.effect == .read &&
            observation.sourceTool == call.canonicalToolName && event.taskId == some call.taskId &&
            event.requestUnitId == some call.requestUnitId &&
            event.occurredAt.instant == observation.recordedAt.instant)
          "Observation source must close to a root Run ToolCall"

def checkTraceEvent (earlier : List TraceEvent) (event : TraceEvent) : Evidence Unit := do
  closure.checkEventShape earlier event
  closure.checkEventChild event
  closure.checkEventTask event
  closure.checkEventManifest event
  closure.checkEventToolCall event
  closure.checkEventObservation event

/-- The seven fields that a Gate event repeats from its decision. -/
structure GateProjection where
  modelCallId : Option Uuid
  contextManifestId : Option Uuid
  requestedToolName : Option String
  validatedTaskStateVersion : Option ℕ
  argumentBindingRefs : List Uuid
  decision : Option GateDecisionValue
  reasonCode : Option GateReasonCode
deriving DecidableEq, Repr

def eventProjection (event : TraceEvent) : GateProjection where
  modelCallId := event.modelCallId
  contextManifestId := event.contextManifestId
  requestedToolName := event.requestedToolName
  validatedTaskStateVersion := event.validatedTaskStateVersion
  argumentBindingRefs := event.argumentBindingRefs
  decision := event.gateDecision
  reasonCode := event.gateReasonCode

def gateProjection (gate : GateDecision) : GateProjection where
  modelCallId := some gate.modelCallId
  contextManifestId := some gate.contextManifestId
  requestedToolName := some gate.requestedProviderToolName
  validatedTaskStateVersion := gate.validatedTaskStateVersion
  argumentBindingRefs := gate.argumentBindingRefs
  decision := some gate.decision
  reasonCode := gate.reasonCode

def gateEvents : List TraceEvent :=
  closure.traceEvents.filter (·.eventType == .gateDecisionRecorded)

def eventsOfProjection (projection : GateProjection) : List TraceEvent :=
  closure.gateEvents.filter (eventProjection · == projection)

def ownersOfProjection (projection : GateProjection) : List GateDecision :=
  closure.gateDecisions.filter (gateProjection · == projection)

def checkGateEvent (event : TraceEvent) : Evidence Unit := do
  expect (event.taskId.isSome && event.requestUnitId.isSome)
    "GateDecisionRecorded requires a root Task/RequestUnit pair"
  let manifest ← getItem (event.contextManifestId.bind closure.manifestById)
  expect (manifest.taskStateRefAndVersion.all fun ref => event.taskId == some ref.taskId)
    "GateDecisionRecorded Task must match ContextManifest"

def checkGateProjection (projection : GateProjection) : Evidence Unit := do
  let events := closure.eventsOfProjection projection
  let owners := closure.ownersOfProjection projection
  events.forM closure.checkGateEvent
  let crossUnitBindings := events.countP fun event =>
    !(event.requestUnitId.bind closure.unitById).any fun unit =>
      projection.argumentBindingRefs.all (· ∈ unit.inputBindingRefs)
  expect (decide (crossUnitBindings ≤ owners.countP (!·.argumentBindingValid)))
    "GateDecisionRecorded bindings must belong to its RequestUnit"

def checkGateTrace : Evidence Unit := do
  let projections := (closure.gateEvents.map eventProjection).dedup
  expect (projections.all fun projection => decide
    ((closure.eventsOfProjection projection).length ≤
      (closure.ownersOfProjection projection).length))
    "GateDecisionRecorded must match an owner GateDecision projection"
  projections.forM closure.checkGateProjection

def checkNormalizedResult (event : TraceEvent) : Evidence Unit := do
  let call ← getItem (event.toolCallId.bind closure.callById)
  let attempts := closure.attemptsByCall call.toolCallId
  match terminalToolOutcomes call.status with
  | none => throw (.valueError "ToolResultNormalized requires a terminal ToolCall")
  | some allowed =>
    expect (call.finishedAt.any (·.instant == event.occurredAt.instant) &&
      event.safeToolOutcome.any (· ∈ allowed))
      "ToolResultNormalized must match terminal ToolCall status and timestamp"
    expect (if call.status = .interrupted then
        if call.attemptCount = 0 then attempts.isEmpty
        else attempts.getLast?.any fun last => last.outcome.isNone ||
          last.outcome == some .interrupted
      else attempts.getLast?.any (·.outcome == event.safeToolOutcome))
      "ToolResultNormalized must match the final ToolAttempt"

def checkRunStoppedEvent (event : TraceEvent) : Evidence Unit := do
  let run := closure.runRecord
  expect (event == runStoppedProjection event)
    "RunStopped Trace only allows its exact per-kind projection"
  expect (event.stopReason == run.stopReason &&
    run.completedAt.any (·.instant == event.occurredAt.instant))
    "terminal RunStopped Trace must match the Run projection"
  if run.status = .completed then
    let statuses := (closure.taskRecords.map (·.status)).dedup
    let taskStatus := match statuses with
      | [status] => some status
      | _ => none
    expect (decide (statuses.length ≤ 1) &&
        (run.stopReason.any fun reason => event.userOutcome.any fun outcome =>
      (reason, !closure.taskRecords.isEmpty, outcome, taskStatus) ∈ completedFinalizationRows))
      "RunStopped projection is outside the closed completed Run matrix"
  else
    expect (run.stopReason == some .processRestartDetected && event.userOutcome == some .blocked)
      "INCOMPLETE RunStopped requires PROCESS_RESTART_DETECTED and BLOCKED"

def checkRunStopped : Evidence Unit := do
  let run := closure.runRecord
  let stopped := closure.traceEvents.filter (·.eventType == .runStopped)
  if run.status.isActive then expect stopped.isEmpty "active Run cannot have RunStopped Trace"
  else if run.status = .failed then
    expect run.stopReason.isNone "FAILED Run must not carry stop_reason"
    expect stopped.isEmpty "FAILED Run cannot have RunStopped Trace"
  else
    match stopped with
    | [event] => closure.checkRunStoppedEvent event
    | _ => throw (.valueError "terminal RunStopped Trace must exist exactly once")

def toolLifecyclePhase : ToolCallStatus → ℕ
  | .created => 0
  | .running => 1
  | .succeeded | .failed | .timedOut | .interrupted => 2

/-- The sort key of a lifecycle event: time, phase, identity. -/
def lifecycleKey (item : ToolCallStatus × TraceEvent) : ℤ × ℕ × Uuid :=
  (item.2.occurredAt.instant, toolLifecyclePhase item.1, item.2.traceEventId)

def lifecycleLe (left right : ToolCallStatus × TraceEvent) : Bool :=
  let (leftTime, leftPhase, leftId) := lifecycleKey left
  let (rightTime, rightPhase, rightId) := lifecycleKey right
  leftTime < rightTime || (leftTime == rightTime &&
    (leftPhase < rightPhase || (leftPhase == rightPhase && leftId ≤ rightId)))

/-- The lifecycle events of a ToolCall in the order of their keys. -/
def orderedLifecycle (call : ToolCallRecord) : List (ToolCallStatus × TraceEvent) :=
  (closure.traceEvents.filterMap fun event =>
    if event.toolCallId = some call.toolCallId then
      (toolTraceStatus event.eventType).map fun status => (status, event)
    else none).insertionSort (lifecycleLe · ·)

def checkLifecycle (call : ToolCallRecord) : Evidence Unit := do
  let ordered := closure.orderedLifecycle call
  let statuses := ordered.map (·.1)
  let terminal := ordered.filter (·.1.isTerminal)
  match ordered.getLast? with
  | none => throw (.valueError "ToolCall lifecycle must include its current projection")
  | some (latestStatus, latestEvent) =>
    expect (allDistinct statuses && ((statuses.zip statuses.tail).all fun (current, following) =>
        decide (toolLifecyclePhase current < toolLifecyclePhase following)) &&
      ordered.all fun (_, event) => decide (call.startedAt.instant ≤ event.occurredAt.instant))
      "ToolCall lifecycle timestamps and status order must agree"
    if call.status.isTerminal then
      expect (terminal.length == 1 && latestStatus == call.status &&
        call.finishedAt.any fun finished => latestEvent.occurredAt.instant == finished.instant &&
          ordered.all fun (_, event) => decide (event.occurredAt.instant ≤ finished.instant))
        "ToolCall lifecycle must match its terminal projection"
    else
      expect (terminal.isEmpty && latestStatus == call.status)
        "ToolCall lifecycle must match its active projection"

/-- The source edges that the trace records for Observations, one for each event. -/
def observationSourceEdges : List Uuid :=
  closure.traceEvents.filterMap fun event =>
    if event.eventType = .observationRecorded then event.observationRef else none

def checkObservationEdges : Evidence Unit :=
  expect (sameSet closure.observationSourceEdges
    (closure.observationRecords.map (·.observationId)) &&
    allDistinct closure.observationSourceEdges)
    "each Observation source edge must exist exactly once for root Run"

def referencedMessageIds : List Uuid :=
  (match closure.requestUnderstandingRecord with
    | none => []
    | some record => record.messageRef :: record.contextualization.sourceMessageRefs ++
        record.contextualization.resolvedReferenceCandidates.map (·.sourceRef) ++
        record.taskDeltaCandidates.flatMap fun candidate =>
          candidate.inputCandidates.map (·.sourceRef)) ++
    closure.acceptedTaskDeltas.map (·.messageRef) ++
    closure.requestUnitRecords.flatMap (·.goalSourceRefs) ++
    closure.inputBindingRecords.flatMap (·.sourceRefs) ++
    closure.contextManifests.flatMap (·.selectedMessageRefs) ++
    closure.traceEvents.filterMap (·.messageRef)

def referencedBindingIds : List Uuid :=
  closure.acceptedTaskDeltas.flatMap (·.inputBindingRefs) ++
    closure.requestUnitRecords.flatMap (·.inputBindingRefs) ++
    closure.gateDecisions.flatMap (·.argumentBindingRefs) ++
    closure.toolCalls.flatMap (·.argumentBindingRefs) ++
    closure.traceEvents.filterMap (·.inputBindingRef) ++
    closure.traceEvents.flatMap (·.argumentBindingRefs)

def referencedObservationIds : List Uuid :=
  closure.requestUnitRecords.flatMap (·.observationRefs) ++
    closure.contextManifests.flatMap (·.observationRefsAndVersions.map (·.recordRef)) ++
    closure.traceEvents.filterMap (·.observationRef)

def referencedArtifactHashes : List Text :=
  closure.contextManifests.map (·.modelVisibleToolsetHash) ++
    closure.traceEvents.filterMap (·.modelVisibleToolsetHash)

def checkReferences : Evidence Unit := do
  let bindingIds ← exactEvidenceExpandSupersedes closure.referencedBindingIds
    (fun ref => (closure.bindingById ref).map (·.supersedes)) closure.inputBindingRecords.length
      "InputBinding"
  let observationIds ← exactEvidenceExpandSupersedes closure.referencedObservationIds
    (fun ref => (closure.observationById ref).map (·.supersedes)) closure.observationRecords.length
    "Observation"
  expect (sameSet closure.referencedMessageIds (closure.messageRecords.map (·.messageId)))
    "Message family must be the exact referenced set"
  expect (sameSet bindingIds (closure.inputBindingRecords.map (·.bindingId)))
    "InputBinding family must be the exact referenced set"
  expect (sameSet observationIds (closure.observationRecords.map (·.observationId)))
    "Observation family must be the exact referenced set"
  expect (sameSet closure.referencedArtifactHashes
    (closure.modelVisibleToolsetArtifacts.map (·.modelVisibleToolsetHash)))
    "ModelVisibleToolsetArtifact family must be the exact referenced set"

def suppliedGraphIsExactAndRootClosed : Evidence Unit := do
  closure.checkRoot
  closure.checkIdentities
  closure.checkMessages
  closure.checkRequestUnderstanding
  closure.checkTasks
  closure.checkLinks
  closure.checkRequestUnits
  closure.checkHistory
  closure.checkBindings
  closure.contextManifests.forM closure.checkManifest
  closure.gateDecisions.forM closure.checkGate
  forAfterM closure.checkToolCall [] closure.toolCalls
  closure.checkAttempts
  closure.checkObservations
  forAfterM closure.checkTraceEvent [] closure.traceEvents
  closure.checkGateTrace
  (closure.traceEvents.filter (·.eventType == .toolResultNormalized)).forM
    closure.checkNormalizedResult
  closure.checkRunStopped
  closure.toolCalls.forM closure.checkLifecycle
  closure.checkObservationEdges
  closure.checkReferences

/-- Every supplied record is canonical on its own. -/
def recordsAreCanonical : Bool :=
  validates closure.conversationRecord && validates closure.runRecord &&
    closure.messageRecords.all validates && closure.requestUnderstandingRecord.all validates &&
    closure.acceptedTaskDeltas.all validates && closure.inputBindingRecords.all validates &&
    closure.taskRecords.all validates && closure.taskStateTransitions.all validates &&
    closure.requestUnitRecords.all validates && closure.conversationTaskLinks.all validates &&
    closure.runTaskLinks.all validates && closure.gateDecisions.all validates &&
    closure.toolCalls.all validates && closure.toolAttempts.all validates &&
    closure.observationRecords.all validates && closure.contextManifests.all validates &&
    closure.modelVisibleToolsetArtifacts.all validates && closure.traceEvents.all validates

instance : ContractModel ExactRunEvidenceClosure where
  validates closure := closure.recordsAreCanonical && closure.suppliedGraphIsExactAndRootClosed.isOk

end ExactRunEvidenceClosure

end MiniAgent.Application
