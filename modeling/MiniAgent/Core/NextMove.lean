import MiniAgent.Core.InitialRequest

/-! # Revalidating the routed move against its persisted graph -/

namespace MiniAgent.Core

open ContractModel

/-- `NextMoveKind.value` -/
def NextMoveKind.value : NextMoveKind → String
  | .callTool => "CALL_TOOL"
  | .askUser => "ASK_USER"
  | .finish => "FINISH"
  | .escalate => "ESCALATE"

/-- Candidate and current binding kept separate for the Control Gateway. -/
structure RevalidatedNextMove where
  runId : Uuid
  taskId : Uuid
  requestUnitId : Uuid
  nextMoveCandidateRef : Uuid
  kind : NextMoveKind
  requestedProviderToolName : String
  candidateArguments : List (String × Json)
  normalizedCandidateOrderId : Option Text
  bindingName : String
  bindingNormalizedValue : Text
  argumentBindingRefs : List Uuid
  proposedBaseTaskStateVersion : Option ℕ
  validatedTaskStateVersion : ℕ
deriving DecidableEq, Repr

instance : ContractModel RevalidatedNextMove where
  validates move := move.kind == .callTool && move.requestedProviderToolName != "" &&
    move.normalizedCandidateOrderId.all isOrderId && move.bindingName == "order_id" &&
    isOrderId move.bindingNormalizedValue && !move.argumentBindingRefs.isEmpty &&
    move.proposedBaseTaskStateVersion.all (1 ≤ ·) && 1 ≤ move.validatedTaskStateVersion

/-- The keys of an argument mapping are exactly `order_id`. -/
def namesOnlyOrderId (arguments : List (String × Json)) : Bool :=
  sameSet (arguments.map (·.1)) ["order_id"]

def candidateOrderIdOrNone (arguments : List (String × Json)) : Option Text :=
  if namesOnlyOrderId arguments then
    match Json.lookup arguments "order_id" with
    | some (.string value) => normalizeOrderId value
    | _ => none
  else none

/-- Revalidate one persisted exact-one v2 graph without rewriting arguments. The error is the
message of its `RequestProcessingError`. -/
def revalidateNextMoveV2 (decision : InitialRequestRoutableTaskGraphDecisionV2)
    (currentTask : TaskRecord) (currentRequestUnit : RequestUnitRecord)
    (currentInputBinding : InputBinding) :
    Except String RevalidatedNextMove := do
  let expected := decision.taskGraph
  Except.require (isExactCanonicalModelV2 decision) "canonical v2 initial decision required"
  Except.require (isExactCanonicalModelV2 currentTask &&
    isExactCanonicalModelV2 currentRequestUnit &&
    isExactCanonicalModelV2 currentInputBinding) "canonical current graph required"
  Except.require (currentTask.ownerCustomerId == expected.task.ownerCustomerId)
    "current Task owner mismatch"
  Except.require (currentTask.taskId == expected.task.taskId &&
    currentRequestUnit.taskId == currentTask.taskId &&
    currentRequestUnit.requestUnitId ==
      expected.requestUnit.requestUnitId) "current Task graph mismatch"
  Except.require (currentTask.status == .active && currentRequestUnit.status == .active &&
    currentTask.stateVersion == 1 && currentRequestUnit.stateVersion == 1)
    "current Task graph is not ACTIVE/v1"
  Except.require (currentTask == expected.task && currentRequestUnit == expected.requestUnit)
    "current Task graph mismatch"
  Except.require (currentInputBinding == expected.inputBinding &&
    currentRequestUnit.inputBindingRefs == [currentInputBinding.bindingId] &&
    expected.acceptedDelta.inputBindingRefs == [currentInputBinding.bindingId])
    "current InputBinding graph mismatch"
  match decision.nextMoveCandidate.kind, decision.nextMoveCandidate.requestedToolName,
    decision.nextMoveCandidate.arguments with
  | .callTool, some requestedToolName, some arguments =>
    Except.require (findTrustedArgumentField (.object arguments)).isNone
      "trusted field in model arguments"
    let move : RevalidatedNextMove :=
      { runId := decision.closure.record.runId
        taskId := currentTask.taskId
        requestUnitId := currentRequestUnit.requestUnitId
        nextMoveCandidateRef := decision.nextMoveCandidateRef
        kind := .callTool
        requestedProviderToolName := requestedToolName
        candidateArguments := arguments
        normalizedCandidateOrderId := candidateOrderIdOrNone arguments
        bindingName := currentInputBinding.name
        bindingNormalizedValue := currentInputBinding.normalizedValue
        argumentBindingRefs := [currentInputBinding.bindingId]
        proposedBaseTaskStateVersion := decision.nextMoveCandidate.baseTaskStateVersion
        validatedTaskStateVersion := currentTask.stateVersion }
    match construct move with
    | some revalidated => return revalidated
    | none => throw "v2 NextMove revalidation failed"
  | _, _, _ => throw "revalidation requires CALL_TOOL candidate"

end MiniAgent.Core
