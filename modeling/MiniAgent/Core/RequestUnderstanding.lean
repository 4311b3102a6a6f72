import MiniAgent.Core.ToolSystem
import Mathlib.Data.Rat.Defs
import Mathlib.Algebra.Order.Ring.Rat

/-! # Request Understanding contracts: the model-visible input and the v2 candidate output

The validators of a model are kept in the order of the source. A candidate output that passes
them is still only a proposal: nothing here compares it with an authoritative message.
-/

namespace MiniAgent.Core

/-- `Field(ge=0.0, le=1.0)` -/
def isConfidence (value : ℚ) : Bool := 0 ≤ value && value ≤ 1

structure ModelVisibleTaskSummary where
  taskAlias : String
  requestUnitAlias : Option String := none
  goalSummary : String
  status : String
  openQuestions : List String := []
deriving DecidableEq, Repr

instance : ContractModel ModelVisibleTaskSummary where
  validates summary := summary.taskAlias != "" && summary.requestUnitAlias != some "" &&
    summary.goalSummary != "" && summary.status != "" && summary.openQuestions.all (· != "")

structure ModelVisiblePendingActionSummary where
  actionAlias : String
  summary : String
deriving DecidableEq, Repr

instance : ContractModel ModelVisiblePendingActionSummary where
  validates action := action.actionAlias != "" && action.summary != ""

def thinSliceRequestSchemaVersion : String := "e2e01-thin-v1"

/-- Minimal, safe input for the first Request Understanding model call. `modelFieldsSet` names the
fields the caller passed explicitly. -/
structure RequestUnderstandingInput where
  schemaVersion : String := thinSliceRequestSchemaVersion
  runId : Uuid
  messageRef : Uuid
  originalQuery : Text
  recentMessageRefs : List Uuid := []
  pendingQuestion : Option String := none
  activeTaskSummaries : List ModelVisibleTaskSummary := []
  focusedTaskSummary : Option ModelVisibleTaskSummary := none
  pendingActionSummaries : List ModelVisiblePendingActionSummary := []
  outputConstraints : List String := []
  providerVisibleToolSpecs : List ToolSpec
  modelVisibleToolsetHash : Text
  modelFieldsSet : List String
deriving DecidableEq, Repr

instance : ContractModel RequestUnderstandingInput where
  validates input :=
    input.schemaVersion == thinSliceRequestSchemaVersion &&
    !input.originalQuery.isEmpty && input.originalQuery.length ≤ 4000 &&
    input.pendingQuestion != some "" &&
    input.activeTaskSummaries.all ContractModel.validates &&
    input.focusedTaskSummary.all ContractModel.validates &&
    input.pendingActionSummaries.all ContractModel.validates &&
    input.outputConstraints.all (· != "") &&
    input.providerVisibleToolSpecs.all ContractModel.validates &&
    isToolsetHash input.modelVisibleToolsetHash &&
    computeModelVisibleToolsetHash input.providerVisibleToolSpecs ==
      some input.modelVisibleToolsetHash

inductive TaskDeltaOperation
  | addGoal
deriving DecidableEq, Repr

inductive InputAuthority
  | userClaim
  | modelInference
deriving DecidableEq, Repr

inductive InputSourceKind
  | currentMessage
deriving DecidableEq, Repr

structure InputCandidate where
  name : String
  candidateValue : Text
  semanticRole : String
  authority : InputAuthority
  sourceKind : InputSourceKind
  sourceRef : Uuid
  sourceQuote : Text
  confidence : ℚ
deriving DecidableEq, Repr

instance : ContractModel InputCandidate where
  validates candidate := candidate.name == "order_id" && !candidate.candidateValue.isEmpty &&
    candidate.semanticRole == "TARGET_RESOURCE_IDENTIFIER" && !candidate.sourceQuote.isEmpty &&
    isConfidence candidate.confidence

/-- A model proposal, never an authoritative Task state mutation. -/
structure TaskDeltaCandidate where
  candidateId : Uuid
  operation : TaskDeltaOperation
  goalPatch : String
  inputCandidates : List InputCandidate
  confidence : ℚ
deriving DecidableEq, Repr

instance : ContractModel TaskDeltaCandidate where
  validates candidate := candidate.goalPatch != "" && !candidate.inputCandidates.isEmpty &&
    candidate.inputCandidates.all ContractModel.validates &&
    allDistinct (candidate.inputCandidates.map (·.name)) && isConfidence candidate.confidence

inductive NextMoveKind
  | callTool
  | askUser
  | finish
  | escalate
deriving DecidableEq, Repr

/-- A single model proposal; it is not an executable command. -/
structure NextMove where
  kind : NextMoveKind
  requestedToolName : Option String := none
  arguments : Option (List (String × Json)) := none
  baseTaskStateVersion : Option ℕ := none
deriving DecidableEq, Repr

instance : ContractModel NextMove where
  validates move :=
    move.requestedToolName != some "" &&
    (move.arguments.all fun arguments => (findTrustedArgumentField (.object arguments)).isNone) &&
    (move.baseTaskStateVersion.all (1 ≤ ·)) &&
    match move.kind with
    | .callTool => move.requestedToolName.isSome && move.arguments.isSome
    | _ => move.requestedToolName.isNone && move.arguments.isNone

/-- `model_dump_json` can encode every `str` of the move. Only its arguments can hold one with lone
surrogates: the others are constrained, and read as UTF-8. -/
def NextMove.isEncodable (move : NextMove) : Bool :=
  move.arguments.all fun arguments => (Json.object arguments).isEncodable

inductive ReferenceSourceKindV2
  | currentMessage
  | recentMessage
deriving DecidableEq, Repr

inductive UncertaintyReasonCodeV2
  | missingReference
  | multiplePlausibleReferences
deriving DecidableEq, Repr

/-- `StrictStr` with `Field(min_length=1, max_length=128)` -/
def isBoundedSourceQuoteV2 (quote : Text) : Bool := !quote.isEmpty && quote.length ≤ 128

structure ResolvedReferenceCandidateV2 where
  name : String
  candidateValue : Text
  sourceKind : ReferenceSourceKindV2
  sourceRef : Uuid
  sourceQuote : Text
  confidence : ℚ
deriving DecidableEq, Repr

instance : ContractModel ResolvedReferenceCandidateV2 where
  validates candidate := candidate.name == "order_id" && !candidate.candidateValue.isEmpty &&
    isBoundedSourceQuoteV2 candidate.sourceQuote && isConfidence candidate.confidence

/-- `Field(min_length=1, max_length=8)` and the uniqueness validator of a reference tuple. -/
def areSourceMessageRefs (refs : List Uuid) : Bool :=
  1 ≤ refs.length && refs.length ≤ 8 && allDistinct refs

structure UncertaintyV2 where
  name : String
  candidateValues : List String
  reasonCode : UncertaintyReasonCodeV2
  sourceMessageRefs : List Uuid
deriving DecidableEq, Repr

instance : ContractModel UncertaintyV2 where
  validates uncertainty := uncertainty.name == "order_id" &&
    uncertainty.candidateValues.all (· != "") &&
      areSourceMessageRefs uncertainty.sourceMessageRefs &&
    (match uncertainty.reasonCode with
      | .missingReference => uncertainty.candidateValues.isEmpty
      | .multiplePlausibleReferences =>
        2 ≤ uncertainty.candidateValues.length && uncertainty.candidateValues.length ≤ 8) &&
    allDistinct uncertainty.candidateValues

structure QueryContextualizationCandidateV2 where
  text : String
  resolvedReferenceCandidates : List ResolvedReferenceCandidateV2
  uncertainties : List UncertaintyV2
  sourceMessageRefs : List Uuid
deriving DecidableEq, Repr

instance : ContractModel QueryContextualizationCandidateV2 where
  validates context := context.text != "" &&
    context.resolvedReferenceCandidates.all ContractModel.validates &&
    context.uncertainties.all ContractModel.validates &&
    areSourceMessageRefs context.sourceMessageRefs &&
    (context.resolvedReferenceCandidates.all (·.sourceRef ∈ context.sourceMessageRefs)) &&
    (context.uncertainties.all fun uncertainty =>
      uncertainty.sourceMessageRefs.all (· ∈ context.sourceMessageRefs))

structure RequestUnderstandingOutputV2 where
  schemaVersion : String
  messageRef : Uuid
  contextualization : QueryContextualizationCandidateV2
  taskDeltaCandidates : List TaskDeltaCandidate
  nextMoveCandidate : NextMove
deriving DecidableEq, Repr

/-- The v2 bounds of one input candidate inside an output for the current message. -/
def isCurrentMessageClaimV2 (messageRef : Uuid) (candidate : InputCandidate) : Bool :=
  candidate.sourceQuote.length ≤ 128 && candidate.sourceRef == messageRef &&
    candidate.authority == .userClaim && candidate.sourceKind == .currentMessage

instance : ContractModel RequestUnderstandingOutputV2 where
  validates output := output.schemaVersion == "e2e01-thin-v2" &&
    ContractModel.validates output.contextualization &&
    output.taskDeltaCandidates.all ContractModel.validates &&
    ContractModel.validates output.nextMoveCandidate &&
    allDistinct (output.taskDeltaCandidates.map (·.candidateId)) &&
    decide (output.messageRef ∈ output.contextualization.sourceMessageRefs) &&
    (output.taskDeltaCandidates.all fun delta =>
      delta.inputCandidates.all (isCurrentMessageClaimV2 output.messageRef)) &&
    output.nextMoveCandidate.baseTaskStateVersion.isNone

theorem RequestUnderstandingOutputV2.validates_iff (output : RequestUnderstandingOutputV2) :
    ContractModel.validates output = true ↔
      output.schemaVersion = "e2e01-thin-v2" ∧
      ContractModel.validates output.contextualization = true ∧
      (∀ delta ∈ output.taskDeltaCandidates, ContractModel.validates delta = true) ∧
      ContractModel.validates output.nextMoveCandidate = true ∧
      (output.taskDeltaCandidates.map (·.candidateId)).Nodup ∧
      output.messageRef ∈ output.contextualization.sourceMessageRefs ∧
      (∀ delta ∈ output.taskDeltaCandidates, ∀ candidate ∈ delta.inputCandidates,
        isCurrentMessageClaimV2 output.messageRef candidate = true) ∧
      output.nextMoveCandidate.baseTaskStateVersion = none := by
  change (_ && _) = true ↔ _
  simp only [Bool.and_eq_true, beq_iff_eq, List.all_eq_true, allDistinct_iff, decide_eq_true_eq,
    Option.isNone_iff_eq_none, and_assoc]

end MiniAgent.Core
