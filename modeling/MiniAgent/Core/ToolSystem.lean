import MiniAgent.Core.Common
import MiniAgent.Library.Keyed
import MiniAgent.Library.Sha256

/-! # Tool specifications, the registry, the Gate decision and the ToolCall lifecycle

The order is the source's: what a model may see of a tool, the registrations behind it, the Gate's
verdict on a proposed call, then the authorised command and the ToolCall with its attempts.
-/

namespace MiniAgent.Core

/-- `^[a-z][a-z0-9_]*$` -/
def isToolName (name : String) : Bool :=
  match name.toList with
  | [] => false
  | first :: rest => ('a' ≤ first && first ≤ 'z') &&
      rest.all fun c => ('a' ≤ c && c ≤ 'z') || ('0' ≤ c && c ≤ '9') || c == '_'

/-- `sha256(text.encode("utf-8")).hexdigest()` -/
def sha256Hexdigest (text : Text) : Text := Sha256.hexdigest (text.flatMap String.utf8EncodeChar)

/-- `^sha256:[0-9a-f]{64}$` -/
def isToolsetHash (hash : Text) : Bool :=
  hash.take 7 == "sha256:".toList && (hash.drop 7).length == 64 &&
    (hash.drop 7).all Sha256.isHexDigit

/-- The complete safe Tool definition that a model may see. -/
structure ToolSpec where
  name : String
  description : String
  inputSchema : List (String × Json)
  outputSchema : List (String × Json)
deriving DecidableEq, Repr

/-- A closed JSON object schema that declares no trusted field. -/
def isClosedToolSchema (schema : List (String × Json)) : Bool :=
  Json.lookup schema "type" == some (.string "object".toList) &&
    Json.lookup schema "additionalProperties" == some (.bool false) &&
    (findTrustedArgumentField (.object schema)).isNone

instance : ContractModel ToolSpec where
  validates spec := isToolName spec.name && spec.description != "" &&
    isClosedToolSchema spec.inputSchema && isClosedToolSchema spec.outputSchema

/-- `tool.model_dump(mode="json")` -/
def ToolSpec.modelDump (tool : ToolSpec) : Json :=
  .object [("name", .string tool.name.toList), ("description", .string tool.description.toList),
    ("input_schema", .object tool.inputSchema), ("output_schema", .object tool.outputSchema)]

def modelVisibleToolsetArtifactSchemaVersion : String := "model-visible-toolset.p0.v1"

/-- Hash the sorted, final provider-visible ToolSpec projection. -/
def computeModelVisibleToolsetHash (tools : List ToolSpec) : Option Text :=
  let sortedTools := tools.insertionSort fun left right => left.name.toList ≤ right.name.toList
  if sortedTools.isEmpty then none
  else if !allDistinct (sortedTools.map (·.name)) then none
  else
    let payload : Json := .object
      [("artifact_schema_version", .string modelVisibleToolsetArtifactSchemaVersion.toList),
        ("tools", .array (sortedTools.map (·.modelDump)))]
    if payload.isEncodable then some ("sha256:".toList ++ sha256Hexdigest payload.dumps) else none

structure ModelVisibleToolsetArtifact where
  artifactSchemaVersion : String := modelVisibleToolsetArtifactSchemaVersion
  modelVisibleToolsetHash : Text
  providerVisibleToolSpecs : List ToolSpec
deriving DecidableEq, Repr

instance : ContractModel ModelVisibleToolsetArtifact where
  validates artifact :=
    artifact.artifactSchemaVersion == modelVisibleToolsetArtifactSchemaVersion &&
    isToolsetHash artifact.modelVisibleToolsetHash &&
    artifact.providerVisibleToolSpecs.all ContractModel.validates &&
    computeModelVisibleToolsetHash artifact.providerVisibleToolSpecs ==
      some artifact.modelVisibleToolsetHash

/-- `left == right` of two ToolSpecs; their schemas are frozen JSON, so that the sides matter. -/
def ToolSpec.sameAs (left right : ToolSpec) : Bool :=
  left.name == right.name && left.description == right.description &&
    frozenEq (.object left.inputSchema) (.object right.inputSchema) &&
    frozenEq (.object left.outputSchema) (.object right.outputSchema)

/-- `left == right` of two Toolset artifacts. -/
def ModelVisibleToolsetArtifact.sameAs (left right : ModelVisibleToolsetArtifact) : Bool :=
  left.artifactSchemaVersion == right.artifactSchemaVersion &&
    left.modelVisibleToolsetHash == right.modelVisibleToolsetHash &&
    left.providerVisibleToolSpecs.length == right.providerVisibleToolSpecs.length &&
    (left.providerVisibleToolSpecs.zip right.providerVisibleToolSpecs).all fun specs =>
      specs.1.sameAs specs.2

inductive ToolEffect
  | read
  | retrieval
  | action
deriving DecidableEq, Repr

structure ExecutionPolicy where
  timeoutMs : ℕ
  maxAttempts : ℕ
  retryableFailureCodes : List String := []
  interruptBehavior : String
deriving DecidableEq, Repr

instance : ContractModel ExecutionPolicy where
  validates policy := 0 < policy.timeoutMs && 1 ≤ policy.maxAttempts &&
    policy.retryableFailureCodes.all (· != "") && policy.interruptBehavior != ""

/-- Runtime-private registration; only `toolSpec` is model-projectable. -/
structure ToolRegistration where
  toolSpec : ToolSpec
  providerVisibleName : String
  effect : ToolEffect
  risk : String
  idempotency : String
  unknownResultRecovery : Option String := none
  handlerRef : String
  executionPolicy : ExecutionPolicy
deriving DecidableEq, Repr

instance : ContractModel ToolRegistration where
  validates registration := ContractModel.validates registration.toolSpec &&
    isToolName registration.providerVisibleName && registration.risk != "" &&
    registration.idempotency != "" && registration.unknownResultRecovery.all (· != "") &&
    registration.handlerRef != "" && ContractModel.validates registration.executionPolicy &&
    !(registration.effect == .action && registration.unknownResultRecovery.isNone) &&
    !(registration.effect == .action && registration.executionPolicy.maxAttempts != 1)

structure ProviderToolNameBinding where
  providerVisibleName : String
  canonicalToolName : String
deriving DecidableEq, Repr

instance : ContractModel ProviderToolNameBinding where
  validates binding := isToolName binding.providerVisibleName &&
    isToolName binding.canonicalToolName

/-- Frozen registration view shared by model projection and Gate validation. -/
structure RegistrySnapshot where
  toolRegistryVersion : String
  canonicalRegistrations : List ToolRegistration
  providerVisibleToolset : List ToolSpec
  providerNameToCanonicalName : List ProviderToolNameBinding
  modelVisibleToolsetHash : Text
deriving DecidableEq, Repr

namespace RegistrySnapshot

variable (snapshot : RegistrySnapshot)

/-- The canonical name that the registrations give a provider-visible name. -/
def expectedBinding (providerName : String) : Option String :=
  (Keyed.lastByKey (·.providerVisibleName) snapshot.canonicalRegistrations providerName).map
    (·.toolSpec.name)

/-- The canonical name that the name mapping gives a provider-visible name. -/
def actualBinding (providerName : String) : Option String :=
  (Keyed.lastByKey (·.providerVisibleName) snapshot.providerNameToCanonicalName providerName).map
    (·.canonicalToolName)

def snapshotIsSelfConsistent : Bool :=
  let providerNames := snapshot.canonicalRegistrations.map (·.providerVisibleName)
  computeModelVisibleToolsetHash snapshot.providerVisibleToolset ==
    some snapshot.modelVisibleToolsetHash &&
  allDistinct (snapshot.canonicalRegistrations.map (·.toolSpec.name)) &&
    allDistinct providerNames &&
  (providerNames ++ snapshot.providerNameToCanonicalName.map (·.providerVisibleName)).all
    (fun name => snapshot.actualBinding name == snapshot.expectedBinding name) &&
  sameSet (snapshot.providerVisibleToolset.map (·.name)) providerNames

instance : ContractModel RegistrySnapshot where
  validates snapshot := snapshot.toolRegistryVersion != "" &&
    snapshot.canonicalRegistrations.all ContractModel.validates &&
    snapshot.providerVisibleToolset.all ContractModel.validates &&
    snapshot.providerNameToCanonicalName.all ContractModel.validates &&
    isToolsetHash snapshot.modelVisibleToolsetHash && snapshot.snapshotIsSelfConsistent

def artifact : ModelVisibleToolsetArtifact :=
  { modelVisibleToolsetHash := snapshot.modelVisibleToolsetHash
    providerVisibleToolSpecs := snapshot.providerVisibleToolset }

end RegistrySnapshot

inductive GateDecisionValue
  | accept
  | reject
deriving DecidableEq, Repr

inductive GateReasonCode
  | actionRequiresProposal
  | argumentBindingMismatch
  | budgetExceeded
  | noProgress
  | schemaInvalid
  | snapshotMismatch
  | stateVersionMismatch
  | toolNotRegistered
  | trustedFieldInjection
deriving DecidableEq, Repr

structure GateDecision where
  gateDecisionId : Uuid
  modelCallId : Uuid
  contextManifestId : Uuid
  providerToolCallId : Option String := none
  requestedProviderToolName : String
  resolvedCanonicalToolName : Option String := none
  snapshotMatch : Bool
  registrationValid : Bool
  schemaValid : Bool
  trustedFieldValid : Bool
  argumentBindingValid : Bool
  argumentBindingRefs : List Uuid := []
  budgetValid : Bool
  progressValid : Bool
  proposedBaseTaskStateVersion : Option ℕ := none
  validatedTaskStateVersion : Option ℕ := none
  stateVersionValid : Bool
  actionBoundaryValid : Bool
  decision : GateDecisionValue
  reasonCode : Option GateReasonCode := none
  decidedAt : Datetime
deriving DecidableEq, Repr

namespace GateDecision

variable (gate : GateDecision)

def checks : List Bool :=
  [gate.snapshotMatch, gate.registrationValid, gate.schemaValid, gate.trustedFieldValid,
    gate.argumentBindingValid, gate.budgetValid, gate.progressValid, gate.stateVersionValid,
    gate.actionBoundaryValid]

/-- The check that a rejection reason says has failed. -/
def namedCheck : GateReasonCode → Bool
  | .actionRequiresProposal => gate.actionBoundaryValid
  | .argumentBindingMismatch => gate.argumentBindingValid
  | .budgetExceeded => gate.budgetValid
  | .noProgress => gate.progressValid
  | .schemaInvalid => gate.schemaValid
  | .snapshotMismatch => gate.snapshotMatch
  | .stateVersionMismatch => gate.stateVersionValid
  | .toolNotRegistered => gate.registrationValid
  | .trustedFieldInjection => gate.trustedFieldValid

def decisionMatchesChecks : Bool :=
  match gate.decision, gate.reasonCode with
  | .accept, reasonCode => gate.checks.all id && gate.resolvedCanonicalToolName.isSome &&
      gate.validatedTaskStateVersion.isSome && !gate.argumentBindingRefs.isEmpty &&
        reasonCode.isNone
  | .reject, none => false
  | .reject, some reasonCode => !gate.checks.all id && !gate.namedCheck reasonCode &&
      !(reasonCode == .argumentBindingMismatch && gate.argumentBindingRefs.isEmpty)

instance : ContractModel GateDecision where
  validates gate := gate.providerToolCallId.all (· != "") && gate.requestedProviderToolName != "" &&
    gate.resolvedCanonicalToolName.all isToolName &&
      gate.proposedBaseTaskStateVersion.all (1 ≤ ·) &&
    gate.validatedTaskStateVersion.all (1 ≤ ·) && gate.decidedAt.requireUtc &&
      gate.decisionMatchesChecks

end GateDecision

/-- What an accepted Gate decision lets the executor do. -/
structure AuthorizedToolCommand where
  gateDecisionId : Uuid
  canonicalToolName : String
  validatedArguments : List (String × Json)
  argumentBindingRefs : List Uuid
  validatedTaskStateVersion : ℕ
  registrySnapshotRef : String
  trustedContextRef : String
deriving DecidableEq, Repr

instance : ContractModel AuthorizedToolCommand where
  validates command := isToolName command.canonicalToolName &&
    (findTrustedArgumentField (.object command.validatedArguments)).isNone &&
    !command.argumentBindingRefs.isEmpty && 1 ≤ command.validatedTaskStateVersion &&
    command.registrySnapshotRef != "" && command.trustedContextRef != ""

inductive ToolCallStatus
  | created
  | running
  | succeeded
  | failed
  | timedOut
  | interrupted
deriving DecidableEq, Repr

namespace ToolCallStatus

def isTerminal : ToolCallStatus → Bool
  | created | running => false
  | succeeded | failed | timedOut | interrupted => true

def requiresAttempt : ToolCallStatus → Bool
  | created | interrupted => false
  | running | succeeded | failed | timedOut => true

end ToolCallStatus

inductive ToolTimeoutPhase
  | beforeDispatch
  | afterDispatch
  | unknown
deriving DecidableEq, Repr

/-- `^[A-Z][A-Z0-9_]{1,127}$` -/
def isSafeReasonCode (code : String) : Bool :=
  match code.toList with
  | [] => false
  | first :: rest => ('A' ≤ first && first ≤ 'Z') && 1 ≤ rest.length && rest.length ≤ 127 &&
      rest.all fun c => ('A' ≤ c && c ≤ 'Z') || ('0' ≤ c && c ≤ '9') || c == '_'

structure ToolCallRecord where
  toolCallId : Uuid
  runId : Uuid
  taskId : Uuid
  requestUnitId : Uuid
  modelCallId : Uuid
  contextManifestId : Uuid
  gateDecisionId : Uuid
  providerToolCallId : Option String := none
  canonicalToolName : String
  toolRegistryVersion : String
  validatedTaskStateVersion : ℕ
  argumentBindingRefs : List Uuid
  effect : ToolEffect
  attemptCount : ℕ
  status : ToolCallStatus
  startedAt : Datetime
  finishedAt : Option Datetime := none
  failureCode : Option String := none
  timeoutPhase : Option ToolTimeoutPhase := none
  interruptionReason : Option String := none
  resultRef : Option Uuid := none
deriving DecidableEq, Repr

namespace ToolCallRecord

variable (call : ToolCallRecord)

def lifecycleIsConsistent : Bool :=
  !(call.status == .created && call.attemptCount != 0) &&
  !(call.status.requiresAttempt && decide (call.attemptCount < 1)) &&
  call.status.isTerminal == call.finishedAt.isSome &&
  call.finishedAt.all (fun finished => decide (call.startedAt.instant ≤ finished.instant)) &&
  !(call.status == .succeeded && call.failureCode.isSome) &&
  (call.status == .timedOut) == call.timeoutPhase.isSome &&
  (call.status == .interrupted) == call.interruptionReason.isSome

instance : ContractModel ToolCallRecord where
  validates call := call.providerToolCallId.all (· != "") && isToolName call.canonicalToolName &&
    call.toolRegistryVersion != "" && 1 ≤ call.validatedTaskStateVersion &&
    !call.argumentBindingRefs.isEmpty && call.failureCode.all (· != "") &&
    call.interruptionReason.all isSafeReasonCode && call.startedAt.requireUtc &&
    call.finishedAt.all (·.requireUtc) && call.lifecycleIsConsistent

end ToolCallRecord

inductive ToolResultOutcome
  | success
  | businessFailure
  | systemFailure
  | timeout
  | interrupted
  | resultUnknown
deriving DecidableEq, Repr

structure ToolAttemptRecord where
  toolCallId : Uuid
  attemptNo : ℕ
  startedAt : Datetime
  finishedAt : Option Datetime := none
  outcome : Option ToolResultOutcome := none
  failureCode : Option String := none
deriving DecidableEq, Repr

namespace ToolAttemptRecord

variable (attempt : ToolAttemptRecord)

def lifecycleIsConsistent : Bool :=
  match attempt.finishedAt with
  | none => attempt.outcome.isNone && attempt.failureCode.isNone
  | some finished => attempt.outcome.isSome &&
      decide (attempt.startedAt.instant ≤ finished.instant) &&
      !(attempt.outcome == some .success && attempt.failureCode.isSome)

instance : ContractModel ToolAttemptRecord where
  validates attempt := 1 ≤ attempt.attemptNo && attempt.failureCode.all (· != "") &&
    attempt.startedAt.requireUtc && attempt.finishedAt.all (·.requireUtc) &&
    attempt.lifecycleIsConsistent

end ToolAttemptRecord

private def jsonText (value : String) : Json := .string value.toList

/-- Return the scoped `get_order` agent-visible contract. -/
def getOrderToolSpec : ToolSpec where
  name := "get_order"
  description := "查询当前已登录用户可访问的单个订单，并返回最小订单摘要。"
  inputSchema :=
    [("type", jsonText "object"), ("additionalProperties", .bool false),
      ("properties", .object
        [("order_id", .object [("type", jsonText "string"),
          ("pattern", jsonText "^O-[0-9]{4,20}$")])]),
      ("required", .array [jsonText "order_id"])]
  outputSchema :=
    [("type", jsonText "object"), ("additionalProperties", .bool false),
      ("properties", .object
        [("outcome", .object [("enum", .array
            [jsonText "FOUND", jsonText "NOT_FOUND_OR_NOT_ACCESSIBLE",
              jsonText "SYSTEM_FAILURE"])]),
          ("order_summary", .object
            [("type", .array [jsonText "object", jsonText "null"]),
              ("additionalProperties", .bool false), ("properties", .object
                [("order_number", .object [("type", jsonText "string")]),
                  ("status", .object [("enum", .array
                    [jsonText "CREATED", jsonText "PAID", jsonText "FULFILLING", jsonText "SHIPPED",
                      jsonText "DELIVERED", jsonText "CANCELLED"])]),
                  ("line_items", .object
                    [("type", jsonText "array"), ("minItems", .int 1),
                      ("items", .object
                        [("type", jsonText "object"), ("additionalProperties", .bool false),
                          ("properties", .object
                            [("product_name", .object [("type", jsonText "string"),
                              ("minLength", .int 1)]), ("quantity",
                              .object [("type", jsonText "integer"), ("minimum", .int 1)])]),
                          ("required", .array [jsonText "product_name", jsonText "quantity"])])]),
                  ("ordered_at", .object [("type", jsonText "string"),
                    ("format", jsonText "date-time")]),
                  ("status_updated_at",
                    .object [("type", jsonText "string"), ("format", jsonText "date-time")])]),
              ("required", .array
                [jsonText "order_number", jsonText "status", jsonText "line_items",
                  jsonText "ordered_at", jsonText "status_updated_at"])]),
          ("failure_code", .object [("type", .array [jsonText "string", jsonText "null"])])]),
      ("required", .array [jsonText "outcome"])]

end MiniAgent.Core
