import MiniAgent.Core.Identity
import MiniAgent.Core.Memory
import MiniAgent.Core.NextMove

/-! # Pure fail-closed Control Gateway decisions -/

namespace MiniAgent.Core

open ContractModel

/-- The canonical name of the only binding of a provider-visible name, with its only
registration. -/
def resolveRegistration (snapshot : RegistrySnapshot) (requestedProviderName : String) :
    Option String × Option ToolRegistration :=
  match snapshot.providerNameToCanonicalName.filter (·.providerVisibleName == requestedProviderName)
      with
  | [binding] =>
    match snapshot.canonicalRegistrations.filter (·.toolSpec.name == binding.canonicalToolName) with
    | [registration] => (some binding.canonicalToolName, some registration)
    | _ => (some binding.canonicalToolName, none)
  | _ => (none, none)

def registrationMatchesVisibleSpec (registration : Option ToolRegistration)
    (providerVisibleSpec : Option ToolSpec) : Bool :=
  match registration, providerVisibleSpec with
  | some registration, some visible =>
    visible.sameAs { registration.toolSpec with name := registration.providerVisibleName }
  | _, _ => false

def closedGetOrderSchemaIsValid (arguments : List (String × Json))
    (normalizedCandidateOrderId : Option Text) (registration : Option ToolRegistration)
    (providerVisibleSpec : Option ToolSpec) : Bool :=
  (registration.any fun registration => registration.toolSpec.sameAs getOrderToolSpec) &&
  registrationMatchesVisibleSpec registration providerVisibleSpec && namesOnlyOrderId arguments &&
  match Json.lookup arguments "order_id" with
  | some (.string rawOrderId) =>
    let stripped := strip rawOrderId
    let normalizedRawOrderId :=
      if (stripped.take 2).flatMap casefoldChar = ['o', '-'] then 'O' :: '-' :: stripped.drop 2
        else stripped
    isOrderId normalizedRawOrderId && some normalizedRawOrderId == normalizedCandidateOrderId
  | _ => false

def resolveProviderVisibleSpec (snapshot : RegistrySnapshot) (requestedProviderName : String) :
    Option ToolSpec :=
  match snapshot.providerVisibleToolset.filter (·.name == requestedProviderName) with
  | [spec] => some spec
  | _ => none

/-- Return only the registration whose actual visible projection was gated. -/
def resolveValidatedGetOrderRegistration (registrySnapshot : RegistrySnapshot)
    (requestedProviderName : String) : Option ToolRegistration :=
  let (resolvedName, registration) := resolveRegistration registrySnapshot requestedProviderName
  let visibleSpec := resolveProviderVisibleSpec registrySnapshot requestedProviderName
  registration.filter fun found => resolvedName == some "get_order" &&
    requestedProviderName == "get_order" &&
    found.providerVisibleName == requestedProviderName && found.toolSpec.sameAs getOrderToolSpec &&
    registrationMatchesVisibleSpec registration visibleSpec

/-- What one evaluation of the gateway reads. -/
structure GatewayInput where
  revalidatedMove : RevalidatedNextMove
  customerContext : CustomerContext
  currentTask : TaskRecord
  currentRequestUnit : RequestUnitRecord
  currentInputBinding : InputBinding
  registrySnapshot : RegistrySnapshot
  contextManifest : ContextManifest
  gateDecisionId : Uuid
  modelCallId : Uuid
  providerToolCallId : Option String
  decidedAt : Datetime
  toolCallsUsed : ℤ
  maxToolCalls : ℤ
  progressValid : Bool

namespace GatewayInput

variable (input : GatewayInput)

def snapshotMatch : Bool :=
  input.contextManifest.toolRegistryVersion == input.registrySnapshot.toolRegistryVersion &&
    input.contextManifest.modelVisibleToolsetHash == input.registrySnapshot.modelVisibleToolsetHash

def resolved : Option String × Option ToolRegistration :=
  resolveRegistration input.registrySnapshot input.revalidatedMove.requestedProviderToolName

def providerVisibleSpec : Option ToolSpec :=
  resolveProviderVisibleSpec input.registrySnapshot input.revalidatedMove.requestedProviderToolName

def registrationValid : Bool :=
  input.resolved.1 == some "get_order" &&
    input.revalidatedMove.requestedProviderToolName == "get_order" &&
    (input.resolved.2.any fun registration => registration.providerVisibleName == "get_order") &&
    input.providerVisibleSpec.isSome

def trustedFieldValid : Bool :=
  (findTrustedArgumentField (.object input.revalidatedMove.candidateArguments)).isNone

def schemaValid : Bool :=
  closedGetOrderSchemaIsValid input.revalidatedMove.candidateArguments
    input.revalidatedMove.normalizedCandidateOrderId input.resolved.2 input.providerVisibleSpec

def graphBindingValid : Bool :=
  let binding := input.currentInputBinding
  let move := input.revalidatedMove
  binding.name == "order_id" &&
    input.currentRequestUnit.inputBindingRefs.contains binding.bindingId &&
    input.currentRequestUnit.inputBindingRefs == [binding.bindingId] &&
    move.argumentBindingRefs == [binding.bindingId] && move.bindingName == binding.name &&
    move.bindingNormalizedValue == binding.normalizedValue

def argumentBindingValid : Bool :=
  input.graphBindingValid &&
    input.revalidatedMove.normalizedCandidateOrderId ==
      some input.currentInputBinding.normalizedValue

def budgetValid : Bool :=
  input.maxToolCalls == 1 && decide (0 ≤ input.toolCallsUsed) &&
    decide (input.toolCallsUsed < input.maxToolCalls)

def stateVersionValid : Bool :=
  let move := input.revalidatedMove
  input.currentTask.ownerCustomerId == input.customerContext.customerId &&
    input.currentTask.taskId == move.taskId &&
      input.currentRequestUnit.taskId == input.currentTask.taskId &&
    input.currentRequestUnit.requestUnitId == move.requestUnitId &&
      input.currentTask.status == .active &&
    input.currentRequestUnit.status == .active &&
    input.currentTask.stateVersion == input.currentRequestUnit.stateVersion &&
    input.currentTask.stateVersion == move.validatedTaskStateVersion &&
    move.proposedBaseTaskStateVersion.isNone &&
      input.contextManifest.taskStateRefAndVersion.isNone &&
    input.contextManifest.runId == move.runId &&
      input.contextManifest.modelCallId == input.modelCallId

def actionBoundaryValid : Bool := input.resolved.2.any (·.effect == .read)

def checks : List Bool :=
  [input.snapshotMatch, input.registrationValid, input.schemaValid, input.trustedFieldValid,
    input.argumentBindingValid, input.budgetValid, input.progressValid, input.stateVersionValid,
    input.actionBoundaryValid]

/-- The reason of the first failed check, in the order of their priority. -/
def reasonCode : Option GateReasonCode :=
  if !input.argumentBindingValid then some .argumentBindingMismatch
  else if !input.snapshotMatch then some .snapshotMismatch
  else if !input.registrationValid then some .toolNotRegistered
  else if !input.trustedFieldValid then some .trustedFieldInjection
  else if !input.schemaValid then some .schemaInvalid
  else if !input.budgetValid then some .budgetExceeded
  else if !input.progressValid then some .noProgress
  else if !input.stateVersionValid then some .stateVersionMismatch
  else if !input.actionBoundaryValid then some .actionRequiresProposal
  else none

/-- The fields of the audit decision. -/
def decisionFields : GateDecision where
  gateDecisionId := input.gateDecisionId
  modelCallId := input.modelCallId
  contextManifestId := input.contextManifest.contextManifestId
  providerToolCallId := input.providerToolCallId
  requestedProviderToolName := input.revalidatedMove.requestedProviderToolName
  resolvedCanonicalToolName := input.resolved.1
  snapshotMatch := input.snapshotMatch
  registrationValid := input.registrationValid
  schemaValid := input.schemaValid
  trustedFieldValid := input.trustedFieldValid
  argumentBindingValid := input.argumentBindingValid
  argumentBindingRefs := input.revalidatedMove.argumentBindingRefs
  budgetValid := input.budgetValid
  progressValid := input.progressValid
  proposedBaseTaskStateVersion := input.revalidatedMove.proposedBaseTaskStateVersion
  validatedTaskStateVersion := some input.revalidatedMove.validatedTaskStateVersion
  stateVersionValid := input.stateVersionValid
  actionBoundaryValid := input.actionBoundaryValid
  decision := if input.checks.all id then .accept else .reject
  reasonCode := input.reasonCode
  decidedAt := input.decidedAt

end GatewayInput

/-- Revalidate every deterministic boundary and return an audit decision; `none` is the
`ValidationError` of the decision. -/
def evaluateControlGateway (input : GatewayInput) : Option GateDecision :=
  construct input.decisionFields

end MiniAgent.Core
