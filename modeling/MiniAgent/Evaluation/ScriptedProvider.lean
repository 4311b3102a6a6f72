import MiniAgent.Evaluation.Artifacts
import MiniAgent.Library.Outcome
import Mathlib.Algebra.Group.Nat.Defs

/-! # The scripted model provider

The provider projects the steps of a model script when it is built and consumes them one by one. Of
an execution the harness asks only for the runtime fault before it and for the exhausted script
after it.
-/

namespace MiniAgent.Evaluation

open MiniAgent.Core

structure RuntimeFaultDirective where
  behavior : String
  boundary : String
deriving DecidableEq, Repr

inductive ExecutableStep
  | orderLookup (behavior messageOrderNumber nextMoveOrderNumber : String)
  | requestProtocolFault (behavior : String)
  | invalidRequestSchema
  | sourceAuthorityMismatch (messageOrderNumber : String)
  | trustedFieldOverride (messageOrderNumber attemptedCustomerId : String)
  | unknownTool (messageOrderNumber requestedToolName : String)
  | validPresentation
  | presentationFault (behavior : String)
deriving DecidableEq, Repr

def requiredString (step : JsonObject) (key default : String) : Except EvalException String :=
  (nonemptyText ((Json.lookup step key).getD (ofText default))).elim
    (.error (.artifactContract "script executable field is invalid")) .ok

def projectRequestStep (step : JsonObject) (behavior : String) :
    Except EvalException ExecutableStep := do
  let messageOrderNumber := requiredString step "message_order_number" "O-1001"
  if behavior ∈ ["VALID_ORDER_LOOKUP", "INJECT_NEXT_MOVE_ARGUMENT_SUBSTITUTION"] then
    let message ← messageOrderNumber
    return .orderLookup behavior message (← requiredString step "next_move_order_number" message)
  else if behavior ∈ ["INJECT_ZERO_TARGET_FUNCTION_CALLS", "INJECT_MULTIPLE_TARGET_FUNCTION_CALLS"]
      then
    return .requestProtocolFault behavior
  else if behavior = "INJECT_INVALID_REQUEST_UNDERSTANDING_SCHEMA" then return .invalidRequestSchema
  else if behavior = "INJECT_SOURCE_AUTHORITY_MISMATCH" then
    return .sourceAuthorityMismatch (← messageOrderNumber)
  else if behavior = "INJECT_TRUSTED_FIELD_OVERRIDE" then
    return .trustedFieldOverride (← messageOrderNumber)
      (← requiredString step "attempted_customer_id" "customer-B")
  else if behavior = "INJECT_UNKNOWN_TOOL_NAME" then
    return .unknownTool (← messageOrderNumber)
      (← requiredString step "requested_tool_name" "get_any_order")
  else throw (.artifactContract "unknown scripted Request Understanding behavior")

def projectStep (step : JsonObject) : Except EvalException ExecutableStep := do
  let purpose := Json.lookup step "purpose"
  let some behavior := (Json.lookup step "behavior").bind nonemptyText
    | throw (.artifactContract "script behavior is invalid")
  if purpose = some (ofText "REQUEST_UNDERSTANDING") then projectRequestStep step behavior
  else if purpose = some (ofText "PRESENTATION") then
    if behavior = "VALID_ORDER_SUMMARY_PLAN" then return .validPresentation
    else if behavior ∈ ["INJECT_ZERO_TARGET_FUNCTION_CALLS",
      "INJECT_MULTIPLE_TARGET_FUNCTION_CALLS", "INJECT_INVALID_PRESENTATION_SCHEMA",
      "INJECT_FACT_BEARING_PRESENTATION_ENVELOPE"] then
      return .presentationFault behavior
    else throw (.artifactContract "unknown scripted Presentation behavior")
  else throw (.artifactContract "unknown scripted model-call purpose")

/-- A provider that has not served a call yet. -/
structure ScriptedModelProviderV2 where
  scriptExecutionRef : Uuid
  steps : List ExecutableStep
  runtimeFault : Option RuntimeFaultDirective
deriving DecidableEq, Repr

/-- `value.version == 4`: the RFC 4122 variant with version 4. -/
def isUuidVersion4 (value : Uuid) : Bool := value / 2 ^ 62 % 4 == 2 && value / 2 ^ 76 % 16 == 4

/-- `ScriptedModelProviderV2(script, script_execution_ref=...)` -/
def scriptedModelProvider (script : ModelScriptArtifact) (scriptExecutionRef : Uuid) :
    Except EvalException ScriptedModelProviderV2 := do
  Except.require (isUuidVersion4 scriptExecutionRef)
    (.artifactContract "script execution identity must be an opaque UUID4")
  let steps ← script.steps.mapM projectStep
  let fault : RuntimeFaultDirective :=
    { behavior := "ADVANCE_TASK_STATE_AFTER_REVALIDATION_BEFORE_GATE",
      boundary := "AFTER_REVALIDATION_BEFORE_GATE" }
  match script.runtimeFault with
  | none => return { scriptExecutionRef, steps, runtimeFault := none }
  | some runtimeFault =>
    if Json.lookup runtimeFault "behavior" = some (ofText fault.behavior) ∧
        Json.lookup runtimeFault "boundary" = some (ofText fault.boundary) then
      return { scriptExecutionRef, steps, runtimeFault := some fault }
    throw (.artifactContract "unknown scripted Runtime fault")

/-- `assert_exhausted`, of a provider that served as many steps as the cursor says. -/
def ScriptedModelProviderV2.isExhausted (provider : ScriptedModelProviderV2) (cursor : ℕ) : Bool :=
  cursor == provider.steps.length

end MiniAgent.Evaluation
