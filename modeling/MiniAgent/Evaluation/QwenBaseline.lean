import MiniAgent.Core.OrderId
import MiniAgent.Evaluation.RunLane

/-! # The baseline lane

Every selected case is checked before the lane runs: if a required variable is missing or no system
under test is wired, each case gets a record that it was not run, and the lane does not run at all.
-/

namespace MiniAgent.Evaluation

open MiniAgent.Core MiniAgent.Application ContractModel

/-- The arguments of `run_qwen_baseline`. -/
structure QwenRequest where
  evalRunId : Uuid
  environment : List (String × String)
  attempt : ℕ := 1
  caseIds : Option (List String) := none

/-- The variable has a value that is not blank. -/
def isSet (environment : List (String × String)) (name : Json) : Bool :=
  ((text name).bind fun key => environment.lookup key).any fun value =>
    !(strip value.toList).isEmpty

/-- The variable has a value that is neither empty nor padded. -/
def isPlain (environment : List (String × String)) (name : String) : Bool :=
  (environment.lookup name).any fun value => value != "" && value.toList == strip value.toList

/-- The lane, the selected cases and the required variables, if the request is valid. -/
def qwenSelection (harness : OfflineEvalHarness) (request : QwenRequest) :
    Except EvalException (EvalLaneArtifact × List String) := do
  let laneArtifact ← harness.artifacts.laneByName "qwen_baseline"
  let selectedIds := request.caseIds.getD laneArtifact.caseRefs
  let requiredEnv ← elementsAt laneArtifact.credentialPolicy "required_env"
  Except.require (decide (1 ≤ request.attempt) && !selectedIds.isEmpty && allDistinct selectedIds &&
    selectedIds.all (· != "") && selectedIds.all (· ∈ laneArtifact.caseRefs) &&
    (pairIds.all (· ∈ selectedIds) || pairIds.all (· ∉ selectedIds)) &&
    requiredEnv.all (nonemptyText · |>.isSome) &&
    request.environment.all fun variable_ => decide (ofText variable_.1 ∈ requiredEnv)) .valueError
  return (laneArtifact, selectedIds)

/-- `_version_manifest` of a case that was not run. -/
def notRunVersionManifest (artifacts : LoadedE2E01Artifacts) (evalCase : EvalCaseArtifact)
    (lane : EvalLaneArtifact) :
    Except EvalException EvalVersionManifest := do
  let datasetVersion ← subscript evalCase.versionManifest "dataset_version"
  let fixtureVersions ← elements (← subscript evalCase.versionManifest "fixture_versions")
  constructed {
    datasetVersion := ← textField datasetVersion
    candidateVersion := artifacts.candidateVersion
    fixtureVersions := ← fixtureVersions.mapM textField
    modelConfigVersion := some lane.modelConfigVersion
    promptVersion :=
      ← optionalTextField ((Json.lookup evalCase.versionManifest "prompt_version").getD .null)
    toolRegistryVersion := ←
      optionalTextField ((Json.lookup evalCase.versionManifest "tool_registry_version").getD .null)
    runtimeVersion := artifacts.runtimeVersion }

/-- `build_qwen_baseline_preflight`: the record of a case that is not run, with the reason; nothing
if it is ready. -/
def buildQwenBaselinePreflight (harness : OfflineEvalHarness) (request : QwenRequest)
    (caseId : String) (completedAt : Option Datetime) :
    Except EvalException (Option (EvalResultRecord × String)) := do
  let lane ← harness.artifacts.laneByName "qwen_baseline"
  Except.require (decide (caseId ∈ lane.caseRefs) && decide (1 ≤ request.attempt))
    (.artifactContract "Qwen preflight Case identity is invalid")
  let requiredEnv ← elementsAt lane.credentialPolicy "required_env"
  let missingEnv := !requiredEnv.all (isSet request.environment)
  if !missingEnv && harness.qwenSutIsWired then return none
  let reason := if missingEnv then "MISSING_REQUIRED_ENV" else "REAL_EVAL_CASE_SUT_NOT_WIRED"
  let evalCase ← harness.artifacts.caseById caseId
  let versionManifest ← notRunVersionManifest harness.artifacts evalCase lane
  let some completedAt := completedAt | throw .validationError
  let record ← constructed {
    schemaVersion := "eval_result_record.p0.v1"
    evalRunId := request.evalRunId
    caseId
    lane := "qwen_baseline"
    attempt := request.attempt
    status := .notRun
    graderResults := []
    criticalFailures := []
    versionManifest
    completedAt }
  return some (record, reason)

/-- `append_qwen_not_run_record` -/
def appendQwenNotRunRecord (record : EvalResultRecord) : Harness EvalResultRecord := do
  if record.lane != "qwen_baseline" || record.status != .notRun then throw .commandError
  let reply ← caught do Coroutine.ofExcept (← Coroutine.ask (HarnessCall.appendEvalResult record))
  match reply.join with
  | some .inserted => return record
  | some .alreadyExists =>
    let existing ← caught do
      Coroutine.ofExcept (← Coroutine.ask
        (HarnessCall.loadEvalResult record.evalRunId record.caseId record.lane record.attempt))
    if existing.join = some record then return record else throw .commandError
  | none => throw .commandError

/-- The checks on one selected case, at the time the clock shows. -/
def qwenPreflight (harness : OfflineEvalHarness) (request : QwenRequest) (caseId : String) :
    Harness (Option (EvalResultRecord × String)) := do
  let completedAt ← Coroutine.ofExcept (← Coroutine.ask HarnessCall.clock)
  Coroutine.ofExcept (buildQwenBaselinePreflight harness request caseId completedAt)

/-- `_run_qwen_baseline_impl` -/
def runQwenBaselineImpl (harness : OfflineEvalHarness) (request : QwenRequest) :
    Harness EvalLaneRunOutcome := do
  let some evalRunId ← detachedClosedUuid request.evalRunId | throw .commandError
  let .ok (_, selectedIds) := qwenSelection harness request | throw .commandError
  let preflights ← selectedIds.mapM (qwenPreflight harness request)
  if preflights.all (·.isNone) then
    if !(harness.qwenSutIsWired && isPlain request.environment "DASHSCOPE_API_KEY" &&
        isPlain request.environment "DASHSCOPE_BASE_URL") then throw .commandError
    runLaneImpl harness
      { evalRunId, lane := "qwen_baseline", attempt := request.attempt,
        caseIds := some selectedIds } true
  else
    let notRun := preflights.filterMap id
    if preflights.any (·.isNone) || !(notRun.all fun entry => notRun.all (·.2 == entry.2)) then
      throw .commandError
    let results ← notRun.mapM fun entry => appendQwenNotRunRecord entry.1
    Coroutine.ofExcept
      (constructed { lane := "qwen_baseline", results, executionFailures := [],
                     commandPassed := false })

/-- `run_qwen_baseline` -/
def runQwenBaseline (harness : OfflineEvalHarness) (request : QwenRequest) :
    Harness EvalLaneRunOutcome := do
  if !(← singletonStateIsClosed) then
    discard restoreSingletonState
    throw .commandError
  let outcome ← tryCatch (Except.ok <$> runQwenBaselineImpl harness request) fun failure =>
    pure (.error failure)
  let closed ← singletonStateIsClosed
  let restored ← restoreSingletonState
  match outcome with
  | .error failure => throw (if failure.isException then .commandError else failure)
  | .ok outcome => if closed && restored then return outcome else throw .commandError

end MiniAgent.Evaluation
