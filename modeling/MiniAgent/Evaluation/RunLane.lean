import MiniAgent.Evaluation.StageCase

/-! # Running a lane

The selected cases are staged in order, a case that was persisted before from the replay cache. Then
the pair rule looks at the two cases about orders that the customer may not see: one without the
other is a failure, and two that can be told apart fail both. What is left is persisted in selection
order.
-/

namespace MiniAgent.Evaluation

open MiniAgent.Core MiniAgent.Application ContractModel

/-- The arguments of `run_lane`. -/
structure LaneRequest where
  evalRunId : Uuid
  lane : String := "offline_gate"
  attempt : ℕ := 1
  caseIds : Option (List String) := none
  scriptRefByCase : List (String × String) := []

structure EvalLaneRunOutcome where
  lane : String
  results : List EvalResultRecord
  executionFailures : List EvalExecutionFailureRecord
  commandPassed : Bool
deriving DecidableEq, Repr

instance : ContractModel EvalLaneRunOutcome where
  validates outcome := outcome.results.all validates && outcome.executionFailures.all validates &&
    !(outcome.commandPassed && (!outcome.executionFailures.isEmpty || outcome.results.isEmpty ||
      outcome.results.any (·.status != .pass)))

def pairIds : List String := ["E2E01-04-A", "E2E01-04-B"]

/-- `_EXECUTABLE_CASE_LIFECYCLE_STATUSES` -/
def executableCaseLifecycleStatuses : List String := ["EXECUTABLE", "REGRESSION_GATE"]

/-- One run of a lane, after its lane artifact was found. -/
structure LaneRun where
  harness : OfflineEvalHarness
  evalRunId : Uuid
  laneArtifact : EvalLaneArtifact
  attempt : ℕ
  scriptRefByCase : List (String × String)
  qwenExecution : Bool

namespace LaneRun

variable (run : LaneRun)

/-- Append a failure of a case of the lane, or of the lane itself. -/
def appendFailure (evalCase : Option EvalCaseArtifact) (phase : EvalExecutionFailurePhase)
    (traceRef : Option Uuid) :
    Harness EvalExecutionFailureRecord := do
  let scope : FailureScope :=
    { evalRunId := run.evalRunId, lane := run.laneArtifact.lane, evalCase, attempt := run.attempt
      laneArtifact := some run.laneArtifact }
  Evaluation.appendFailure run.harness scope phase traceRef

def caseRun (evalCase : EvalCaseArtifact) : CaseRun :=
  { harness := run.harness, evalRunId := run.evalRunId, laneArtifact := run.laneArtifact,
    attempt := run.attempt
    evalCase, qwenExecution := run.qwenExecution }

/-- The replay key of a case, if its script is selected. -/
def replayKey (evalCase : EvalCaseArtifact) (caseId : String) : Option ReplayCacheKey :=
  (normalizedSelectedScriptRef evalCase (run.scriptRefByCase.lookup caseId)).toOption.map
      fun scriptRef =>
    { evalRunId := run.evalRunId, caseId, lane := run.laneArtifact.lane, attempt := run.attempt,
      scriptRef }

end LaneRun

/-- The cases that are staged and the failures so far. -/
structure Staging where
  staged : List (String × StagedCase) := []
  replayKeys : List (String × ReplayCacheKey) := []
  failures : List EvalExecutionFailureRecord := []

/-- The stage of the case from the replay cache, or a new one. -/
def stageOrReplay (run : LaneRun) (caseId : String) (evalCase : EvalCaseArtifact) :
    Harness Staged := do
  let cache := (← Coroutine.read).persistedStageByReplayKey
  match (run.replayKey evalCase caseId).bind fun key => cache.lookup key with
  | some stage => return .ok stage
  | none => stageCase (run.caseRun evalCase) (run.scriptRefByCase.lookup caseId)

/-- One more case: it is staged, or its failure is kept. -/
def Staging.add (staging : Staging) (caseId : String) (replayKey : Option ReplayCacheKey) :
    Staged → Staging
  | .ok stage => { staging with
      staged := staging.staged ++ [(caseId, stage)]
      replayKeys := staging.replayKeys ++ (replayKey.map (caseId, ·)).toList }
  | .error failure => { staging with
      replayKeys := staging.replayKeys ++ (replayKey.map (caseId, ·)).toList
      failures := staging.failures ++ [failure] }

def stageSelected (run : LaneRun) : List String → Staging → Harness Staging
  | [], staging => return staging
  | caseId :: rest, staging => do
    let evalCase ← Coroutine.ofExcept (run.harness.artifacts.caseById caseId)
    let stage ← stageOrReplay run caseId evalCase
    stageSelected run rest (staging.add caseId (run.replayKey evalCase caseId) stage)

/-- `_force_disclosure_failure` -/
def forceDisclosureFailure (record : EvalResultRecord) (expectations : EvalCaseExpectations) :
    Except EvalException EvalResultRecord := do
  let replacement : EvalGraderResult :=
    { graderName := "DisclosureGrader", status := .fail, reasonCode := some .assertionFailed }
  let graderResults := record.graderResults.map fun result =>
    if result.graderName = "DisclosureGrader" then replacement else result
  Except.require (record.graderResults.any (·.graderName == "DisclosureGrader"))
    (.gradingConfiguration "E2E01-04 requires DisclosureGrader")
  let derived ← deriveGradingOutcome graderResults expectations
  constructed { record with
    status := derived.status
    graderResults := derived.graderResults
    criticalFailures := derived.criticalFailures }

/-- The staged case with its result forced to fail. -/
def StagedCase.forced (stage : StagedCase) : Except EvalException StagedCase := do
  return { stage with result := ← forceDisclosureFailure stage.result stage.expectations }

/-- A member of the pair that is staged alone becomes a failure. -/
def dropAlone (run : LaneRun) (staging : Staging) : Harness Staging := do
  match staging.staged.find? (·.1 ∈ pairIds) with
  | none => return staging
  | some (caseId, stage) =>
    let failure ← run.appendFailure stage.evalCase .resultCompleteness stage.result.traceRef
    return { staging with
      staged := staging.staged.filter (·.1 != caseId), failures := staging.failures ++ [failure] }

/-- Both results of a pair that can be told apart fail. -/
def failDistinguishable (staging : Staging) : Except EvalException Staging := do
  let pair := pairIds.filterMap fun caseId => (staging.staged.lookup caseId).map fun stage =>
    (caseId, stage.safeObservable)
  if safeObservablesMatch pair then return staging
  let staged ← staging.staged.mapM fun (caseId, stage) => do
    if caseId ∈ pairIds then return (caseId, ← stage.forced) else return (caseId, stage)
  return { staging with staged }

/-- What the pair rule makes of the staged cases when the pair is selected. -/
def applyPairRule (run : LaneRun) (selectedIds : List String) (staging : Staging) :
    Harness Staging :=
  if pairIds.all (· ∈ selectedIds) then
    if pairIds.all (· ∈ staging.staged.map (·.1)) then
      Coroutine.ofExcept (failDistinguishable staging)
    else dropAlone run staging
  else return staging

/-- The results and the failures of a lane. -/
structure LaneRecords where
  results : List EvalResultRecord := []
  failures : List EvalExecutionFailureRecord

/-- The copies of what was persisted for the caller and for the replay cache can be made. -/
def copiesAreClosed (record : EvalResultRecord) (stage : StagedCase) : Harness Bool := do
  let publicRecord ← isClosed (.evalResult record)
  let cacheRecord ← isClosed (.evalResult record)
  let cacheExpectations ← isClosed (.expectations stage.expectations)
  let cacheObservable ← isClosed (.observable stage.safeObservable)
  return publicRecord && cacheRecord && cacheExpectations && cacheObservable

/-- Persist one staged case: its result, or the failure in its place. -/
def persistCase (run : LaneRun) (replayKey : Option ReplayCacheKey) (stage : StagedCase) :
    Harness (Except EvalExecutionFailureRecord EvalResultRecord) := do
  match ← appendResult run.harness stage.result stage.evalCase run.laneArtifact with
  | .error failure => return .error failure
  | .ok record =>
    if ← copiesAreClosed record stage then
      if let some key := replayKey then
        Coroutine.modify fun state => { state with
          persistedStageByReplayKey :=
            (key, { stage with result := record }) :: state.persistedStageByReplayKey }
      return .ok record
    else
      return .error (← run.appendFailure stage.evalCase .resultPersistence record.traceRef)

def LaneRecords.add (records : LaneRecords) : Except EvalExecutionFailureRecord EvalResultRecord →
    LaneRecords
  | .ok result => { records with results := records.results ++ [result] }
  | .error failure => { records with failures := records.failures ++ [failure] }

def persistSelected (run : LaneRun) (staging : Staging) :
    List String → LaneRecords → Harness LaneRecords
  | [], records => return records
  | caseId :: rest, records => do
    match staging.staged.lookup caseId with
    | none => persistSelected run staging rest records
    | some stage =>
      let persisted ← persistCase run (staging.replayKeys.lookup caseId) stage
      persistSelected run staging rest (records.add persisted)

/-- The failure of a lane as a whole. -/
def setupFailed (harness : OfflineEvalHarness) (request : LaneRequest) (lane : String)
    (laneArtifact : Option EvalLaneArtifact) : Harness EvalLaneRunOutcome := do
  let scope : FailureScope :=
    { evalRunId := request.evalRunId, lane, attempt := request.attempt, laneArtifact }
  let failure ← appendFailure harness scope .harnessSetup none
  Coroutine.ofExcept
    (constructed { lane, results := [], executionFailures := [failure], commandPassed := false })

/-- The lane's failures alone, one for each of the cases. -/
def casesFailed (run : LaneRun) (lane : String) (phase : EvalExecutionFailurePhase)
    (cases : List EvalCaseArtifact) :
    Harness EvalLaneRunOutcome := do
  let executionFailures ← cases.mapM fun evalCase => run.appendFailure (some evalCase) phase none
  Coroutine.ofExcept
    (constructed { lane, results := [], executionFailures, commandPassed := false })

/-- The selection names distinct cases of the lane, and scripts for selected cases only. -/
def selectionIsValid (laneArtifact : EvalLaneArtifact) (selectedIds : List String)
    (scriptRefByCase : List (String × String)) : Bool :=
  !selectedIds.isEmpty && selectedIds.all (· != "") && allDistinct selectedIds &&
    selectedIds.all (· ∈ laneArtifact.caseRefs) && scriptRefByCase.all (·.1 ∈ selectedIds)

/-- What becomes of the cases that were staged: the pair rule, and their persistence. -/
def settleSelected (run : LaneRun) (lane : String) (selectedIds : List String) (staging : Staging) :
    Harness EvalLaneRunOutcome := do
  let settled ← applyPairRule run selectedIds staging
  let records ← persistSelected run settled selectedIds { failures := settled.failures }
  Coroutine.ofExcept (constructed {
    lane
    results := records.results
    executionFailures := records.failures
    commandPassed := records.failures.isEmpty && records.results.length == selectedIds.length &&
      records.results.all (·.status == .pass) })

/-- The lane of a valid selection: stage, apply the pair rule, persist. -/
def runSelected (run : LaneRun) (lane : String) (selectedIds : List String) :
    Harness EvalLaneRunOutcome := do
  let staging ← stageSelected run selectedIds {}
  settleSelected run lane selectedIds staging

/-- `_run_lane_impl` -/
def runLaneImpl (harness : OfflineEvalHarness) (request : LaneRequest) (qwenExecution : Bool) :
    Harness EvalLaneRunOutcome := do
  let some evalRunId ← detachedClosedUuid request.evalRunId | throw .commandError
  let safeLane := if request.lane = "" then "INVALID_LANE" else request.lane
  if request.lane != (if qwenExecution then "qwen_baseline" else "offline_gate") ||
      request.attempt < 1 then
    return ← setupFailed harness request safeLane none
  let .ok laneArtifact := harness.artifacts.laneByName request.lane
    | setupFailed harness request safeLane none
  let selectedIds := request.caseIds.getD laneArtifact.caseRefs
  if !(selectionIsValid laneArtifact selectedIds request.scriptRefByCase) then
    return ← setupFailed harness request request.lane (some laneArtifact)
  let run : LaneRun :=
    { harness, evalRunId, laneArtifact, attempt := request.attempt,
      scriptRefByCase := request.scriptRefByCase
      qwenExecution }
  let cases ← Coroutine.ofExcept (selectedIds.mapM harness.artifacts.caseById)
  let nonexecutable := cases.filter (·.lifecycleStatus ∉ executableCaseLifecycleStatuses)
  if !nonexecutable.isEmpty then return ← casesFailed run request.lane .caseSetup nonexecutable
  if pairIds.any (· ∈ selectedIds) && !(pairIds.all (· ∈ selectedIds)) then
    return ← casesFailed run request.lane .resultCompleteness (cases.filter (·.caseId ∈ pairIds))
  runSelected run request.lane selectedIds

/-- `run_lane` -/
def runLane (harness : OfflineEvalHarness) (request : LaneRequest) :
    Harness EvalLaneRunOutcome := do
  if !(← singletonStateIsClosed) then
    discard restoreSingletonState
    throw .commandError
  let outcome ← tryCatch (some <$> runLaneImpl harness request false) fun failure => do
    discard restoreSingletonState
    throw failure
  let closed ← singletonStateIsClosed
  let restored ← restoreSingletonState
  match outcome with
  | some outcome => if closed && restored then return outcome else throw .commandError
  | none => throw .commandError

end MiniAgent.Evaluation
