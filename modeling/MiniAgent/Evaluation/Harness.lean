import MiniAgent.Application.Commands
import MiniAgent.Evaluation.CaseExpectations
import MiniAgent.Evaluation.ScriptedProvider
import MiniAgent.Library.Coroutine

/-! # The environment and the records of the evaluation harness

The harness asks for nonces and the time, executes a case in the system under test, appends and
reloads the Trace, lets a grader runner report and writes results and failures. Whether an object is
still in the closed state in which it was built is asked too: code outside may have kept the object
and written to it, so the answer is not a function of the value the harness sees. A copy is equal to
its original.
-/

namespace MiniAgent.Evaluation

open MiniAgent.Core MiniAgent.Application ContractModel

structure EvalCaseExecutionInput where
  executionRef : Uuid
  messageContent : String
  trustedContextFixtureRef : String
deriving DecidableEq, Repr

structure EvalCaseSutResult where
  executionRef : Uuid
  evidence : UnboundEvalEvidence
  safeObservable : UnboundSafeCaseObservable
deriving DecidableEq, Repr

instance : ContractModel EvalCaseSutResult where
  validates result := result.evidence.recordsAreValid &&
    decide (100 ≤ result.safeObservable.httpStatus) &&
    decide (result.safeObservable.httpStatus ≤ 599) &&
      result.safeObservable.ordinaryTraceShape.all validates

/-- An object whose state is checked. -/
inductive CheckedObject
  | uuid (value : Uuid)
  | unboundResult (result : EvalCaseSutResult)
  | evidence (evidence : EvalEvidence)
  | expectations (expectations : EvalCaseExpectations)
  | observable (observable : SafeCaseObservable)
  | gradingOutcome (outcome : GradingOutcome)
  | traceEvent (event : TraceEvent)
  | evalResult (record : EvalResultRecord)
  | evalFailure (record : EvalExecutionFailureRecord)
deriving DecidableEq, Repr

inductive HarnessCall
  | nonceFactory
  | clock
  | executeCase (executionInput : EvalCaseExecutionInput)
      (scriptedProvider : ScriptedModelProviderV2)
      (runtimeFault : Option RuntimeFaultDirective)
  | executeQwenCase (executionInput : EvalCaseExecutionInput)
  | appendEvalCaseGraded (event : TraceEvent)
  | reloadTrace (traceRef : Uuid)
  | graderRunner (configuredNames : List Json) (evidence : EvalEvidence)
      (expectations : EvalCaseExpectations)
  | appendEvalResult (record : EvalResultRecord)
  | loadEvalResult (evalRunId : Uuid) (caseId lane : String) (attempt : ℕ)
  | appendEvalExecutionFailure (record : EvalExecutionFailureRecord)
  | singletonStateIsClosed
  | restoreSingletonState
  | isClosed (object : CheckedObject)
deriving DecidableEq, Repr

/-- What the environment answers; no value stands for an object of another type. An execution with
the scripted provider also says how many steps of the script it consumed. A check of an object's
state bounds the objects and the levels that it visits, and is taken to answer. -/
@[reducible] def HarnessAnswer : HarnessCall → Type
  | .nonceFactory => Except EvalException (Option Uuid)
  | .clock => Except EvalException (Option Datetime)
  | .executeCase .. => Except EvalException (Option EvalCaseSutResult) × ℕ
  | .executeQwenCase _ => Except EvalException (Option EvalCaseSutResult)
  | .reloadTrace _ => Except EvalException (Option (List TraceEvent))
  | .graderRunner .. => Except EvalException (Option GradingOutcome)
  | .appendEvalResult _ => Except EvalException (Option InsertOnlyWriteResult)
  | .loadEvalResult .. => Except EvalException (Option EvalResultRecord)
  | .appendEvalCaseGraded _ | .appendEvalExecutionFailure _ => Except EvalException Unit
  | .singletonStateIsClosed | .restoreSingletonState | .isClosed _ => Bool

/-- A case that has a result. -/
structure StagedCase where
  evalCase : EvalCaseArtifact
  expectations : EvalCaseExpectations
  result : EvalResultRecord
  safeObservable : SafeCaseObservable
deriving DecidableEq, Repr

structure ReplayCacheKey where
  evalRunId : Uuid
  caseId : String
  lane : String
  attempt : ℕ
  scriptRef : String
deriving DecidableEq, Repr

structure HarnessState where
  issuedNonces : List Uuid := []
  pendingCaseByExecutionRef : List (Uuid × String) := []
  retiredExecutionRefs : List Uuid := []
  persistedStageByReplayKey : List (ReplayCacheKey × StagedCase) := []

/-- What the harness is built with. The identity of a graded event is computed from the run, the
case, the lane and the attempt; a system under test for the baseline may be wired or not. -/
structure OfflineEvalHarness where
  artifacts : LoadedE2E01Artifacts
  gradedEventId : Uuid → String → String → ℕ → Uuid
  qwenSutIsWired : Bool := false

abbrev Harness : Type → Type := Coroutine HarnessAnswer HarnessState EvalException

/-- `try: ... except Exception: ...`; no value is the caught exception. -/
def caught {α : Type} (action : Harness α) : Harness (Option α) :=
  tryCatch (some <$> action) fun failure => if failure.isException then pure none else throw failure

def singletonStateIsClosed : Harness Bool := Coroutine.ask HarnessCall.singletonStateIsClosed

def restoreSingletonState : Harness Bool := Coroutine.ask HarnessCall.restoreSingletonState

def isClosed (object : CheckedObject) : Harness Bool := Coroutine.ask (HarnessCall.isClosed object)

/-- A copy of the value, if the object is closed. -/
def detached {α : Type} (object : CheckedObject) (value : α) : Harness (Option α) := do
  return if ← isClosed object then some value else none

def detachedClosedUuid (value : Uuid) : Harness (Option Uuid) := detached (.uuid value) value

/-- `_detached_closed_datetime` -/
def detachedClosedDatetime (value : Option Datetime) : Option Datetime :=
  value.filter (·.requireUtc)

/-- An optional text of a manifest: JSON `null`, or a `str`. -/
def optionalTextField : Json → Except EvalException (Option String)
  | .null => .ok none
  | value => some <$> textField value

/-- `case_versions.get(key, manifest_versions[key])`; the default is read first. -/
def versionOf (caseVersions manifestVersions : JsonObject) (key : String) :
    Except EvalException Json := do
  let default ← subscript manifestVersions key
  return (Json.lookup caseVersions key).getD default

/-- `_version_manifest` -/
def versionManifest (artifacts : LoadedE2E01Artifacts) (evalCase : Option EvalCaseArtifact)
    (lane : Option EvalLaneArtifact) : Except EvalException EvalVersionManifest := do
  let manifestVersions ← mapping (← subscript artifacts.manifest "versions")
  let caseVersions := evalCase.elim [] (·.versionManifest)
  let default ← subscript manifestVersions "fixture_version"
  let fixtureVersions ← elements
    ((Json.lookup caseVersions "fixture_versions").getD (.array [default]))
  let datasetVersion ← versionOf caseVersions manifestVersions "dataset_version"
  let promptVersion ← versionOf caseVersions manifestVersions "prompt_version"
  let toolRegistryVersion ← versionOf caseVersions manifestVersions "tool_registry_version"
  constructed {
    datasetVersion := ← textField datasetVersion
    candidateVersion := artifacts.candidateVersion
    fixtureVersions := ← fixtureVersions.mapM textField
    modelConfigVersion := lane.map (·.modelConfigVersion)
    promptVersion := ← optionalTextField promptVersion
    toolRegistryVersion := ← optionalTextField toolRegistryVersion
    runtimeVersion := artifacts.runtimeVersion }

/-- `_FAILURE_CODE_BY_PHASE` -/
def failureCodeByPhase : EvalExecutionFailurePhase → Except EvalException EvalExecutionSafeErrorCode
  | .harnessSetup => .ok .harnessSetupFailed
  | .caseSetup => .ok .caseSetupFailed
  | .systemUnderTest => .ok .systemUnderTestFailed
  | .grading => .ok .gradingFailed
  | .resultPersistence => .ok .resultPersistenceFailed
  | .resultCompleteness => .ok .resultCompletenessFailed
  | .tracePersistence => .error .keyError

/-- Where a failure happened. -/
structure FailureScope where
  evalRunId : Uuid
  lane : String
  evalCase : Option EvalCaseArtifact := none
  attempt : ℕ
  laneArtifact : Option EvalLaneArtifact

/-- The record of a failure at a time. -/
def failureRecord (harness : OfflineEvalHarness) (scope : FailureScope)
    (phase : EvalExecutionFailurePhase) (traceRef : Option Uuid)
    (safeErrorCode : Option EvalExecutionSafeErrorCode) (occurredAt : Datetime) :
    Except EvalException EvalExecutionFailureRecord := do
  let code ← safeErrorCode.elim (failureCodeByPhase phase) .ok
  constructed {
    schemaVersion := "eval_execution_failure_record.p0.v1"
    evalRunId := scope.evalRunId
    caseId := scope.evalCase.map (·.caseId)
    lane := scope.lane
    attempt := scope.evalCase.map fun _ => scope.attempt
    failurePhase := phase
    safeErrorCode := code
    diagnosticRef := none
    traceRef
    versionManifest := ← versionManifest harness.artifacts scope.evalCase scope.laneArtifact
    occurredAt }

/-- The result port took the failure, and the object it got is still the failure. -/
def writeFailure (failure : EvalExecutionFailureRecord) : Harness Bool := do
  if !(← isClosed (.evalFailure failure)) then return false
  let appended ← caught do
    Coroutine.ofExcept (← Coroutine.ask (HarnessCall.appendEvalExecutionFailure failure))
  let intact ← if appended.isSome then isClosed (.evalFailure failure) else pure false
  let singletonsClosed ← singletonStateIsClosed
  if !singletonsClosed then discard restoreSingletonState
  return intact && singletonsClosed

/-- `_append_failure` -/
def appendFailure (harness : OfflineEvalHarness) (scope : FailureScope)
    (phase : EvalExecutionFailurePhase) (traceRef : Option Uuid)
    (safeErrorCode : Option EvalExecutionSafeErrorCode := none) :
    Harness EvalExecutionFailureRecord := do
  if !(← singletonStateIsClosed) then
    if !(← restoreSingletonState) then throw .commandError
  let reading ← caught do Coroutine.ofExcept (← Coroutine.ask HarnessCall.clock)
  let some occurredAt := detachedClosedDatetime reading.join | throw .commandError
  if !(← singletonStateIsClosed) then throw .commandError
  let failure ← Coroutine.ofExcept
    (failureRecord harness scope phase traceRef safeErrorCode occurredAt)
  if !(← writeFailure failure) then throw .commandError
  return failure

/-- What the result port answered, unless it raised or the object it got is no longer the record. -/
def writeResult (record : EvalResultRecord) : Harness (Option InsertOnlyWriteResult) := do
  if !(← isClosed (.evalResult record)) then return none
  let reply ← caught do Coroutine.ofExcept (← Coroutine.ask (HarnessCall.appendEvalResult record))
  let intact ← if reply.isSome then isClosed (.evalResult record) else pure false
  let singletonsClosed ← singletonStateIsClosed
  if !singletonsClosed then discard restoreSingletonState
  return if intact && singletonsClosed then reply.join else none

/-- The stored result is the record. -/
def loadedEqual (record : EvalResultRecord) : Harness Bool := do
  let existing ← caught do
    let some evalRunId ← detachedClosedUuid record.evalRunId | throw .valueError
    Coroutine.ofExcept (← Coroutine.ask
      (HarnessCall.loadEvalResult evalRunId record.caseId record.lane record.attempt))
  let singletonsClosed ← singletonStateIsClosed
  if !singletonsClosed then discard restoreSingletonState
  if singletonsClosed && existing.join == some record then isClosed (.evalResult record)
    else return false

/-- `_append_result`: the record, or the failure that was appended in its place. -/
def appendResult (harness : OfflineEvalHarness) (record : EvalResultRecord)
    (evalCase : EvalCaseArtifact) (laneArtifact : EvalLaneArtifact) :
    Harness (Except EvalExecutionFailureRecord EvalResultRecord) := do
  let written ← writeResult record
  let acknowledged ← match written with
    | some .inserted => pure true
    | some .alreadyExists => loadedEqual record
    | none => pure false
  if acknowledged then return .ok record
  let scope : FailureScope :=
    { evalRunId := record.evalRunId, lane := record.lane, evalCase := some evalCase,
      attempt := record.attempt
      laneArtifact := some laneArtifact }
  return .error (← appendFailure harness scope .resultPersistence record.traceRef)

end MiniAgent.Evaluation
