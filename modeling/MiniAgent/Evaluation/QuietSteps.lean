import MiniAgent.Evaluation.QwenBaseline
import MiniAgent.Library.Steps

/-! # The quiet steps of the harness

The steps that neither issue an identity, nor execute a case, nor ask the grader runner leave the
state of the harness as it is.
-/

namespace MiniAgent.Evaluation

open MiniAgent.Core MiniAgent.Application ContractModel Coroutine

/-- A call that is about no execution of a case. -/
def HarnessCall.IsQuiet : HarnessCall → Prop
  | .nonceFactory | .executeCase .. | .executeQwenCase _ | .graderRunner .. => False
  | _ => True

/-- A call that looks at the state of objects or appends a failure. -/
def HarnessCall.IsPlain : HarnessCall → Prop
  | .isClosed _ | .singletonStateIsClosed | .restoreSingletonState | .clock
      | .appendEvalExecutionFailure _ => True
  | _ => False

/-- A plain call, or one that is about persisting the record. -/
def HarnessCall.Persists (record : EvalResultRecord) : HarnessCall → Prop
  | .appendEvalResult other => other = record
  | .loadEvalResult .. => True
  | call => call.IsPlain

theorem HarnessCall.IsPlain.quiet (call : HarnessCall) (plain : call.IsPlain) : call.IsQuiet := by
  cases call <;> trivial

theorem HarnessCall.IsPlain.persists {record : EvalResultRecord} (call : HarnessCall)
    (plain : call.IsPlain) :
    call.Persists record := by
  cases call <;> trivial

theorem HarnessCall.Persists.quiet {record : EvalResultRecord} (call : HarnessCall)
    (persists : call.Persists record) :
    call.IsQuiet := by
  cases call <;> trivial

/-- The coroutine makes quiet calls only and leaves the state as it is. -/
abbrev Quiet {α : Type} (action : Harness α) : Prop := action.Within HarnessCall.IsQuiet

/-- The coroutine makes plain calls only and leaves the state as it is. -/
abbrev Plain {α : Type} (action : Harness α) : Prop := action.Within HarnessCall.IsPlain

variable {α : Type}

theorem within_caught {kind : HarnessCall → Prop} {action : Harness α}
    (within : action.Within kind) :
    (caught action).Within kind := by
  refine (within.map some).tryCatch fun failure => ?_
  split
  · exact within_pure none
  · exact within_throw failure

private theorem within_reply {kind : HarnessCall → Prop} (call : HarnessCall) (within : kind call)
    (reply : HarnessAnswer call → Except EvalException α) :
    ((Coroutine.ask call : Harness (HarnessAnswer call)) >>= fun answer =>
      Coroutine.ofExcept (reply answer)).Within
      kind := (within_ask within).bind fun _ => within_ofExcept _

private theorem plain_isClosed (object : CheckedObject) : Plain (isClosed object) :=
  within_ask trivial

private theorem plain_singletonStateIsClosed : Plain singletonStateIsClosed := within_ask trivial

private theorem plain_restoreSingletonState : Plain restoreSingletonState := within_ask trivial

theorem plain_discardRestore : Plain (discard restoreSingletonState) :=
  plain_restoreSingletonState.bind fun _ => within_pure ()

theorem plain_detached (object : CheckedObject) (value : α) : Plain (detached object value) :=
  (plain_isClosed object).bind fun _ => within_pure _

private theorem plain_writeFailure (failure : EvalExecutionFailureRecord) :
    Plain (writeFailure failure) := by
  unfold writeFailure
  refine (plain_isClosed _).bind fun closed => ?_
  split
  · exact within_pure _
  refine (within_caught (within_reply (.appendEvalExecutionFailure failure) trivial id)).bind
    fun appended => ?_
  extract_lets answered
  have answers (intact : Bool) : Plain (answered intact) := by
    refine plain_singletonStateIsClosed.bind fun closed => ?_
    split
    · exact plain_discardRestore.bind fun _ => within_pure _
    · exact within_pure _
  split
  · exact (plain_isClosed _).bind answers
  · exact answers false

private theorem plain_appendFailure (harness : OfflineEvalHarness) (scope : FailureScope)
    (phase : EvalExecutionFailurePhase) (traceRef : Option Uuid)
    (safeErrorCode : Option EvalExecutionSafeErrorCode) :
    Plain (appendFailure harness scope phase traceRef safeErrorCode) := by
  unfold appendFailure
  refine plain_singletonStateIsClosed.bind fun closed => ?_
  extract_lets goOn
  have goesOn (unit_ : Unit) : Plain (goOn unit_) := by
    refine (within_caught (within_reply .clock trivial id)).bind fun reading => ?_
    split
    · refine plain_singletonStateIsClosed.bind fun closed => ?_
      split
      · exact within_throw _
      refine (within_ofExcept _).bind fun failure =>
        (plain_writeFailure failure).bind fun written => ?_
      split
      · exact within_throw _
      · exact within_pure _
    · exact within_throw _
  split
  · refine plain_restoreSingletonState.bind fun restored => ?_
    split
    · exact within_throw _
    · exact goesOn ()
  · exact goesOn ()

theorem plain_copiesAreClosed (record : EvalResultRecord) (stage : StagedCase) :
    Plain (copiesAreClosed record stage) :=
  (plain_isClosed _).bind fun _ => (plain_isClosed _).bind fun _ => (plain_isClosed _).bind fun _ =>
    (plain_isClosed _).bind fun _ => within_pure _

theorem plain_laneFailure (run : LaneRun) (evalCase : Option EvalCaseArtifact)
    (phase : EvalExecutionFailurePhase) (traceRef : Option Uuid) :
    Plain (run.appendFailure evalCase phase traceRef) :=
  plain_appendFailure _ _ _ _ _

section Persists

variable {record : EvalResultRecord}

private theorem within_plain {action : Harness α} (plain : Plain action) :
    action.Within (HarnessCall.Persists record) :=
  plain.mono HarnessCall.IsPlain.persists

private theorem persists_writeResult (record : EvalResultRecord) :
    (writeResult record).Within (HarnessCall.Persists record) := by
  unfold writeResult
  refine (within_plain (plain_isClosed _)).bind fun closed => ?_
  split
  · exact within_pure _
  have persists : HarnessCall.Persists record (.appendEvalResult record) := rfl
  refine (within_caught (within_reply (.appendEvalResult record) persists id)).bind fun reply => ?_
  extract_lets answered
  have answers (intact : Bool) : (answered intact).Within (HarnessCall.Persists record) := by
    refine (within_plain plain_singletonStateIsClosed).bind fun closed => ?_
    extract_lets settle
    have settles (unit_ : Unit) : (settle unit_).Within (HarnessCall.Persists record) := by
      dsimp only [settle]
      split <;> exact within_pure _
    split
    · exact (within_plain plain_discardRestore).bind settles
    · exact settles ()
  split
  · exact (within_plain (plain_isClosed _)).bind answers
  · exact answers false

private theorem persists_loadedEqual (record : EvalResultRecord) :
    (loadedEqual record).Within (HarnessCall.Persists record) := by
  unfold loadedEqual
  refine (within_caught ?_).bind fun existing => ?_
  · refine (within_plain (plain_detached _ record.evalRunId)).bind fun copy => ?_
    cases copy with
    | none => exact within_throw _
    | some evalRunId =>
      exact within_reply
        (.loadEvalResult evalRunId record.caseId record.lane record.attempt) trivial id
  refine (within_plain plain_singletonStateIsClosed).bind fun closed => ?_
  extract_lets answered
  have answers (unit_ : Unit) : (answered unit_).Within (HarnessCall.Persists record) := by
    dsimp only [answered]
    split
    · exact within_plain (plain_isClosed _)
    · exact within_pure _
  split
  · exact (within_plain plain_discardRestore).bind answers
  · exact answers ()

theorem persists_appendResult (harness : OfflineEvalHarness) (record : EvalResultRecord)
    (evalCase : EvalCaseArtifact) (laneArtifact : EvalLaneArtifact) :
    (appendResult harness record evalCase laneArtifact).Within (HarnessCall.Persists record) := by
  unfold appendResult
  refine (persists_writeResult record).bind fun written => ?_
  extract_lets scope decide_
  have decides (acknowledged : Bool) :
      (decide_ acknowledged).Within (HarnessCall.Persists record) := by
    dsimp only [decide_]
    split
    · exact within_pure _
    · exact (within_plain (plain_appendFailure _ _ _ _ _)).bind fun _ => within_pure _
  rcases written with _ | _ | _
  · exact decides false
  · exact decides true
  · exact (persists_loadedEqual record).bind decides

end Persists

theorem quiet_of_plain {action : Harness α} (plain : Plain action) : Quiet action :=
  plain.mono HarnessCall.IsPlain.quiet

theorem quiet_isClosed (object : CheckedObject) : Quiet (isClosed object) :=
  quiet_of_plain (plain_isClosed object)

theorem quiet_singletonStateIsClosed : Quiet singletonStateIsClosed :=
  quiet_of_plain plain_singletonStateIsClosed

theorem quiet_restoreSingletonState : Quiet restoreSingletonState :=
  quiet_of_plain plain_restoreSingletonState

theorem quiet_discardRestore : Quiet (discard restoreSingletonState) :=
  quiet_of_plain plain_discardRestore

theorem quiet_detached (object : CheckedObject) (value : α) : Quiet (detached object value) :=
  quiet_of_plain (plain_detached object value)

theorem quiet_caught {action : Harness α} (quiet : Quiet action) : Quiet (caught action) :=
  within_caught quiet

theorem quiet_reply (call : HarnessCall) (quiet : call.IsQuiet)
    (reply : HarnessAnswer call → Except EvalException α) :
    Quiet ((Coroutine.ask call : Harness (HarnessAnswer call)) >>= fun answer =>
      Coroutine.ofExcept (reply answer)) :=
  within_reply call quiet reply

theorem quiet_canonicalBoundEvidence (evidence : EvalEvidence) :
    Quiet (canonicalBoundEvidence evidence) := by
  refine (quiet_isClosed _).bind fun closed => ?_
  split <;> exact within_pure _

theorem quiet_canonicalUnboundResult (result : EvalCaseSutResult) :
    Quiet (canonicalUnboundResult result) :=
  (quiet_isClosed _).bind fun _ => within_pure _

private theorem quiet_appendFailure (harness : OfflineEvalHarness) (scope : FailureScope)
    (phase : EvalExecutionFailurePhase) (traceRef : Option Uuid)
    (safeErrorCode : Option EvalExecutionSafeErrorCode) :
    Quiet (appendFailure harness scope phase traceRef safeErrorCode) :=
  quiet_of_plain (plain_appendFailure _ _ _ _ _)

theorem quiet_fail (run : CaseRun) (phase : EvalExecutionFailurePhase) (traceRef : Option Uuid)
    (safeErrorCode : Option EvalExecutionSafeErrorCode) :
    Quiet (run.fail phase traceRef safeErrorCode) :=
  (quiet_appendFailure _ _ _ _ _).bind fun _ => within_pure _

theorem quiet_appendResult (harness : OfflineEvalHarness) (record : EvalResultRecord)
    (evalCase : EvalCaseArtifact) (laneArtifact : EvalLaneArtifact) :
    Quiet (appendResult harness record evalCase laneArtifact) :=
  (persists_appendResult harness record evalCase laneArtifact).mono HarnessCall.Persists.quiet

theorem quiet_finalEvidenceOf (run : CaseRun) (evidence : EvalEvidence) (gradedEvent : TraceEvent)
    (reloaded : Option (List TraceEvent)) (sutResult : EvalCaseSutResult) :
    Quiet (finalEvidenceOf run evidence gradedEvent reloaded sutResult) := by
  unfold finalEvidenceOf
  cases reloaded with
  | none => exact within_pure _
  | some traceEvents =>
    refine (quiet_isClosed _).bind fun traceRefClosed => ?_
    split
    · exact within_pure _
    refine (quiet_isClosed _).bind fun resultClosed => ?_
    split
    · exact within_pure _
    refine (quiet_canonicalBoundEvidence _).bind fun found => ?_
    cases found <;> exact within_pure _

theorem quiet_copiesAreClosed (record : EvalResultRecord) (stage : StagedCase) :
    Quiet (copiesAreClosed record stage) :=
  quiet_of_plain (plain_copiesAreClosed record stage)

theorem quiet_laneFailure (run : LaneRun) (evalCase : Option EvalCaseArtifact)
    (phase : EvalExecutionFailurePhase) (traceRef : Option Uuid) :
    Quiet (run.appendFailure evalCase phase traceRef) :=
  quiet_of_plain (plain_laneFailure _ _ _ _)

theorem quiet_setupFailed (harness : OfflineEvalHarness) (request : LaneRequest) (lane : String)
    (laneArtifact : Option EvalLaneArtifact) :
    Quiet (setupFailed harness request lane laneArtifact) :=
  (quiet_appendFailure _ _ _ _ _).bind fun _ => within_ofExcept _

theorem quiet_casesFailed (run : LaneRun) (lane : String) (phase : EvalExecutionFailurePhase)
    (cases : List EvalCaseArtifact) : Quiet (casesFailed run lane phase cases) :=
  (within_mapM fun _ _ => quiet_laneFailure _ _ _ _).bind fun _ => within_ofExcept _

theorem quiet_applyPairRule (run : LaneRun) (selectedIds : List String) (staging : Staging) :
    Quiet (applyPairRule run selectedIds staging) := by
  unfold applyPairRule dropAlone
  split
  · split
    · exact within_ofExcept _
    · split
      · exact within_pure _
      · exact (quiet_laneFailure _ _ _ _).bind fun _ => within_pure _
  · exact within_pure _

theorem quiet_qwenPreflight (harness : OfflineEvalHarness) (request : QwenRequest)
    (caseId : String) :
    Quiet (qwenPreflight harness request caseId) :=
  (within_ask trivial).bind fun _ => (within_ofExcept _).bind fun _ => within_ofExcept _

theorem quiet_appendQwenNotRunRecord (record : EvalResultRecord) :
    Quiet (appendQwenNotRunRecord record) := by
  unfold appendQwenNotRunRecord
  split
  · exact within_throw _
  refine (quiet_caught (quiet_reply (.appendEvalResult record) trivial id)).bind fun reply => ?_
  split
  · exact within_pure _
  · refine (quiet_caught
      (quiet_reply (.loadEvalResult record.evalRunId record.caseId record.lane record.attempt)
      trivial id)).bind fun existing => ?_
    split
    · exact within_pure _
    · exact within_throw _
  · exact within_throw _

/-- Around its implementation a lane makes plain calls only. -/
theorem steps_runLane_of_impl
    {relates : HarnessState → List (Event HarnessAnswer) → HarnessState → Prop}
    (composes : Composes relates)
    (plain : ∀ {α : Type} {action : Harness α}, Plain action → action.Steps relates)
    {harness : OfflineEvalHarness} {request : LaneRequest}
    (impl : (runLaneImpl harness request false).Steps relates) :
    (runLane harness request).Steps relates := by
  have restores := plain plain_discardRestore
  unfold runLane
  refine (plain plain_singletonStateIsClosed).bind composes fun closed => ?_
  extract_lets goOn
  have runs (unit_ : Unit) : (goOn unit_).Steps relates := by
    refine Steps.bind ?_ composes fun outcome => ?_
    · refine (impl.map some composes).tryCatch composes fun failure => ?_
      exact restores.bind composes fun _ => composes.throw _
    refine (plain plain_singletonStateIsClosed).bind composes fun closed => ?_
    refine (plain plain_restoreSingletonState).bind composes fun restored => ?_
    split
    · split
      · exact composes.pure _
      · exact composes.throw _
    · exact composes.throw _
  split
  · exact restores.bind composes fun _ => (composes.throw _).bind composes runs
  · exact runs ()

end MiniAgent.Evaluation
