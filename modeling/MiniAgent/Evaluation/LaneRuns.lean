import MiniAgent.Evaluation.HarnessAccounting

/-! # The run of a selection

A lane that returns for a selection has staged the selected cases from the state that it was called
in, and has settled what was staged, between two checks before and two after. So its events tell how
the cases were staged, and the results of the pair are judged by that.
-/

namespace MiniAgent.Evaluation

open MiniAgent.Core MiniAgent.Application ContractModel Coroutine

variable {harness : OfflineEvalHarness} {request : LaneRequest} {qwenExecution : Bool}
  {laneArtifact : EvalLaneArtifact}

/-- The request is accepted, and none of its selected cases is refused. -/
structure LaneRequest.Passes (request : LaneRequest) (harness : OfflineEvalHarness)
    (qwenExecution : Bool) (laneArtifact : EvalLaneArtifact) :
    Prop extends request.Accepted harness qwenExecution laneArtifact where
  executable : ∃ cases, (request.selectedIds laneArtifact).mapM harness.artifacts.caseById =
    .ok cases ∧ (cases.filter (·.lifecycleStatus ∉ executableCaseLifecycleStatuses)).isEmpty = true
  pair : (pairIds.any (· ∈ request.selectedIds laneArtifact) &&
    !(pairIds.all (· ∈ request.selectedIds laneArtifact))) = false

/-- A request that passes runs its selection. -/
theorem runLaneImpl_of_passes (passes : request.Passes harness qwenExecution laneArtifact) :
    runLaneImpl harness request qwenExecution = (do
      let some evalRunId ← detachedClosedUuid request.evalRunId | throw .commandError
      runSelected { request.run harness qwenExecution laneArtifact with evalRunId } request.lane
        (request.selectedIds laneArtifact)) := by
  obtain ⟨cases, found, executable⟩ := passes.executable
  have asked : (request.lane != (if qwenExecution = true then "qwen_baseline"
    else "offline_gate") ||
      decide (request.attempt < 1)) = false := by
    rw [passes.lane, bne_self_eq_false, Bool.false_or]
    exact decide_eq_false (Nat.not_lt.mpr passes.attempt)
  unfold runLaneImpl
  refine congrArg (detachedClosedUuid request.evalRunId >>= ·) (funext fun copy => ?_)
  cases copy with
  | none => rfl
  | some evalRunId =>
    have valid : selectionIsValid laneArtifact
        (request.caseIds.getD laneArtifact.caseRefs) request.scriptRefByCase =
        true := passes.selection
    have selected : (request.caseIds.getD laneArtifact.caseRefs).mapM harness.artifacts.caseById =
      .ok cases := found
    have pair := passes.pair
    rw [LaneRequest.selectedIds] at pair
    have run : (Coroutine.ofExcept (Except.ok cases) : Harness (List EvalCaseArtifact)) =
      pure cases := rfl
    simp only [asked, passes.found, valid, selected, run, pure_bind, executable, pair,
      Bool.not_true, Bool.false_eq_true, if_false]
    rfl

private theorem ensures_detached {α : Type} (object : CheckedObject) (value : α)
    (state : HarnessState) :
    (detached object value).Ensures state fun outcome final events => final = state ∧
    ∃ closed : Bool,
      events = [⟨.isClosed object, closed⟩] ∧
      outcome = .ok (if closed then some value else none) := by
  unfold detached isClosed
  refine ensures_ask_bind_iff.mpr fun closed => ?_
  exact ensures_pure_iff.mpr ⟨rfl, closed, rfl, rfl⟩

/-- What is returned for a selection that passes is told by its run, once the identity is copied. -/
theorem runLaneImpl_selects (passes : request.Passes harness qwenExecution laneArtifact)
    (state : HarnessState) :
    (runLaneImpl harness request qwenExecution).Ensures state fun outcome final events =>
    ∀ told, outcome = .ok told →
      ∃ selecting, events = ⟨.isClosed (.uuid request.evalRunId), true⟩ :: selecting ∧
        (runSelected (request.run harness qwenExecution laneArtifact) request.lane
          (request.selectedIds laneArtifact)
          state).Runs selecting (.ok told, final) := by
  rw [runLaneImpl_of_passes passes]
  refine ensures_bind_iff.mpr ((ensures_detached _ _ state).mono ?_)
  rintro outcome _ _ ⟨rfl, closed, rfl, rfl⟩
  cases closed with
  | false => exact ensures_throw_iff.mpr fun _ => nofun
  | true =>
    rintro selecting outcome final ran told rfl
    exact ⟨selecting, rfl, ran⟩

/-- The checks with which a lane that returns ends. -/
def closingChecks : List HarnessEvent :=
  [⟨.singletonStateIsClosed, true⟩, ⟨.restoreSingletonState, true⟩]

/-- The outcome of a lane is that of its implementation, and so is the state it leaves. -/
theorem runLane_told (state : HarnessState) :
    (runLane harness request).Ensures state fun outcome final events =>
    ∀ told, outcome = .ok told → ∃ during,
    events = ⟨.singletonStateIsClosed, true⟩ :: (during ++ closingChecks) ∧
      (runLaneImpl harness request false state).Runs during (.ok told, final) := by
  unfold runLane singletonStateIsClosed restoreSingletonState
  refine ensures_ask_bind_iff.mpr fun closed => ?_
  dsimp only
  split
  · refine ensures_bind_iff.mpr ((plain_discardRestore state).mono fun outcome _ _ _ => ?_)
    rcases outcome with failure | unit_
    · exact fun _ => nofun
    · exact ensures_bind_iff.mpr (ensures_throw_iff.mpr fun _ => nofun)
  next isClosed =>
  have runs : (runLaneImpl harness request false).Ensures state fun outcome final events =>
      (runLaneImpl harness request false state).Runs events (outcome, final) := fun _ _ _ ran => ran
  refine ensures_bind_iff.mpr (ensures_tryCatch_iff.mpr ?_)
  rw [map_eq_pure_bind]
  refine ensures_bind_iff.mpr (runs.mono fun outcome last during ran => ?_)
  rcases outcome with failure | told
  · refine ensures_bind_iff.mpr ((plain_discardRestore last).mono fun outcome _ _ _ => ?_)
    rcases outcome with failure | unit_
    · exact fun _ => nofun
    · exact ensures_throw_iff.mpr fun _ => nofun
  refine ensures_pure_iff.mpr ?_
  rw [List.append_nil]
  refine ensures_ask_bind_iff.mpr fun stillClosed => ensures_ask_bind_iff.mpr fun restored => ?_
  dsimp only
  split
  · next both =>
    refine ensures_pure_iff.mpr ?_
    rintro other same
    obtain rfl := Except.ok.inj same
    obtain rfl : closed = true := by simpa using isClosed
    obtain ⟨rfl, rfl⟩ := Bool.and_eq_true_iff.mp both
    exact ⟨during, rfl, ran⟩
  · exact ensures_throw_iff.mpr fun _ => nofun

/-- The checks with which a lane that runs its selection begins. -/
def LaneRequest.openingChecks (request : LaneRequest) : List HarnessEvent :=
  [⟨.singletonStateIsClosed, true⟩, ⟨.isClosed (.uuid request.evalRunId), true⟩]

section Staged

variable (request) (run : LaneRun) (selectedIds : List String) (state : HarnessState)
  (events : List HarnessEvent)
  (told : EvalLaneRunOutcome)

/-- A lane called in a state has staged its selected cases so: its events are those of this staging
from that state, and of the settling that returned the outcome, between the checks. -/
def LaneRequest.StagedAs (staging : Staging) : Prop :=
  ∃ staged settled middle final, events = request.openingChecks ++
    (staged ++ (settled ++ closingChecks)) ∧
    (stageSelected run selectedIds {} state).Runs staged (.ok staging, middle) ∧
    (settleSelected run request.lane selectedIds staging middle).Runs settled (.ok told, final)

/-- What a lane makes of a valid selection: it accounts for every case, and for the pair as it has
staged it. -/
structure LaneRequest.LaneAccounts : Prop where
  accounts : Accounts selectedIds events told
  staged : ∃! staging, request.StagedAs run selectedIds state events told staging
  pair : ∀ staging, request.StagedAs run selectedIds state events told staging →
    PairAccounts selectedIds staging told

end Staged

variable {run : LaneRun} {selectedIds : List String} {state : HarnessState}
  {events : List HarnessEvent}
  {told : EvalLaneRunOutcome} {staging other : Staging}

/-- The events of a lane tell how it has staged its cases. -/
theorem LaneRequest.StagedAs.unique
    (one : request.StagedAs run selectedIds state events told staging)
    (two : request.StagedAs run selectedIds state events told other) : other = staging := by
  obtain ⟨staged, settled, middle, final, rfl, stages, -⟩ := one
  obtain ⟨again, after, last, ending, same, restages, -⟩ := two
  obtain ⟨-, values, -⟩ := Program.Runs.unique stages restages (List.append_cancel_left same)
  exact (Except.ok.inj (Prod.mk.inj values).1).symm

/-- The results of the pair are judged by its staging. -/
theorem LaneRequest.StagedAs.pairAccounts
    (staged : request.StagedAs run selectedIds state events told staging)
    (good : CacheGood run.harness state) (distinct : selectedIds.Nodup) (some_ : selectedIds ≠ []) :
    PairAccounts selectedIds staging told := by
  obtain ⟨staging_, settled, middle, final, rfl, stages, settles⟩ := staged
  obtain ⟨goodMiddle, goodStaging, accounts⟩ :=
    (LaneRun.meets_stageSelected selectedIds (fun _ => id) {} run.stagingGood_nil).ensures state
      good _ _ _ stages
  exact ((LaneRun.meets_settleSelected request.lane distinct some_ goodStaging accounts).ensures
    middle goodMiddle
    _ _ _ settles).2.2

/-- A lane that returns for a selection that passes has staged it. -/
theorem exists_stagedAs (passes : request.Passes harness false laneArtifact) {final : HarnessState}
    (ran : (runLane harness request state).Runs events (.ok told, final)) :
    ∃ staging, request.StagedAs (request.run harness false laneArtifact)
    (request.selectedIds laneArtifact) state events
      told staging := by
  obtain ⟨during, rfl, impl⟩ := runLane_told state _ _ _ ran told rfl
  obtain ⟨selecting, rfl, selection⟩ := runLaneImpl_selects passes state _ _ _ impl told rfl
  obtain ⟨staged, ⟨outcome, middle⟩, settled, rfl, stages, settles⟩ :=
    Program.runs_bind_iff.mp selection
  cases outcome with
  | error failure => cases (Program.runs_done_iff.mp settles).2
  | ok staging =>
    exact ⟨staging, staged, settled, middle, final, by simp [LaneRequest.openingChecks], stages,
      settles⟩

end MiniAgent.Evaluation
