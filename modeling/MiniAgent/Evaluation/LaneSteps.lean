import MiniAgent.Evaluation.StageOutcome

/-! # The phases of a lane

Every phase passes on each selected case once, staged or as a failure: staging does so from nothing,
the pair rule moves cases from the staged ones to the failures, and persistence turns a staged case
into a result or a failure. The replay cache holds cases of this harness only, under their own
identity.
-/

namespace MiniAgent.Evaluation

open MiniAgent.Core MiniAgent.Application ContractModel Coroutine

/-- What is known of a staged case, whether it comes from an execution or from the replay cache. -/
structure StageGood (harness : OfflineEvalHarness) (evalRunId : Uuid) (lane : String) (attempt : ℕ)
    (caseId : String) (stage : StagedCase) : Prop where
  evalCase : harness.artifacts.caseById caseId = .ok stage.evalCase
  resultCase : stage.result.caseId = caseId
  resultRun : stage.result.evalRunId = evalRunId
  resultLane : stage.result.lane = lane
  resultAttempt : stage.result.attempt = attempt
  valid : validates stage.result = true
  graders : elementsAt stage.evalCase.grading "graders" =
    .ok (stage.result.graderResults.map (ofText ·.graderName))
  derived : deriveGradingOutcome stage.result.graderResults stage.expectations =
    .ok ⟨stage.result.status, stage.result.graderResults, stage.result.criticalFailures⟩

theorem StageGood.caseId {harness : OfflineEvalHarness} {evalRunId : Uuid} {lane : String}
    {attempt : ℕ} {caseId : String} {stage : StagedCase}
    (good : StageGood harness evalRunId lane attempt caseId stage) :
    stage.evalCase.caseId = caseId := LoadedE2E01Artifacts.caseById_caseId good.evalCase

/-- Under a replay key the cache holds a stage of that key. -/
def CacheGood (harness : OfflineEvalHarness) (state : HarnessState) : Prop :=
  ∀ entry ∈ state.persistedStageByReplayKey,
    StageGood harness entry.1.evalRunId entry.1.lane entry.1.attempt entry.1.caseId entry.2

theorem mem_of_lookup {κ α : Type} [BEq κ] [LawfulBEq κ] {entries : List (κ × α)} {key : κ}
    {value : α} (found : entries.lookup key = some value) : (key, value) ∈ entries := by
  obtain ⟨before, after, same, -⟩ := List.lookup_eq_some_iff.mp found
  exact same ▸ List.mem_append_right _ List.mem_cons_self

private theorem ofCache_cacheGood (harness : OfflineEvalHarness) : OfCache (CacheGood harness) := by
  intro state other same good
  rwa [CacheGood, ← same]

namespace LaneRun

variable {run : LaneRun} {caseId : String} {stage : StagedCase} {events : List HarnessEvent}

/-- A stage of this run of the lane. -/
def Good (run : LaneRun) (caseId : String) (stage : StagedCase) : Prop :=
  StageGood run.harness run.evalRunId run.laneArtifact.lane run.attempt caseId stage

private theorem good_of_stages {graded : GradedCase} {evalCase : EvalCaseArtifact}
    {selectedScriptRef : Option String}
    (found : run.harness.artifacts.caseById caseId = .ok evalCase)
    (stages : graded.Stages (run.caseRun evalCase) selectedScriptRef events stage) :
    run.Good caseId stage := by
  obtain ⟨graders, names, -, -, sameCase, sameExpectations, valid, sameRun, resultCase, sameLane,
    sameAttempt, -, -, derived⟩ := stageResult_eq_ok stages.gradings stages.staged
  have results : stage.result.graderResults = graders.map
      (resultOfName graded.evidence graded.finalEvidence
      graded.expectations) := by
    obtain ⟨-, -, -, same⟩ := deriveGradingOutcome_eq_ok_iff.mp derived
    exact congrArg GradingOutcome.graderResults same
  refine ⟨?_, ?_, sameRun, sameLane, sameAttempt, valid, ?_, ?_⟩
  · rw [found, sameCase]
    rfl
  · rw [resultCase]
    exact LoadedE2E01Artifacts.caseById_caseId found
  · rw [sameCase, results, List.map_map]
    refine stages.configured.trans
      (congrArg Except.ok (names.trans (List.map_congr_left fun grader _ => ?_)))
    exact congrArg ofText (Grader.grade_graderName ..).symm
  · rw [sameExpectations, results]
    rwa [results] at derived

/-- What the authenticated artifacts say of the selected cases of a lane. -/
structure WellFormed (run : LaneRun) (selectedIds : List String) : Prop where
  evalCase : ∀ caseId ∈ selectedIds, ∃ evalCase,
    run.harness.artifacts.caseById caseId = .ok evalCase
  caseRun : ∀ caseId ∈ selectedIds, ∀ evalCase,
    run.harness.artifacts.caseById caseId = .ok evalCase → (run.caseRun evalCase).WellFormed
  disclosure : ∀ caseId ∈ pairIds, ∀ evalCase,
    run.harness.artifacts.caseById caseId = .ok evalCase →
    ∀ names, elementsAt evalCase.grading "graders" = .ok names → ofText "DisclosureGrader" ∈ names

/-- Which failures a phase of the lane may raise. -/
def Raises (run : LaneRun) (selectedIds : List String) (events : List HarnessEvent)
    (failure : EvalException) : Prop :=
  run.WellFormed selectedIds → Bounded failure ∨ failure = .overflowError ∧ CaseRun.Overflows events

theorem lenient_raises (run : LaneRun) (selectedIds : List String) :
    Lenient (run.Raises selectedIds) where
  admits before after failure raises wellFormed := by
    rcases raises wellFormed with bounded | ⟨overflow, result, last, executed, rest⟩
    · exact .inl bounded
    · exact .inr ⟨overflow, result, last, executed.mono (List.subset_append_right _ _), rest⟩
  bounded _ _ bounded := fun _ => .inl bounded

variable {selectedIds : List String} {evalCase : EvalCaseArtifact}

/-- A failure of a selected case. -/
theorem meets_appendFailure_case {invariant : HarnessState → Prop}
    {phase : EvalExecutionFailurePhase} (selected : caseId ∈ selectedIds)
    (found : run.harness.artifacts.caseById caseId = .ok evalCase) (coded : phaseHasCode phase none)
    (traceRef : Option Uuid) :
    (run.appendFailure evalCase phase traceRef).Meets invariant
    (fun _ failure => FailureOf (some caseId) failure)
      (run.Raises selectedIds) := by
  have named := LoadedE2E01Artifacts.caseById_caseId found
  refine (meets_appendFailure (run.lenient_raises selectedIds) run.harness _ phase traceRef
    none coded ?_).weaken ?_
  · intro malformed events failure wellFormed
    have caseFormed := wellFormed.caseRun caseId selected evalCase found
    refine absurd ⟨caseFormed.lane, ?_, caseFormed.versions⟩ malformed
    rintro other same
    obtain rfl := Option.some.inj same
    exact ⟨caseFormed.caseId, caseFormed.attempt⟩
  · intro events failure failureOf
    rwa [← named]

/-- What is known of the cases that were staged so far. -/
structure StagingGood (run : LaneRun) (staging : Staging) : Prop where
  staged : ∀ entry ∈ staging.staged, run.Good entry.1 entry.2
  replayKeys : ∀ entry ∈ staging.replayKeys, entry.2.evalRunId = run.evalRunId ∧
    entry.2.caseId = entry.1 ∧ entry.2.lane = run.laneArtifact.lane ∧ entry.2.attempt = run.attempt
  failures : ∀ failure ∈ staging.failures, validates failure = true

/-- A case is staged or leaves its failure. -/
def Stands (run : LaneRun) (caseId : String) : Staged → Prop
  | .ok stage => run.Good caseId stage
  | .error failure => FailureOf (some caseId) failure

theorem replayKey_eq_some {key : ReplayCacheKey}
    (found : run.replayKey evalCase caseId = some key) :
    key.evalRunId = run.evalRunId ∧ key.caseId = caseId ∧ key.lane = run.laneArtifact.lane ∧
      key.attempt = run.attempt := by
  obtain ⟨scriptRef, -, rfl⟩ := Option.map_eq_some_iff.mp found
  exact ⟨rfl, rfl, rfl, rfl⟩

private theorem meets_stageOrReplay (selected : caseId ∈ selectedIds)
    (found : run.harness.artifacts.caseById caseId = .ok evalCase) :
    (stageOrReplay run caseId evalCase).Meets (CacheGood run.harness)
    (fun _ staged => run.Stands caseId staged)
      (run.Raises selectedIds) := by
  have lenient := run.lenient_raises selectedIds
  unfold stageOrReplay
  refine meets_read.andThen (admits_constant _) lenient.admits fun state good => ?_
  extract_lets cache
  split
  · next stage cached =>
    obtain ⟨key, keyed, listed⟩ := Option.bind_eq_some_iff.mp cached
    obtain ⟨sameRun, sameCase, sameLane, sameAttempt⟩ := replayKey_eq_some keyed
    have known := good _ (mem_of_lookup listed)
    rw [sameRun, sameCase, sameLane, sameAttempt] at known
    exact meets_pure known
  · refine (meets_stageCase _ _ (ofCache_cacheGood _)).mono ?_ ?_
    · rintro events staged comes
      cases staged with
      | ok stage =>
        obtain ⟨graded, stages⟩ := comes
        exact good_of_stages found stages
      | error failure =>
        rw [← LoadedE2E01Artifacts.caseById_caseId found]
        exact comes
    · intro events failure raises wellFormed
      exact raises (wellFormed.caseRun caseId selected evalCase found)

/-- The cases that a lane is through with: the staged ones and those that have a failure. -/
def accounted (staging : Staging) : List (Option String) :=
  staging.staged.map (some ·.1) ++ staging.failures.map (·.caseId)

private theorem stagingGood_add {staging : Staging} {staged : Staged}
    (good : run.StagingGood staging) (stands : run.Stands caseId staged) :
    run.StagingGood (staging.add caseId (run.replayKey evalCase caseId) staged) ∧
      (accounted (staging.add caseId (run.replayKey evalCase caseId) staged)).Perm
        (accounted staging ++ [some caseId]) := by
  have keys : ∀ entry ∈ staging.replayKeys ++
      ((run.replayKey evalCase caseId).map (caseId, ·)).toList,
      entry.2.evalRunId = run.evalRunId ∧ entry.2.caseId = entry.1 ∧
        entry.2.lane = run.laneArtifact.lane ∧ entry.2.attempt = run.attempt := by
    intro entry member
    rcases List.mem_append.mp member with earlier | added
    · exact good.replayKeys entry earlier
    · obtain ⟨key, found, rfl⟩ := Option.map_eq_some_iff.mp (Option.mem_toList.mp added)
      exact replayKey_eq_some found
  cases staged with
  | ok stage =>
    refine ⟨⟨?_, keys, good.failures⟩, ?_⟩
    · intro entry member
      rcases List.mem_append.mp member with earlier | added
      · exact good.staged entry earlier
      · obtain rfl := List.mem_singleton.mp added
        exact stands
    · simp only [accounted, Staging.add, List.map_append, List.map_cons, List.map_nil,
        List.append_assoc]
      exact List.perm_append_comm.append_left _
  | error failure =>
    obtain ⟨named, valid⟩ := stands
    refine ⟨⟨good.staged, keys, ?_⟩, ?_⟩
    · intro other member
      rcases List.mem_append.mp member with earlier | added
      · exact good.failures other earlier
      · obtain rfl := List.mem_singleton.mp added
        exact valid
    · simp only [accounted, Staging.add, List.map_append, List.map_cons, List.map_nil,
        List.append_assoc, named]
      exact .refl _

private theorem meets_caseById (selected : caseId ∈ selectedIds) {invariant : HarnessState → Prop} :
    (Coroutine.ofExcept (run.harness.artifacts.caseById caseId) : Harness EvalCaseArtifact).Meets
    invariant
      (fun _ evalCase => run.harness.artifacts.caseById caseId = .ok evalCase)
      (run.Raises selectedIds) := by
  apply meets_ofExcept
  cases found : run.harness.artifacts.caseById caseId with
  | ok evalCase => rfl
  | error failure =>
    intro wellFormed
    obtain ⟨evalCase, known⟩ := wellFormed.evalCase caseId selected
    cases found.symm.trans known

/-- Staging passes on every case once. -/
theorem meets_stageSelected (ids : List String) (part : ∀ caseId ∈ ids, caseId ∈ selectedIds)
    (staging : Staging) (good : run.StagingGood staging) :
    (stageSelected run ids staging).Meets (CacheGood run.harness)
      (fun _ final => run.StagingGood final ∧
        (accounted final).Perm (accounted staging ++ ids.map some))
      (run.Raises selectedIds) := by
  have lenient := run.lenient_raises selectedIds
  induction ids generalizing staging with
  | nil =>
    apply meets_pure
    exact ⟨good, by rw [List.map_nil, List.append_nil]⟩
  | cons caseId rest ih =>
    have selected := part caseId List.mem_cons_self
    unfold stageSelected
    refine (meets_caseById selected).andThen
      (admits_constant _) lenient.admits fun evalCase found => ?_
    refine (meets_stageOrReplay selected found).andThen
      (admits_constant _) lenient.admits fun staged stands => ?_
    obtain ⟨added, counted⟩ := stagingGood_add good stands
    refine (ih (fun other member => part other (List.mem_cons_of_mem _ member)) _ added).weaken ?_
    rintro events final ⟨finalGood, accounts⟩
    refine ⟨finalGood, accounts.trans ?_⟩
    have shifted := counted.append_right (rest.map some)
    rwa [List.append_assoc] at shifted

end LaneRun

end MiniAgent.Evaluation
