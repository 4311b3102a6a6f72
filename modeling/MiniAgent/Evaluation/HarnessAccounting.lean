import MiniAgent.Evaluation.LanePersistence
import MiniAgent.Evaluation.QuietSteps

/-! # The accounts of a lane

Of every selected case a lane returns one result or one failure, the results in the order of the
selection and acknowledged by the port, and the command passes when every case has a result that
passed. The replay cache, from which a lane may take its stages, is filled by earlier lanes of the
same harness.
-/

namespace MiniAgent.Evaluation

open MiniAgent.Core MiniAgent.Application ContractModel Coroutine

/-- What an outcome tells of the selected cases. -/
structure Accounts (selectedIds : List String) (events : List HarnessEvent)
    (outcome : EvalLaneRunOutcome) : Prop where
  once : (outcome.results.map (some ·.caseId) ++ outcome.executionFailures.map (·.caseId)).Perm
    (selectedIds.map some)
  inOrder : (outcome.results.map (·.caseId)).Sublist selectedIds
  acknowledged : ∀ result ∈ outcome.results, Acknowledged events result
  passed : outcome.commandPassed = true ↔
    ∀ caseId ∈ selectedIds, ∃ result ∈ outcome.results, result.caseId = caseId ∧
    result.status = .pass

/-- What an outcome tells of the pair, given how its cases were staged. -/
structure PairAccounts (selectedIds : List String) (staging : Staging)
    (outcome : EvalLaneRunOutcome) : Prop where
  alone : pairIds ⊆ selectedIds → (∃ caseId ∈ pairIds, caseId ∉ staging.staged.map (·.1)) →
    ∀ result ∈ outcome.results, result.caseId ∉ pairIds
  apart : pairIds ⊆ selectedIds → pairIds ⊆ staging.staged.map (·.1) →
    safeObservablesMatch (pairObservables staging) = false →
      ∀ result ∈ outcome.results, result.caseId ∈ pairIds → result.status ≠ .pass

theorem Accounts.mono {selectedIds : List String} {before after : List HarnessEvent}
    {outcome : EvalLaneRunOutcome} (accounts : Accounts selectedIds before outcome)
    (part : before ⊆ after) : Accounts selectedIds after outcome where
  once := accounts.once
  inOrder := accounts.inOrder
  acknowledged result member := (accounts.acknowledged result member).mono part
  passed := accounts.passed

namespace LaneRun

variable {run : LaneRun} {selectedIds : List String} {staging settled : Staging}
  {records : LaneRecords}
  {events : List HarnessEvent}

/-- If every case has a result, none has a failure. -/
theorem failures_eq_nil {results : List EvalResultRecord}
    {failures : List EvalExecutionFailureRecord} (distinct : selectedIds.Nodup)
    (once : (results.map (some ·.caseId) ++ failures.map (·.caseId)).Perm
      (selectedIds.map some)) (each : ∀ caseId ∈ selectedIds, ∃ result ∈ results,
      result.caseId = caseId) :
    failures = [] := by
  have apart : (results.map (some ·.caseId) ++ failures.map (·.caseId)).Nodup :=
    once.nodup_iff.mpr (distinct.map (Option.some_injective _))
  obtain ⟨-, -, disjoint⟩ := List.nodup_append'.mp apart
  refine List.eq_nil_iff_forall_not_mem.mpr fun failure member => ?_
  have failed : failure.caseId ∈ failures.map (·.caseId) := List.mem_map_of_mem member
  obtain ⟨caseId, selected, named⟩ :=
    List.mem_map.mp (once.mem_iff.mp (List.mem_append_right _ failed))
  obtain ⟨result, reported, same⟩ := each caseId selected
  refine disjoint ?_ failed
  rw [← named, ← same]
  exact List.mem_map_of_mem reported

/-- The command passed flag that is computed from the records. -/
private theorem passed_iff {results : List EvalResultRecord}
    {failures : List EvalExecutionFailureRecord} (distinct : selectedIds.Nodup)
    (once : (results.map (some ·.caseId) ++ failures.map (·.caseId)).Perm
      (selectedIds.map some)) :
    (failures.isEmpty && results.length == selectedIds.length &&
      results.all (·.status == .pass)) = true ↔
      ∀ caseId ∈ selectedIds, ∃ result ∈ results, result.caseId = caseId ∧
      result.status = .pass := by
  have apart : (results.map (some ·.caseId) ++ failures.map (·.caseId)).Nodup :=
    once.nodup_iff.mpr (distinct.map (Option.some_injective _))
  obtain ⟨resultsDistinct, -, -⟩ := List.nodup_append'.mp apart
  simp only [Bool.and_eq_true, List.isEmpty_iff, beq_iff_eq, List.all_eq_true]
  constructor
  · rintro ⟨⟨rfl, -⟩, passes⟩ caseId selected
    rw [List.map_nil, List.append_nil] at once
    obtain ⟨result, member, same⟩ :=
      List.mem_map.mp (once.mem_iff.mpr (List.mem_map_of_mem selected))
    exact ⟨result, member, Option.some.inj same, passes result member⟩
  · intro each
    obtain rfl : failures = [] := failures_eq_nil distinct once fun caseId selected => by
      obtain ⟨result, reported, same, -⟩ := each caseId selected
      exact ⟨result, reported, same⟩
    rw [List.map_nil, List.append_nil] at once
    refine ⟨⟨rfl, by simpa using once.length_eq⟩, fun result member => ?_⟩
    obtain ⟨caseId, selected, same⟩ :=
      List.mem_map.mp (once.mem_iff.mp (List.mem_map_of_mem member))
    obtain ⟨other, reported, named, passes⟩ := each caseId selected
    have sameResult := List.inj_on_of_nodup_map resultsDistinct member reported
      (by rw [← same, named])
    rwa [sameResult]

/-- The staged cases are selected cases, each staged once. -/
private theorem staged_of_accounted (distinct : selectedIds.Nodup)
    (accounts : (accounted staging).Perm (selectedIds.map some)) :
    (staging.staged.map (·.1)).Nodup ∧ staging.staged.map (·.1) ⊆ selectedIds := by
  have once : (accounted staging).Nodup :=
    accounts.nodup_iff.mpr (distinct.map (Option.some_injective _))
  have keys : (staging.staged.map fun entry => some entry.1) =
      (staging.staged.map (·.1)).map some := by
    rw [List.map_map, Function.comp_def]
  rw [accounted, keys] at once
  refine ⟨(List.nodup_append'.mp once).1.of_map, fun caseId listed => ?_⟩
  have counted : some caseId ∈ accounted staging := by
    rw [accounted, keys]
    exact List.mem_append_left _ (List.mem_map_of_mem listed)
  obtain ⟨other, selected, same⟩ := List.mem_map.mp (accounts.mem_iff.mp counted)
  exact Option.some.inj same ▸ selected

/-- The records account for every selected case. -/
private theorem once_of_records (distinct : selectedIds.Nodup)
    (accounts : (accounted settled).Perm (selectedIds.map some))
    (recorded : RecordsGood settled selectedIds events records) :
    (records.results.map (some ·.caseId) ++ records.failures.map (·.caseId)).Perm
    (selectedIds.map some) := by
  obtain ⟨stagedOnce, part⟩ := staged_of_accounted distinct accounts
  have kept :
      (selectedIds.filter (· ∈ settled.staged.map (·.1))).Perm (settled.staged.map (·.1)) := by
    refine (List.perm_ext_iff_of_nodup (distinct.filter _) stagedOnce).mpr fun caseId => ?_
    rw [List.mem_filter, decide_eq_true_eq]
    exact ⟨fun both => both.2, fun listed => ⟨part listed, listed⟩⟩
  have keys : (settled.staged.map fun entry => some entry.1) =
      (settled.staged.map (·.1)).map some := by
    rw [List.map_map, Function.comp_def]
  refine recorded.accounts.trans (.trans ?_ accounts)
  rw [accounted, keys]
  exact ((kept.map some).append_left _).trans List.perm_append_comm

private theorem admits_accounts : Admits (Accounts selectedIds) :=
  fun _ _ _ accounts => accounts.mono (List.subset_append_right _ _)

/-- The pair rule decides what becomes of the results of the pair. -/
private theorem pairAccounts_of_settled {outcome : EvalLaneRunOutcome}
    (pairSettled : run.PairSettled selectedIds staging settled)
    (recorded : RecordsGood settled selectedIds events records)
    (same : outcome.results = records.results) :
    PairAccounts selectedIds staging outcome where
  alone selected unstaged result member inPair := by
    rw [same] at member
    obtain ⟨-, stage, staged, -⟩ := recorded.results result member
    exact pairSettled.alone selected unstaged result.caseId inPair (List.mem_map_of_mem staged)
  apart selected both differ result member inPair passes := by
    rw [same] at member
    obtain ⟨-, stage, staged, isStage⟩ := recorded.results result member
    have failed := pairSettled.apart selected both differ _ staged inPair
    rw [isStage] at passes
    cases failed.symm.trans passes

private theorem outcomeChecks (outcome : EvalLaneRunOutcome) :
    validates outcome = (outcome.results.all validates &&
    outcome.executionFailures.all validates &&
    !(outcome.commandPassed && (!outcome.executionFailures.isEmpty ||
      outcome.results.isEmpty || outcome.results.any (·.status != .pass)))) := rfl

/-- The outcome of a lane is valid. -/
private theorem validates_outcome (lane : String) (good : run.StagingGood settled)
    (some_ : selectedIds ≠ []) (recorded : RecordsGood settled selectedIds events records) :
    validates ({
      lane
      results := records.results
      executionFailures := records.failures
      commandPassed := records.failures.isEmpty && records.results.length == selectedIds.length &&
        records.results.all (·.status == .pass) } : EvalLaneRunOutcome) = true := by
  have results : records.results.all validates = true := by
    refine List.all_eq_true.mpr fun result member => ?_
    obtain ⟨-, stage, staged, isStage⟩ := recorded.results result member
    rw [isStage]
    exact (good.staged _ staged).valid
  have failures : records.failures.all validates = true := List.all_eq_true.mpr recorded.failures
  rw [outcomeChecks, results, failures]
  simp only [Bool.true_and, Bool.not_eq_true', Bool.and_eq_false_imp, Bool.and_eq_true, beq_iff_eq,
    List.isEmpty_iff]
  rintro ⟨⟨noFailures, sameLength⟩, passes⟩
  have reported : records.results ≠ [] := by
    intro none
    rw [none, List.length_nil, eq_comm, List.length_eq_zero_iff] at sameLength
    exact some_ sameLength
  have passed : records.results.any (·.status != .pass) = false := by
    simpa using passes
  rw [noFailures, passed]
  simpa using reported

/-- What was staged is settled: the outcome accounts for every case, and for the pair. -/
theorem meets_settleSelected (lane : String) (distinct : selectedIds.Nodup)
    (some_ : selectedIds ≠ []) (good : run.StagingGood staging)
    (accounts : (accounted staging).Perm (selectedIds.map some)) :
    (settleSelected run lane selectedIds staging).Meets (CacheGood run.harness)
      (fun events outcome => Accounts selectedIds events outcome ∧
        PairAccounts selectedIds staging outcome)
      (run.Raises selectedIds) := by
  have lenient := run.lenient_raises selectedIds
  obtain ⟨stagedOnce, -⟩ := staged_of_accounted distinct accounts
  unfold settleSelected
  refine (meets_applyPairRule good stagedOnce).andThen ?_ lenient.admits fun settled
    pairSettled => ?_
  · exact fun earlier after outcome both => ⟨both.1.mono (List.subset_append_right _ _), both.2⟩
  have noRecords := @recordsGood_nil _ _ [] pairSettled.good
  refine (meets_persistSelected pairSettled.good selectedIds (fun _ => id) noRecords).andUse
    lenient.admits
    fun records middle recorded => ?_
  rw [List.nil_append, List.nil_append] at recorded
  have once := once_of_records distinct (pairSettled.accounts.trans accounts) recorded
  apply meets_ofExcept
  rw [constructed_eq_ok_iff.mpr ⟨validates_outcome lane pairSettled.good some_ recorded, rfl⟩]
  refine ⟨⟨once, recorded.inOrder, fun result member => ?_, passed_iff distinct once⟩, ?_⟩
  · rw [List.append_nil]
    exact (recorded.results result member).1
  · exact pairAccounts_of_settled pairSettled recorded rfl

theorem stagingGood_nil (run : LaneRun) : run.StagingGood {} :=
  ⟨List.forall_mem_nil _, List.forall_mem_nil _, List.forall_mem_nil _⟩

/-- The lane of a valid selection accounts for every case of it. -/
private theorem meets_runSelected (run : LaneRun) (lane : String) (distinct : selectedIds.Nodup)
    (some_ : selectedIds ≠ []) :
    (runSelected run lane selectedIds).Meets (CacheGood run.harness) (Accounts selectedIds)
      (run.Raises selectedIds) := by
  have lenient := run.lenient_raises selectedIds
  unfold runSelected
  refine (meets_stageSelected selectedIds (fun _ => id) {} run.stagingGood_nil).andThen
    admits_accounts
    lenient.admits fun staging staged => ?_
  exact (meets_settleSelected lane distinct some_ staged.1 staged.2).weaken fun _ _ both => both.1

end LaneRun

/-- The bundle passed the checks of its loader, and the facts of the data whose bytes were
authenticated. -/
structure LoadedE2E01Artifacts.Authenticated (artifacts : LoadedE2E01Artifacts) : Prop where
  lanes : artifacts.lanes.map (·.lane) = ["offline_gate", "qwen_baseline"]
  cases : (artifacts.cases.map (·.caseId)).Nodup
  named : ∀ evalCase ∈ artifacts.cases, evalCase.caseId ≠ ""
  lifecycle : ∀ evalCase ∈ artifacts.cases, evalCase.lifecycleStatus = "REGRESSION_GATE"
  caseRefs : ∀ lane ∈ artifacts.lanes, lane.caseRefs.Nodup ∧
    lane.caseRefs ⊆ artifacts.cases.map (·.caseId)
  graders : ∀ evalCase ∈ artifacts.cases, ∃ names,
    elementsAt evalCase.grading "graders" = .ok names ∧
    (evalCase.caseId ∈ pairIds → ofText "DisclosureGrader" ∈ names)
  versions : ∀ evalCase ∈ none :: artifacts.cases.map some,
    ∀ lane ∈ none :: artifacts.lanes.map some,
    ∃ manifest, versionManifest artifacts evalCase lane = .ok manifest

namespace LoadedE2E01Artifacts

variable {artifacts : LoadedE2E01Artifacts}

private theorem uniqueMatch_of_nodup {α : Type} {items : List α} {key : α → String}
    {message : String} {item : α} (distinct : (items.map key).Nodup) (member : item ∈ items) :
    uniqueMatch items (key · == key item) message = .ok item := by
  rw [uniqueMatch, Keyed.filter_key_eq_singleton distinct member]

theorem Authenticated.caseById (authenticated : artifacts.Authenticated) {caseId : String}
    (known : caseId ∈ artifacts.cases.map (·.caseId)) :
    ∃ evalCase, artifacts.caseById caseId = .ok evalCase := by
  obtain ⟨evalCase, member, rfl⟩ := List.mem_map.mp known
  exact ⟨evalCase, uniqueMatch_of_nodup authenticated.cases member⟩

theorem laneByName_mem {name : String} {lane : EvalLaneArtifact}
    (found : artifacts.laneByName name = .ok lane) :
    lane ∈ artifacts.lanes ∧ lane.lane = name :=
  ⟨(mem_of_uniqueMatch found).1, beq_iff_eq.mp (mem_of_uniqueMatch found).2⟩

/-- What the phases of a lane need of the artifacts holds of an authenticated bundle. -/
theorem Authenticated.wellFormed {run : LaneRun}
    (authenticated : run.harness.artifacts.Authenticated) {selectedIds : List String}
    (lane : run.laneArtifact ∈ run.harness.artifacts.lanes) (named : run.laneArtifact.lane ≠ "")
    (attempt : 1 ≤ run.attempt) (part : selectedIds ⊆ run.laneArtifact.caseRefs) :
    run.WellFormed selectedIds where
  evalCase caseId selected :=
    authenticated.caseById ((authenticated.caseRefs _ lane).2 (part selected))
  caseRun caseId selected evalCase found := by
    have member := (mem_of_uniqueMatch found).1
    obtain ⟨names, graders, -⟩ := authenticated.graders evalCase member
    refine ⟨authenticated.named evalCase member, named, attempt, ?_, names, graders⟩
    exact authenticated.versions (some evalCase)
      (List.mem_cons_of_mem _ (List.mem_map_of_mem member))
      (some run.laneArtifact) (List.mem_cons_of_mem _ (List.mem_map_of_mem lane))
  disclosure caseId inPair evalCase found names graders := by
    obtain ⟨others, same, disclosure⟩ := authenticated.graders evalCase (mem_of_uniqueMatch found).1
    obtain rfl := Except.ok.inj (same.symm.trans graders)
    exact disclosure (by rwa [caseById_caseId found])

end LoadedE2E01Artifacts

namespace LaneRequest

variable {request : LaneRequest} {harness : OfflineEvalHarness} {qwenExecution : Bool}

def selectedIds (request : LaneRequest) (laneArtifact : EvalLaneArtifact) : List String :=
  request.caseIds.getD laneArtifact.caseRefs

/-- The run of the lane that the request asks for. -/
def run (request : LaneRequest) (harness : OfflineEvalHarness) (qwenExecution : Bool)
    (laneArtifact : EvalLaneArtifact) :
    LaneRun :=
  { harness, evalRunId := request.evalRunId, laneArtifact, attempt := request.attempt
    scriptRefByCase := request.scriptRefByCase, qwenExecution }

/-- The request is for this lane and selects some distinct cases of it, and scripts for selected
cases only. -/
structure Accepted (request : LaneRequest) (harness : OfflineEvalHarness) (qwenExecution : Bool)
    (laneArtifact : EvalLaneArtifact) : Prop where
  lane : request.lane = if qwenExecution then "qwen_baseline" else "offline_gate"
  attempt : 1 ≤ request.attempt
  found : harness.artifacts.laneByName request.lane = .ok laneArtifact
  selection : selectionIsValid laneArtifact
    (request.selectedIds laneArtifact) request.scriptRefByCase = true

/-- The selected cases are executable, and of the pair both or neither is selected. -/
structure Executable (harness : OfflineEvalHarness) (selectedIds : List String) : Prop where
  lifecycle : ∀ caseId ∈ selectedIds, ∀ evalCase, harness.artifacts.caseById caseId = .ok evalCase →
    evalCase.lifecycleStatus ∈ executableCaseLifecycleStatuses
  pair : (∃ caseId ∈ pairIds, caseId ∈ selectedIds) → pairIds ⊆ selectedIds

/-- What an outcome tells of the request. -/
structure Tells (request : LaneRequest) (harness : OfflineEvalHarness) (qwenExecution : Bool)
    (events : List HarnessEvent) (outcome : EvalLaneRunOutcome) : Prop where
  accepted : ∀ laneArtifact, request.Accepted harness qwenExecution laneArtifact →
    Executable harness (request.selectedIds laneArtifact) →
      Accounts (request.selectedIds laneArtifact) events outcome
  refused : (∀ laneArtifact, ¬request.Accepted harness qwenExecution laneArtifact) →
    outcome.results = [] ∧ outcome.commandPassed = false ∧
      ∃ failure, outcome.executionFailures = [failure] ∧ failure.caseId = none

private theorem Tells.wider {events : List HarnessEvent} {outcome : EvalLaneRunOutcome}
    (tells : request.Tells harness qwenExecution events outcome)
    (before after : List HarnessEvent) :
    request.Tells harness qwenExecution (before ++ events ++ after) outcome where
  accepted laneArtifact accepted executable :=
    (tells.accepted laneArtifact accepted executable).mono
    (List.subset_append_of_subset_left _ (List.subset_append_right _ _))
  refused := tells.refused

private theorem admits_tells (request : LaneRequest) (harness : OfflineEvalHarness)
    (qwenExecution : Bool) :
    Admits (request.Tells harness qwenExecution) := fun before after outcome tells =>
  { accepted laneArtifact accepted executable :=
      LaneRun.admits_accounts before after outcome (tells.accepted laneArtifact accepted executable)
    refused := tells.refused }

end LaneRequest

/-- Which failures a lane may raise. -/
def OfflineEvalHarness.Raises (harness : OfflineEvalHarness) (events : List HarnessEvent)
    (failure : EvalException) :
    Prop :=
  harness.artifacts.Authenticated → Bounded failure ∨ failure = .overflowError ∧
    CaseRun.Overflows events

theorem OfflineEvalHarness.Raises.mono {harness : OfflineEvalHarness}
    {before after : List HarnessEvent} {failure : EvalException}
    (raises : harness.Raises before failure) (part : before ⊆ after) :
    harness.Raises after failure := by
  intro authenticated
  rcases raises authenticated with bounded | ⟨overflow, result, last, executed, rest⟩
  · exact .inl bounded
  · exact .inr ⟨overflow, result, last, executed.mono part, rest⟩

theorem OfflineEvalHarness.lenient_raises (harness : OfflineEvalHarness) :
    Lenient harness.Raises where
  admits _ _ _ raises := raises.mono (List.subset_append_right _ _)
  bounded _ _ bounded := fun _ => .inl bounded

section Lanes

variable {harness : OfflineEvalHarness} {invariant : HarnessState → Prop} {request : LaneRequest}
  {qwenExecution : Bool} {laneArtifact : EvalLaneArtifact}

/-- A request that is refused as a whole leaves one failure that names no case. -/
private theorem meets_setupFailed (lane : String) (named : lane ≠ "")
    (found : Option EvalLaneArtifact) (known : found.all (· ∈ harness.artifacts.lanes)) :
    (setupFailed harness request lane found).Meets invariant
      (fun _ outcome => outcome.results = [] ∧ outcome.commandPassed = false ∧
        ∃ failure, outcome.executionFailures = [failure] ∧
        failure.caseId = none) harness.Raises := by
  have lenient := harness.lenient_raises
  unfold setupFailed
  extract_lets scope
  refine (meets_appendFailure lenient harness scope .harnessSetup none none ⟨.harnessSetupFailed,
    rfl, rfl⟩ ?_).andThen
    (admits_constant _) lenient.admits fun failure failed => ?_
  · intro malformed events failure authenticated
    refine absurd ⟨named, fun _ => nofun, ?_⟩ malformed
    apply authenticated.versions none List.mem_cons_self
    cases found with
    | none => exact List.mem_cons_self
    | some lane => exact List.mem_cons_of_mem _ (List.mem_map_of_mem (of_decide_eq_true known))
  · obtain ⟨unnamed, valid⟩ := failed
    apply meets_ofExcept
    rw [constructed_eq_ok_iff.mpr ⟨?_, rfl⟩]
    · exact ⟨rfl, rfl, failure, rfl, unnamed⟩
    · rw [LaneRun.outcomeChecks]
      simp [valid]

/-- Failures alone, one for each case. -/
private theorem meets_casesFailed {run : LaneRun} {selectedIds : List String} (lane : String)
    {phase : EvalExecutionFailurePhase} (coded : phaseHasCode phase none)
    {cases : List EvalCaseArtifact} (selected : ∀ evalCase ∈ cases, evalCase.caseId ∈ selectedIds ∧
      run.harness.artifacts.caseById evalCase.caseId = .ok evalCase) :
    (casesFailed run lane phase cases).Meets invariant (fun _ _ => True)
    (run.Raises selectedIds) := by
  have lenient := run.lenient_raises selectedIds
  have failed (evalCase : EvalCaseArtifact)
      (member : evalCase ∈ cases) : (run.appendFailure (some evalCase) phase none).Meets
      invariant (fun _ failure => FailureOf (some evalCase.caseId) failure)
          (run.Raises selectedIds) :=
    LaneRun.meets_appendFailure_case (selected evalCase member).1
      (selected evalCase member).2 coded none
  unfold casesFailed
  refine (meets_mapM lenient.admits failed).andThen
    (admits_constant _) lenient.admits fun failures aligned => ?_
  · have valid : failures.all validates = true := by
      refine List.all_eq_true.mpr fun failure member => ?_
      obtain ⟨evalCase, -, -, valid⟩ := Keyed.exists_of_forall₂_right aligned member
      exact valid
    apply meets_ofExcept
    rw [constructed_eq_ok_iff.mpr ⟨?_, rfl⟩]
    · trivial
    · rw [LaneRun.outcomeChecks, valid]
      rfl

private theorem LaneRequest.not_accepted_of_found
    (found : harness.artifacts.laneByName request.lane = .ok laneArtifact)
    (invalid : selectionIsValid laneArtifact (request.selectedIds laneArtifact)
      request.scriptRefByCase = false)
    (other : EvalLaneArtifact) : ¬request.Accepted harness qwenExecution other := by
  intro accepted
  obtain rfl := Except.ok.inj (found.symm.trans accepted.found)
  exact Bool.false_ne_true (invalid.symm.trans accepted.selection)

theorem mem_of_selection {selectedIds : List String} {scripts : List (String × String)}
    (valid : selectionIsValid laneArtifact selectedIds scripts = true) :
    selectedIds ≠ [] ∧ selectedIds.Nodup ∧ selectedIds ⊆ laneArtifact.caseRefs := by
  simp only [selectionIsValid, Bool.and_eq_true, Bool.not_eq_true', List.isEmpty_eq_false_iff,
    allDistinct_iff, List.all_eq_true, decide_eq_true_eq] at valid
  exact ⟨valid.1.1.1.1, valid.1.1.2, valid.1.2⟩

/-- The phases of an accepted request raise what the lane may raise. -/
private theorem raises_of_accepted (accepted : request.Accepted harness qwenExecution laneArtifact)
    (events : List HarnessEvent) (failure : EvalException)
    (raises : (request.run harness qwenExecution laneArtifact).Raises
      (request.selectedIds laneArtifact) events failure) :
    harness.Raises events failure := by
  intro authenticated
  obtain ⟨member, named⟩ := LoadedE2E01Artifacts.laneByName_mem accepted.found
  apply raises
  refine LoadedE2E01Artifacts.Authenticated.wellFormed authenticated member ?_ accepted.attempt
    (mem_of_selection accepted.selection).2.2
  show laneArtifact.lane ≠ ""
  rw [named, accepted.lane]
  cases qwenExecution <;> decide

/-- The cases of the selection, each under its identity. -/
theorem case_of_selection {ids : List String} {cases : List EvalCaseArtifact}
    (found : ids.mapM harness.artifacts.caseById = .ok cases) (evalCase : EvalCaseArtifact)
    (member : evalCase ∈ cases) :
    evalCase.caseId ∈ ids ∧ harness.artifacts.caseById evalCase.caseId = .ok evalCase := by
  obtain ⟨caseId, selected, named⟩ := Keyed.exists_of_forall₂_right
    (R := fun caseId evalCase => harness.artifacts.caseById caseId = .ok evalCase)
      (Except.mapM_eq_ok_iff.mp found) member
  rw [LoadedE2E01Artifacts.caseById_caseId named]
  exact ⟨selected, named⟩

private theorem meets_cases (accepted : request.Accepted harness qwenExecution laneArtifact) :
    (Coroutine.ofExcept ((request.selectedIds laneArtifact).mapM harness.artifacts.caseById) :
      Harness (List EvalCaseArtifact)).Meets invariant
        (fun _ cases => (request.selectedIds laneArtifact).mapM harness.artifacts.caseById =
          .ok cases)
        harness.Raises := by
  apply meets_ofExcept
  cases found : (request.selectedIds laneArtifact).mapM harness.artifacts.caseById with
  | ok cases => rfl
  | error failure =>
    intro authenticated
    have member := (LoadedE2E01Artifacts.laneByName_mem accepted.found).1
    obtain ⟨cases, total⟩ :=
      Except.exists_mapM_eq_ok (f := harness.artifacts.caseById) fun caseId selected =>
      authenticated.caseById
        ((authenticated.caseRefs _ member).2 ((mem_of_selection accepted.selection).2.2 selected))
    cases found.symm.trans total

/-- A lane accounts for the cases of an accepted request and refuses every other with one
failure. -/
private theorem meets_runLaneImpl (harness : OfflineEvalHarness) (request : LaneRequest)
    (qwenExecution : Bool) :
    (runLaneImpl harness request qwenExecution).Meets (CacheGood harness)
    (request.Tells harness qwenExecution)
      harness.Raises := by
  have lenient := harness.lenient_raises
  have admits := request.admits_tells harness qwenExecution
  have refuses (lane : String) (named : lane ≠ "") (found : Option EvalLaneArtifact)
      (known : found.all (· ∈ harness.artifacts.lanes))
      (unaccepted : ∀ laneArtifact, ¬request.Accepted harness qwenExecution laneArtifact) :
      (setupFailed harness request lane found).Meets (CacheGood harness)
        (request.Tells harness qwenExecution)
        harness.Raises :=
          (meets_setupFailed lane named found known).weaken fun events outcome refused =>
    { accepted := fun laneArtifact accepted => absurd accepted (unaccepted laneArtifact)
      refused := fun _ => refused }
  have safeLane : (if request.lane = "" then "INVALID_LANE" else request.lane) ≠ "" := by
    split
    · decide
    · next named => exact named
  unfold runLaneImpl
  refine (meets_detached lenient.admits _ _).andThen admits lenient.admits fun copy same => ?_
  rcases copy with _ | evalRunId
  · exact meets_throw (lenient.commandError _)
  obtain rfl := same evalRunId rfl
  dsimp only
  generalize wanted : (if qwenExecution = true then "qwen_baseline" else "offline_gate") = laneName
  split
  · next refused =>
    refine refuses _ safeLane none rfl fun laneArtifact accepted => ?_
    have attempt := accepted.attempt
    simp only [accepted.lane.trans wanted, bne_self_eq_false, Bool.false_or, decide_eq_true_eq]
      at refused
    omega
  next asked =>
  simp only [Bool.or_eq_true, bne_iff_ne, ne_eq, decide_eq_true_eq, not_or, not_not, Nat.not_lt]
    at asked
  obtain ⟨lane, attempt⟩ := asked
  rw [← wanted] at lane
  split
  · next laneArtifact found =>
    have named : request.lane ≠ "" := by
      rw [lane]
      cases qwenExecution <;> decide
    have known := (LoadedE2E01Artifacts.laneByName_mem found).1
    have ids : request.caseIds.getD laneArtifact.caseRefs = request.selectedIds laneArtifact := rfl
    rw [ids]
    split
    · next invalid =>
      rw [Bool.not_eq_true'] at invalid
      exact refuses _ named _ (decide_eq_true known)
        (LaneRequest.not_accepted_of_found found invalid)
    next valid =>
    rw [Bool.not_eq_true', Bool.not_eq_false] at valid
    have accepted : request.Accepted harness qwenExecution laneArtifact :=
      ⟨lane, attempt, found, valid⟩
    obtain ⟨some_, distinct, -⟩ := mem_of_selection valid
    have only (other : EvalLaneArtifact) (also : request.Accepted harness qwenExecution other) :
        other = laneArtifact :=
      Except.ok.inj (also.found.symm.trans found)
    have tells {action : Harness EvalLaneRunOutcome}
        {met : List HarnessEvent → EvalLaneRunOutcome → Prop}
        (meets : action.Meets (CacheGood harness) met
          ((request.run harness qwenExecution laneArtifact).Raises
            (request.selectedIds laneArtifact)))
        (accounts : LaneRequest.Executable harness (request.selectedIds laneArtifact) →
          ∀ events outcome, met events outcome →
          Accounts (request.selectedIds laneArtifact) events outcome) :
        action.Meets (CacheGood harness) (request.Tells harness qwenExecution) harness.Raises :=
      meets.mono (fun events outcome holds =>
        { accepted := fun other also => only other also ▸ fun executable =>
          accounts executable events outcome holds
          refused := fun unaccepted =>
            absurd accepted (unaccepted laneArtifact) }) (raises_of_accepted accepted)
    refine (meets_cases accepted).andThen admits lenient.admits fun cases found => ?_
    have selected := case_of_selection found
    have fails {phase : EvalExecutionFailurePhase} (coded : phaseHasCode phase none)
        (unfit : EvalCaseArtifact → Bool) :
        (casesFailed (request.run harness qwenExecution laneArtifact) request.lane phase
          (cases.filter unfit)).Meets
          (CacheGood harness) (fun _ _ => True)
          ((request.run harness qwenExecution laneArtifact).Raises
              (request.selectedIds laneArtifact)) :=
      meets_casesFailed request.lane coded fun evalCase member =>
        selected evalCase (List.mem_filter.mp member).1
    split
    · next nonexecutable =>
      refine tells (fails ⟨.caseSetupFailed, rfl, rfl⟩ _) fun executable => ?_
      simp only [Bool.not_eq_true', List.isEmpty_eq_false_iff, ne_eq, List.filter_eq_nil_iff,
        not_forall] at nonexecutable
      obtain ⟨evalCase, member, unfit⟩ := nonexecutable
      have fit :=
        executable.lifecycle _ (selected evalCase member).1 evalCase (selected evalCase member).2
      simp [fit] at unfit
    split
    · next alone =>
      refine tells (fails ⟨.resultCompletenessFailed, rfl, rfl⟩ _) fun executable => ?_
      simp only [Bool.and_eq_true, List.any_eq_true, decide_eq_true_eq, Bool.not_eq_true',
        List.all_eq_false] at alone
      obtain ⟨whole, caseId, member, absent⟩ := alone
      exact absurd (executable.pair whole member) absent
    · exact tells (LaneRun.meets_runSelected (request.run harness qwenExecution laneArtifact)
        request.lane distinct some_)
        fun _ _ _ => id
  · next missing =>
    exact refuses _ safeLane none rfl fun laneArtifact accepted =>
      missing laneArtifact accepted.found

/-- `run_lane` returns what its lane told and raises what its lane raised, or the command error. -/
theorem meets_runLane (harness : OfflineEvalHarness) (request : LaneRequest) :
    (runLane harness request).Meets (CacheGood harness)
    (request.Tells harness false) harness.Raises := by
  have lenient := harness.lenient_raises
  have admits := request.admits_tells harness false
  unfold runLane
  refine meets_singletonStateIsClosed.skip admits lenient.admits fun closed => ?_
  extract_lets goOn
  have runs : (goOn ()).Meets (CacheGood harness) (request.Tells harness false) harness.Raises := by
    have told : (some <$> runLaneImpl harness request false).Meets (CacheGood harness)
        (fun events outcome => ∀ value, outcome = some value →
          request.Tells harness false events value)
        harness.Raises := by
      rw [map_eq_pure_bind]
      refine (meets_runLaneImpl harness request false).andUse lenient.admits fun outcome before
          tells =>
        meets_pure fun value same => ?_
      rwa [List.append_nil, ← Option.some.inj same]
    refine Meets.andUse (Meets.tryCatch told fun failure before raises => ?_) lenient.admits
      fun outcome before tells => ?_
    · refine meets_restoreSingletonState.discard.bind fun unit_ after _ => meets_throw ?_
      exact raises.mono (List.subset_append_left _ _)
    suffices same : Meets (CacheGood harness) _
        (fun _ value => outcome = some value) harness.Raises from
      same.weaken fun after value found => (tells value found).wider [] after
    refine meets_singletonStateIsClosed.skip (admits_constant _) lenient.admits fun closed => ?_
    refine meets_restoreSingletonState.skip (admits_constant _) lenient.admits fun restored => ?_
    split
    · split
      · exact meets_pure rfl
      · exact meets_throw (lenient.commandError _)
    · exact meets_throw (lenient.commandError _)
  split
  · have thrown : (throw .commandError : Harness Unit).Meets (CacheGood harness)
        (fun _ _ => False) harness.Raises :=
      meets_throw (lenient.commandError _)
    exact meets_restoreSingletonState.discard.skip admits lenient.admits fun _ =>
      thrown.bind fun _ _ => False.elim
  · exact runs

/-- `run_qwen_baseline` keeps the replay cache good too. -/
theorem meets_runQwenBaseline (harness : OfflineEvalHarness) (request : QwenRequest) :
    (runQwenBaseline harness request).Meets (CacheGood harness) (fun _ _ => True) fun _ _ =>
    True := by
  have allows := admits_constant fun _ : EvalException => True
  have admits := admits_constant fun _ : EvalLaneRunOutcome => True
  have quiet {α : Type} {action : Harness α} (quiet : Quiet action) :
      action.Meets (CacheGood harness) (fun _ _ => True) fun _ _ => True :=
    quiet.meets.mono (fun _ _ _ => trivial) fun _ _ _ => trivial
  have lane : (runQwenBaselineImpl harness request).Meets (CacheGood harness)
      (fun _ _ => True) fun _ _ => True := by
    unfold runQwenBaselineImpl
    refine (quiet (quiet_detached _ _)).skip admits allows fun copy => ?_
    cases copy with
    | none => exact meets_throw trivial
    | some evalRunId =>
      dsimp only
      split
      · refine (quiet (within_mapM fun caseId _ => quiet_qwenPreflight harness request caseId)).skip
          admits allows
          fun preflights => ?_
        split
        · split
          · exact meets_throw trivial
          · exact (meets_runLaneImpl harness _ true).mono (fun _ _ _ => trivial) fun _ _ _ =>
              trivial
        · split
          · exact meets_throw trivial
          · refine (quiet (within_mapM fun entry _ => quiet_appendQwenNotRunRecord entry.1)).skip
              admits allows
              fun results => meets_ofExcept_anything _
      · exact meets_throw trivial
  unfold runQwenBaseline
  refine (quiet quiet_singletonStateIsClosed).skip admits allows fun closed => ?_
  extract_lets goOn
  have runs (unit_ : Unit) : (goOn unit_).Meets (CacheGood harness) (fun _ _ => True) fun _ _ =>
    True := by
    refine Meets.skip (Meets.tryCatch (T := fun _ _ => True) ?_ fun failure before _ =>
      meets_pure trivial) admits allows
      fun outcome => ?_
    · rw [map_eq_pure_bind]
      exact lane.skip (fun _ _ _ => id) allows fun _ => meets_pure trivial
    refine (quiet quiet_singletonStateIsClosed).skip admits allows fun closed => ?_
    refine (quiet quiet_restoreSingletonState).skip admits allows fun restored => ?_
    split
    · split <;> exact meets_throw trivial
    · split
      · exact meets_pure trivial
      · exact meets_throw trivial
  split
  · refine (quiet quiet_discardRestore).skip admits allows fun _ => ?_
    have thrown : (throw .commandError : Harness Unit).Meets (CacheGood harness)
        (fun _ _ => True) fun _ _ => True :=
      meets_throw trivial
    exact thrown.skip admits allows runs
  · exact runs ()

end Lanes

end MiniAgent.Evaluation
