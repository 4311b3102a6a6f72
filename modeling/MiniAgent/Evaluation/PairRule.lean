import MiniAgent.Evaluation.LaneSteps

/-! # The pair rule

A result that is forced to fail is the result with its disclosure graded as failed and everything
that follows from that derived anew; forcing it again changes nothing. After the pair rule a member
of the pair is staged only together with the other, and if the two can be told apart both of them
fail.
-/

namespace MiniAgent.Evaluation

open MiniAgent.Core MiniAgent.Application ContractModel Coroutine Keyed

/-- What is put in the place of a result: the result, unless it is the disclosure grader's. -/
def disclosureFailed (result : EvalGraderResult) : EvalGraderResult :=
  if result.graderName = "DisclosureGrader" then
    { graderName := "DisclosureGrader", status := .fail, reasonCode := some .assertionFailed }
  else result

@[simp] theorem disclosureFailed_graderName (result : EvalGraderResult) :
    (disclosureFailed result).graderName = result.graderName := by
  unfold disclosureFailed
  split
  · next named => exact named.symm
  · rfl

private theorem disclosureFailed_idem (result : EvalGraderResult) :
    disclosureFailed (disclosureFailed result) = disclosureFailed result := by
  unfold disclosureFailed
  split <;> simp_all

private theorem validates_disclosureFailed {result : EvalGraderResult}
    (valid : validates result = true) :
    validates (disclosureFailed result) = true := by
  unfold disclosureFailed
  split
  · rfl
  · exact valid

variable {record forced : EvalResultRecord} {expectations : EvalCaseExpectations}

private theorem forceDisclosureFailure_eq_ok_iff :
    forceDisclosureFailure record expectations = .ok forced ↔
    (∃ result ∈ record.graderResults, result.graderName = "DisclosureGrader") ∧ ∃ outcome,
      deriveGradingOutcome (record.graderResults.map disclosureFailed) expectations = .ok outcome ∧
      validates forced = true ∧ forced = { record with
        status := outcome.status
        graderResults := outcome.graderResults
        criticalFailures := outcome.criticalFailures } := by
  have replaced : (record.graderResults.map fun result =>
      if result.graderName = "DisclosureGrader" then
      { graderName := "DisclosureGrader", status := .fail, reasonCode := some .assertionFailed }
        else result) =
      record.graderResults.map disclosureFailed := rfl
  simp only [forceDisclosureFailure, replaced, Except.bind_eq_ok_iff, Except.require_eq_ok_iff,
    constructed_eq_ok_iff, List.any_eq_true, beq_iff_eq]
  constructor
  · rintro ⟨-, present, outcome, derived, valid, rfl⟩
    exact ⟨present, outcome, derived, valid, rfl⟩
  · rintro ⟨present, outcome, derived, valid, rfl⟩
    exact ⟨(), present, outcome, derived, valid, rfl⟩

/-- What forcing a failure leaves: a failed record whose results were replaced. -/
private theorem forced_spec (made : forceDisclosureFailure record expectations = .ok forced) :
    forced.status = .fail ∧ forced.graderResults = record.graderResults.map disclosureFailed ∧
      validates forced = true ∧ deriveGradingOutcome forced.graderResults expectations =
        .ok ⟨forced.status, forced.graderResults, forced.criticalFailures⟩ := by
  obtain ⟨⟨result, member, named⟩, outcome, derived, valid, rfl⟩ :=
    forceDisclosureFailure_eq_ok_iff.mp made
  have results : outcome.graderResults = record.graderResults.map disclosureFailed := by
    obtain ⟨-, -, -, rfl⟩ := deriveGradingOutcome_eq_ok_iff.mp derived
    rfl
  have failed : (disclosureFailed result).status = .fail := by rw [disclosureFailed, if_pos named]
  refine ⟨status_of_failed derived (List.mem_map_of_mem member) failed, results, valid, ?_⟩
  rw [results]
  rw [derived, ← results]

/-- A forced result is forced already. -/
theorem forceDisclosureFailure_forced
    (made : forceDisclosureFailure record expectations = .ok forced) :
    forceDisclosureFailure forced expectations = .ok forced := by
  obtain ⟨-, results, valid, derived⟩ := forced_spec made
  obtain ⟨⟨result, member, named⟩, -⟩ := forceDisclosureFailure_eq_ok_iff.mp made
  have again : forced.graderResults.map disclosureFailed = forced.graderResults := by
    rw [results, List.map_map]
    exact List.map_congr_left fun other _ => disclosureFailed_idem other
  refine forceDisclosureFailure_eq_ok_iff.mpr ⟨⟨disclosureFailed result, ?_, ?_⟩,
    ⟨forced.status, forced.graderResults, forced.criticalFailures⟩, ?_, valid, rfl⟩
  · rw [results]
    exact List.mem_map_of_mem member
  · rw [disclosureFailed_graderName, named]
  · rw [again, derived]

private theorem executed_of_derived {outcome : GradingOutcome}
    (derived : deriveGradingOutcome record.graderResults expectations = .ok outcome)
    (same : record.status = outcome.status) (valid : validates record = true) :
    record.observedOutcome.isSome = true ∧ record.traceRef.isSome = true := by
  obtain ⟨-, -, -, rfl⟩ := deriveGradingOutcome_eq_ok_iff.mp derived
  simp only [resultChecks, Bool.and_eq_true, EvalResultRecord.lifecycleIsConsistent] at valid
  obtain ⟨-, -, consistent⟩ := valid
  rw [same] at consistent
  dsimp only at consistent
  split at consistent <;> grind

/-- A staged case whose disclosure was graded can be forced to fail. -/
private theorem forceDisclosureFailure_total {outcome : GradingOutcome}
    (derived : deriveGradingOutcome record.graderResults expectations = .ok outcome)
    (same : record.status = outcome.status) (valid : validates record = true)
    (present : ∃ result ∈ record.graderResults, result.graderName = "DisclosureGrader") :
    ∃ forced, forceDisclosureFailure record expectations = .ok forced := by
  obtain ⟨observed, traced⟩ := executed_of_derived derived same valid
  obtain ⟨some_, distinct, known, -⟩ := deriveGradingOutcome_eq_ok_iff.mp derived
  have names : (record.graderResults.map disclosureFailed).map (·.graderName) =
      record.graderResults.map (·.graderName) := by
    rw [List.map_map]
    exact List.map_congr_left fun result _ => disclosureFailed_graderName result
  obtain ⟨replaced, again⟩ : ∃ replaced,
      deriveGradingOutcome (record.graderResults.map disclosureFailed) expectations =
      .ok replaced :=
    ⟨_, deriveGradingOutcome_eq_ok_iff.mpr ⟨by simpa using some_,
      names ▸ distinct, by simpa using known, rfl⟩⟩
  have results : replaced.graderResults = record.graderResults.map disclosureFailed ∧
      replaced.criticalFailures.Nodup := by
    obtain ⟨-, -, -, rfl⟩ := deriveGradingOutcome_eq_ok_iff.mp again
    exact ⟨rfl, deriveCriticalFailures_nodup _ _⟩
  refine ⟨_, forceDisclosureFailure_eq_ok_iff.mpr ⟨present, _, again, ?_, rfl⟩⟩
  have consistent := lifecycleIsConsistent_of_derived again
  simp only [resultChecks, Bool.and_eq_true, allDistinct_iff, List.all_eq_true, results.1]
    at valid ⊢
  obtain ⟨⟨⟨⟨⟨schemaAndIds, reports⟩, versions⟩, completed⟩, -⟩, -⟩ := valid.1
  refine ⟨⟨⟨⟨⟨⟨schemaAndIds, ?_⟩, versions⟩, completed⟩, names ▸ distinct⟩, results.2⟩, ?_⟩
  · exact List.forall_mem_map.mpr fun result member =>
      validates_disclosureFailed (reports result member)
  · exact consistent _ rfl results.1.symm rfl observed traced

section Stages

variable {harness : OfflineEvalHarness} {evalRunId : Uuid} {lane : String} {attempt : ℕ}
  {caseId : String}
  {stage other : StagedCase}

theorem StagedCase.forced_eq_ok_iff : stage.forced = .ok other ↔
    ∃ result, forceDisclosureFailure stage.result stage.expectations = .ok result ∧
    other = { stage with result } := by
  simp only [StagedCase.forced, Except.bind_eq_ok_iff, Except.pure_eq_ok_iff]
  exact exists_congr fun result => and_congr_right fun _ => eq_comm

/-- A forced stage is a stage of the same case. -/
private theorem StageGood.of_forced (good : StageGood harness evalRunId lane attempt caseId stage)
    (made : stage.forced = .ok other) : StageGood harness evalRunId lane attempt caseId other := by
  obtain ⟨result, forced, rfl⟩ := StagedCase.forced_eq_ok_iff.mp made
  obtain ⟨-, results, valid, derived⟩ := forced_spec forced
  have names : (result.graderResults.map (ofText ·.graderName)) =
      stage.result.graderResults.map (ofText ·.graderName) := by
    rw [results, List.map_map]
    exact List.map_congr_left fun report _ => congrArg ofText (disclosureFailed_graderName report)
  obtain ⟨-, outcome, -, -, rfl⟩ := forceDisclosureFailure_eq_ok_iff.mp forced
  exact {
    evalCase := good.evalCase
    resultCase := good.resultCase
    resultRun := good.resultRun
    resultLane := good.resultLane
    resultAttempt := good.resultAttempt
    valid
    graders := names ▸ good.graders
    derived }

private theorem StageGood.forced_total
    (good : StageGood harness evalRunId lane attempt caseId stage)
    (disclosure : ∀ names, elementsAt stage.evalCase.grading "graders" = .ok names →
      ofText "DisclosureGrader" ∈ names) :
    ∃ other, stage.forced = .ok other := by
  obtain ⟨result, member, named⟩ := List.mem_map.mp (disclosure _ good.graders)
  obtain ⟨forced, made⟩ := forceDisclosureFailure_total good.derived rfl good.valid
    ⟨result, member, ofText_injective named⟩
  exact ⟨_, StagedCase.forced_eq_ok_iff.mpr ⟨forced, made, rfl⟩⟩

end Stages

/-- What may be observed of the staged cases of the pair. -/
def pairObservables (staging : Staging) : List (String × SafeCaseObservable) :=
  pairIds.filterMap fun caseId => (staging.staged.lookup caseId).map fun stage =>
    (caseId, stage.safeObservable)

/-- What the rule does to one staged case of a pair that can be told apart. -/
def settledStage (entry : String × StagedCase) : Except EvalException (String × StagedCase) :=
  if entry.1 ∈ pairIds then (entry.1, ·) <$> entry.2.forced else .ok entry

theorem failDistinguishable_eq (staging : Staging) : failDistinguishable staging =
    if safeObservablesMatch (pairObservables staging) then .ok staging
    else ({ staging with staged := · }) <$> staging.staged.mapM settledStage := by
  unfold failDistinguishable
  extract_lets pair
  have observed : pair = pairObservables staging := rfl
  rw [observed]
  cases safeObservablesMatch (pairObservables staging) with
  | true => rfl
  | false =>
    have each (entry : String × StagedCase) : (do
        if entry.1 ∈ pairIds then return (entry.1, ← entry.2.forced)
          else return (entry.1, entry.2) :
          Except EvalException (String × StagedCase)) = settledStage entry := by
      unfold settledStage
      split
      · rw [map_eq_pure_bind]
      · rfl
    simp only [Bool.false_eq_true, if_false, each, map_eq_pure_bind]

theorem settledStage_eq_ok_iff {entry settled : String × StagedCase} :
    settledStage entry = .ok settled ↔
    settled.1 = entry.1 ∧ if entry.1 ∈ pairIds then entry.2.forced = .ok settled.2
    else settled.2 = entry.2 := by
  obtain ⟨caseId, stage⟩ := settled
  unfold settledStage
  split
  · rw [map_eq_pure_bind, Except.bind_eq_ok_iff]
    simp only [Except.pure_eq_ok_iff, Prod.mk.injEq]
    grind
  · simp only [Except.ok.injEq, Prod.ext_iff]
    grind

namespace LaneRun

variable {run : LaneRun} {selectedIds : List String} {staging settled : Staging}

/-- What the pair rule leaves of the staged cases. -/
structure PairSettled (run : LaneRun) (selectedIds : List String) (staging settled : Staging) :
    Prop where
  good : run.StagingGood settled
  replayKeys : settled.replayKeys = staging.replayKeys
  accounts : (accounted settled).Perm (accounted staging)
  alone : pairIds ⊆ selectedIds → (∃ caseId ∈ pairIds, caseId ∉ staging.staged.map (·.1)) →
    ∀ caseId ∈ pairIds, caseId ∉ settled.staged.map (·.1)
  apart : pairIds ⊆ selectedIds → pairIds ⊆ staging.staged.map (·.1) →
    safeObservablesMatch (pairObservables staging) = false →
      ∀ entry ∈ settled.staged, entry.1 ∈ pairIds → entry.2.result.status = .fail

/-- Both members are staged: each stays, forced to fail if they can be told apart. -/
private theorem pairSettled_of_failDistinguishable (good : run.StagingGood staging)
    (both : pairIds ⊆ staging.staged.map (·.1)) (made : failDistinguishable staging = .ok settled) :
    run.PairSettled selectedIds staging settled := by
  have notAlone {kept : Prop} (some_ : ∃ caseId ∈ pairIds, caseId ∉ staging.staged.map (·.1)) :
      kept := by
    obtain ⟨caseId, member, absent⟩ := some_
    exact absurd (both member) absent
  rw [failDistinguishable_eq] at made
  split at made
  · next match_ =>
    obtain rfl := Except.ok.inj made
    exact ⟨good, rfl, .refl _, fun _ => notAlone,
      fun _ _ differ => absurd match_ (Bool.eq_false_iff.mp differ)⟩
  · rw [map_eq_pure_bind, Except.bind_eq_ok_iff] at made
    obtain ⟨staged, made, same⟩ := made
    obtain rfl := Except.pure_eq_ok_iff.mp same
    have aligned := Except.mapM_eq_ok_iff.mp made
    have keys : staged.map (·.1) = staging.staged.map (·.1) :=
      (map_eq_map_of_forall₂ aligned fun entry other step =>
        (settledStage_eq_ok_iff.mp step).1.symm).symm
    have each (entry : String × StagedCase) (member : entry ∈ staged) : ∃ before ∈ staging.staged,
        settledStage before = .ok entry :=
      exists_of_forall₂_right
        (R := fun before after => settledStage before = .ok after) aligned member
    refine ⟨⟨?_, good.replayKeys, good.failures⟩, rfl, ?_, fun _ => notAlone, ?_⟩
    · intro entry member
      obtain ⟨before, earlier, step⟩ := each entry member
      obtain ⟨sameCase, stage⟩ := settledStage_eq_ok_iff.mp step
      rw [sameCase]
      split at stage
      · exact (good.staged before earlier).of_forced stage
      · exact stage ▸ good.staged before earlier
    · have named : staged.map (some ·.1) = staging.staged.map (some ·.1) := by
        simpa only [List.map_map, Function.comp_def] using congrArg (List.map some) keys
      simp only [accounted, named]
      exact .refl _
    · intro _ _ _ entry member inPair
      obtain ⟨before, earlier, step⟩ := each entry member
      obtain ⟨sameCase, stage⟩ := settledStage_eq_ok_iff.mp step
      rw [if_pos (sameCase ▸ inPair)] at stage
      obtain ⟨result, forced, same⟩ := StagedCase.forced_eq_ok_iff.mp stage
      rw [same]
      exact (forced_spec forced).1

private theorem failDistinguishable_total (good : run.StagingGood staging)
    (wellFormed : run.WellFormed selectedIds) :
    ∃ settled, failDistinguishable staging = .ok settled := by
  have each (entry : String × StagedCase) (member : entry ∈ staging.staged) : ∃ settled,
      settledStage entry = .ok settled := by
    have stageGood := good.staged entry member
    by_cases inPair : entry.1 ∈ pairIds
    · obtain ⟨other, made⟩ :=
        stageGood.forced_total (wellFormed.disclosure entry.1 inPair _ stageGood.evalCase)
      exact ⟨(entry.1, other), settledStage_eq_ok_iff.mpr ⟨rfl, by rwa [if_pos inPair]⟩⟩
    · exact ⟨entry, settledStage_eq_ok_iff.mpr ⟨rfl, by rw [if_neg inPair]⟩⟩
  rw [failDistinguishable_eq]
  split
  · exact ⟨staging, rfl⟩
  · obtain ⟨staged, made⟩ := Except.exists_mapM_eq_ok each
    exact ⟨{ staging with staged }, by rw [made]; rfl⟩

/-- One member is staged without the other: it leaves a failure. -/
private theorem pairSettled_of_dropped {entry : String × StagedCase}
    {failure : EvalExecutionFailureRecord} (good : run.StagingGood staging)
    (distinct : (staging.staged.map (·.1)).Nodup) (staged : entry ∈ staging.staged)
    (inPair : entry.1 ∈ pairIds) (notBoth : ∃ caseId ∈ pairIds, caseId ∉ staging.staged.map (·.1))
    (failed : FailureOf (some entry.1) failure) :
    run.PairSettled selectedIds staging { staging with
      staged := staging.staged.filter (·.1 != entry.1), failures :=
      staging.failures ++ [failure] } := by
  obtain ⟨named, valid⟩ := failed
  refine ⟨⟨?_, good.replayKeys, ?_⟩, rfl, ?_, ?_, ?_⟩
  · exact fun other member => good.staged other (List.mem_filter.mp member).1
  · intro other member
    rcases List.mem_append.mp member with earlier | added
    · exact good.failures other earlier
    · obtain rfl := List.mem_singleton.mp added
      exact valid
  · have only := filter_key_eq_singleton distinct staged
    have parts :=
      (List.filter_append_perm (fun other : String × StagedCase => other.1 == entry.1)
        staging.staged).map
      (some ·.1)
    rw [only] at parts
    simp only [accounted, List.map_append, List.map_cons, List.map_nil, named]
    refine .trans ?_ (parts.append_right _)
    simp only [List.map_cons, bne, List.cons_append, List.nil_append, ← List.append_assoc]
    exact List.perm_append_singleton _ _
  · intro _ _ caseId member listed
    obtain ⟨other, kept, rfl⟩ := List.mem_map.mp listed
    obtain ⟨stagedToo, differs⟩ := List.mem_filter.mp kept
    obtain ⟨absent, absentInPair, notStaged⟩ := notBoth
    have first : absent ≠ entry.1 := fun same => notStaged (same ▸ List.mem_map_of_mem staged)
    have second : absent ≠ other.1 := fun same => notStaged (same ▸ List.mem_map_of_mem stagedToo)
    rw [bne_iff_ne] at differs
    simp only [pairIds, List.mem_cons, List.not_mem_nil, or_false] at inPair member absentInPair
    grind
  · intro _ both
    obtain ⟨absent, absentInPair, notStaged⟩ := notBoth
    exact absurd (both absentInPair) notStaged

private theorem meets_dropAlone (good : run.StagingGood staging)
    (distinct : (staging.staged.map (·.1)).Nodup) (selected : pairIds ⊆ selectedIds)
    (notBoth : ∃ caseId ∈ pairIds, caseId ∉ staging.staged.map (·.1)) :
    (dropAlone run staging).Meets (CacheGood run.harness)
      (fun _ settled => run.PairSettled selectedIds staging settled) (run.Raises selectedIds) := by
  unfold dropAlone
  split
  · next none =>
    have unstaged (caseId : String) (member : caseId ∈ pairIds) :
        caseId ∉ staging.staged.map (·.1) := by
      intro listed
      obtain ⟨entry, staged, rfl⟩ := List.mem_map.mp listed
      exact absurd (decide_eq_true member) (List.find?_eq_none.mp none entry staged)
    obtain ⟨absent, absentInPair, notStaged⟩ := notBoth
    exact meets_pure ⟨good, rfl, .refl _, fun _ _ => unstaged,
      fun _ both => absurd (both absentInPair) notStaged⟩
  · next caseId stage found =>
    have staged := List.mem_of_find?_eq_some found
    have inPair : caseId ∈ pairIds := by simpa using List.find?_some found
    have stageGood := good.staged _ staged
    refine (meets_appendFailure_case (selected inPair) stageGood.evalCase
      ⟨.resultCompletenessFailed, rfl, rfl⟩ _).andThen (admits_constant _)
      (run.lenient_raises selectedIds).admits fun failure failed => meets_pure ?_
    exact pairSettled_of_dropped good distinct staged inPair notBoth failed

/-- After the pair rule the pair is staged together or not at all. -/
theorem meets_applyPairRule (good : run.StagingGood staging)
    (distinct : (staging.staged.map (·.1)).Nodup) :
    (applyPairRule run selectedIds staging).Meets (CacheGood run.harness)
      (fun _ settled => run.PairSettled selectedIds staging settled) (run.Raises selectedIds) := by
  unfold applyPairRule
  split
  · next selected =>
    have selectedPair : pairIds ⊆ selectedIds := fun caseId member =>
      of_decide_eq_true (List.all_eq_true.mp selected caseId member)
    split
    · next both =>
      have stagedPair : pairIds ⊆ staging.staged.map (·.1) := fun caseId member =>
        of_decide_eq_true (List.all_eq_true.mp both caseId member)
      apply meets_ofExcept
      cases made : failDistinguishable staging with
      | ok settled => exact pairSettled_of_failDistinguishable good stagedPair made
      | error failure =>
        intro wellFormed
        obtain ⟨settled, total⟩ := failDistinguishable_total good wellFormed
        cases made.symm.trans total
    · next notBoth =>
      refine meets_dropAlone good distinct selectedPair ?_
      simpa only [List.all_eq_true, not_forall, exists_prop, decide_eq_true_eq] using notBoth
  · next unselected =>
    have notSelected : ¬pairIds ⊆ selectedIds := fun selected => unselected <|
      List.all_eq_true.mpr fun caseId member => decide_eq_true (selected member)
    exact meets_pure ⟨good, rfl, .refl _, fun selected => absurd selected notSelected,
      fun selected => absurd selected notSelected⟩

end LaneRun

end MiniAgent.Evaluation
