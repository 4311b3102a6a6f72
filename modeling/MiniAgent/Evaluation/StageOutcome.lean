import MiniAgent.Evaluation.HarnessSteps

/-! # What staging a case comes to

A staged case was executed under the identity that its result carries, was graded on the reported
Trace by all configured graders but one and on the reloaded Trace by that one; a case that was not
staged left a failure under its identity. Which failures the stage may raise is part of the same
walk through it.
-/

namespace MiniAgent.Evaluation

open MiniAgent.Core MiniAgent.Application ContractModel Coroutine

/-- The name of the grader that judges the reloaded Trace. -/
def completenessName : Json := ofText "TraceCompletenessGrader"

/-- What the authenticated artifacts say of a case that is run. -/
structure CaseRun.WellFormed (run : CaseRun) : Prop where
  caseId : run.evalCase.caseId ≠ ""
  lane : run.laneArtifact.lane ≠ ""
  attempt : 1 ≤ run.attempt
  versions : ∃ manifest, versionManifest run.harness.artifacts (some run.evalCase)
    (some run.laneArtifact) = .ok manifest
  graders : ∃ names, elementsAt run.evalCase.grading "graders" = .ok names

section StageResult

variable {run : CaseRun} {expectations : EvalCaseExpectations} {configuredNames : List Json}
  {evidence : EvalEvidence} {finalEvidence : EvalEvidence} {safeObservable : SafeCaseObservable}
  {initial final : GradingOutcome} {stage : StagedCase}

/-- The results of a grading are the registered reports under the configured names. -/
private theorem results_of_graded {names : List Json} {outcome : GradingOutcome}
    (graded : gradeEvidence names evidence expectations = .ok outcome) : ∃ graders : List Grader,
      names = graders.map (ofText ·.name) ∧ graders.Nodup ∧
        outcome.graderResults = graders.map (·.grade evidence expectations) := by
  obtain ⟨graders, same, -, distinct, derived⟩ := gradeEvidence_eq_ok_iff.mp graded
  obtain ⟨-, -, -, rfl⟩ := deriveGradingOutcome_eq_ok_iff.mp derived
  exact ⟨graders, same, distinct, rfl⟩

private theorem names_of_graded {names : List Json} {outcome : GradingOutcome}
    (graded : gradeEvidence names evidence expectations = .ok outcome) :
    outcome.graderResults.map (ofText ·.graderName) = names := by
  obtain ⟨graders, rfl, -, results⟩ := results_of_graded graded
  rw [results, List.map_map]
  exact List.map_congr_left fun grader _ => congrArg ofText (Grader.grade_graderName ..)

/-- The two gradings of a case: all configured graders but one on its evidence, that one on the
final evidence. -/
structure GradedTwice (expectations : EvalCaseExpectations) (configuredNames : List Json)
    (evidence finalEvidence : EvalEvidence) (initial final : GradingOutcome) : Prop where
  completenessOnce : configuredNames.count completenessName = 1
  initialGrading : gradeEvidence
    (configuredNames.filter (· != completenessName)) evidence expectations = .ok initial
  finalGrading : gradeEvidence [completenessName] finalEvidence expectations = .ok final

/-- The result that a configured name stands for. -/
def resultOfName (evidence finalEvidence : EvalEvidence) (expectations : EvalCaseExpectations)
    (grader : Grader) :
    EvalGraderResult :=
  grader.grade (if grader = .traceCompleteness then finalEvidence else evidence) expectations

private theorem exists_map_eq {names : List Json}
    (registered : ∀ name ∈ names, ∃ grader : Grader, name = ofText grader.name) :
    ∃ graders : List Grader, names = graders.map (ofText ·.name) := by
  induction names with
  | nil => exact ⟨[], rfl⟩
  | cons name rest ih =>
    obtain ⟨⟨grader, rfl⟩, others⟩ := List.forall_mem_cons.mp registered
    obtain ⟨graders, rfl⟩ := ih others
    exact ⟨grader :: graders, rfl⟩

/-- The configured names are distinct names of registered graders. -/
theorem GradedTwice.registered
    (graded : GradedTwice expectations configuredNames evidence finalEvidence initial final) :
    ∃ graders : List Grader, configuredNames = graders.map (ofText ·.name) ∧ graders.Nodup ∧
    graders ≠ [] := by
  obtain ⟨others, same, distinct, -⟩ := results_of_graded graded.initialGrading
  have each (name : Json) (member : name ∈ configuredNames) : ∃ grader : Grader,
      name = ofText grader.name := by
    by_cases complete : name = completenessName
    · exact ⟨.traceCompleteness, complete⟩
    · have kept : name ∈ configuredNames.filter (· != completenessName) :=
        List.mem_filter.mpr ⟨member, bne_iff_ne.mpr complete⟩
      rw [same] at kept
      obtain ⟨grader, -, named⟩ := List.mem_map.mp kept
      exact ⟨grader, named.symm⟩
  have once : configuredNames.Nodup := by
    refine List.nodup_iff_count_le_one.mpr fun name => ?_
    by_cases complete : name = completenessName
    · exact complete ▸ graded.completenessOnce.le
    · have kept : (configuredNames.filter (· != completenessName)).Nodup := by
        rw [same]
        exact distinct.map (ofText_injective.comp name_injective)
      have differs : (name != completenessName) = true := bne_iff_ne.mpr complete
      rw [← List.count_filter (p := (· != completenessName)) differs]
      exact List.nodup_iff_count_le_one.mp kept name
  obtain ⟨graders, rfl⟩ := exists_map_eq each
  refine ⟨graders, rfl, once.of_map, ?_⟩
  rintro rfl
  exact absurd graded.completenessOnce (by decide)

/-- In the configured order every name has the report of its grader, on the evidence that grader
judges. -/
theorem GradedTwice.inOrder
    (graded : GradedTwice expectations configuredNames evidence finalEvidence initial final) :
    ∃ graders : List Grader, configuredNames = graders.map (ofText ·.name) ∧ graders.Nodup ∧
    graders ≠ [] ∧ resultsInOrder configuredNames (initial.graderResults ++ final.graderResults) =
        .ok (graders.map (resultOfName evidence finalEvidence expectations)) := by
  obtain ⟨graders, same, distinct, some_⟩ := graded.registered
  obtain ⟨others, otherNames, -, otherResults⟩ := results_of_graded graded.initialGrading
  obtain ⟨last, lastNames, -, lastResults⟩ := results_of_graded graded.finalGrading
  have keys : ((initial.graderResults ++ final.graderResults).map (ofText ·.graderName)).Nodup := by
    rw [List.map_append, names_of_graded graded.initialGrading, names_of_graded graded.finalGrading]
    have once : configuredNames.Nodup := by
      rw [same]
      exact distinct.map (ofText_injective.comp name_injective)
    refine List.nodup_append'.mpr ⟨once.filter _, List.nodup_singleton _, ?_⟩
    refine List.disjoint_singleton.mpr fun listed => ?_
    simpa using (List.mem_filter.mp listed).2
  have reported (grader : Grader)
      (member : grader ∈ graders) : resultOfName evidence finalEvidence expectations grader ∈
      initial.graderResults ++ final.graderResults := by
    rw [List.mem_append, resultOfName]
    by_cases complete : grader = .traceCompleteness
    · subst complete
      obtain ⟨other, listed, named⟩ :=
        List.mem_map.mp (lastNames ▸ List.mem_singleton_self completenessName)
      obtain rfl : other = .traceCompleteness := name_injective (ofText_injective named)
      rw [if_pos rfl, lastResults]
      exact .inr (List.mem_map_of_mem listed)
    · have kept : ofText grader.name ∈ configuredNames.filter (· != completenessName) := by
        refine List.mem_filter.mpr ⟨same ▸ List.mem_map_of_mem member,
          bne_iff_ne.mpr fun equal => complete ?_⟩
        exact name_injective (ofText_injective equal)
      rw [otherNames] at kept
      obtain ⟨other, listed, named⟩ := List.mem_map.mp kept
      obtain rfl : other = grader := name_injective (ofText_injective named)
      rw [if_neg complete, otherResults]
      exact .inl (List.mem_map_of_mem listed)
  refine ⟨graders, same, distinct, some_, ?_⟩
  rw [resultsInOrder, same, Except.mapM_eq_ok_iff, List.forall₂_map_left_iff,
    List.forall₂_map_right_iff, List.forall₂_same]
  intro grader member
  have found := Keyed.lastByKey_of_mem keys (reported grader member)
  rw [resultOfName, Grader.grade_graderName] at found
  rw [found]
  rfl

/-- The record of the graded case, and what may be observed of it. -/
theorem stageResult_eq_ok
    (graded : GradedTwice expectations configuredNames evidence finalEvidence initial final)
    (staged : stageResult run expectations configuredNames
      (initial.graderResults ++ final.graderResults)
      finalEvidence safeObservable = .ok stage) : ∃ graders : List Grader,
    configuredNames = graders.map (ofText ·.name) ∧ graders.Nodup ∧ graders ≠ [] ∧
    stage.evalCase = run.evalCase ∧
      stage.expectations = expectations ∧ validates stage.result = true ∧
      stage.result.evalRunId = run.evalRunId ∧
      stage.result.caseId = run.evalCase.caseId ∧ stage.result.lane = run.laneArtifact.lane ∧
      stage.result.attempt = run.attempt ∧ stage.result.traceRef = some finalEvidence.traceRef ∧
      stage.safeObservable.caseId = run.evalCase.caseId ∧
      deriveGradingOutcome
      (graders.map (resultOfName evidence finalEvidence expectations)) expectations =
        .ok ⟨stage.result.status, stage.result.graderResults, stage.result.criticalFailures⟩ := by
  obtain ⟨graders, same, distinct, some_, ordered⟩ := graded.inOrder
  simp only [stageResult, ordered, Except.bind_ok, Except.bind_eq_ok_iff, constructed_eq_ok_iff,
    Except.pure_eq_ok_iff] at staged
  obtain ⟨grading, derived, manifest, -, last, -, result, ⟨valid, rfl⟩, observable, ⟨-, rfl⟩,
    rfl⟩ := staged
  exact ⟨graders, same, distinct, some_, rfl, rfl, valid, rfl, rfl, rfl, rfl, rfl, rfl, derived⟩

private theorem validates_report (grader : Grader) (verdict : Verdict) :
    validates (grader.report verdict) = true := by
  cases grader <;> cases verdict <;> rfl

private theorem validates_resultOfName (grader : Grader) :
    validates (resultOfName evidence finalEvidence expectations grader) = true :=
  validates_report _ _

private theorem name_nodup {graders : List Grader} (distinct : graders.Nodup) :
    ((graders.map (resultOfName evidence finalEvidence expectations)).map
      (·.graderName)).Nodup := by
  have names : (graders.map (resultOfName evidence finalEvidence expectations)).map (·.graderName) =
      graders.map Grader.name := by
    rw [List.map_map]
    exact List.map_congr_left fun grader _ => Grader.grade_graderName ..
  rw [names]
  exact distinct.map name_injective

private theorem derives_of_graders {graders : List Grader} (distinct : graders.Nodup)
    (some_ : graders ≠ []) :
    ∃ outcome, deriveGradingOutcome
    (graders.map (resultOfName evidence finalEvidence expectations)) expectations =
      .ok outcome := by
  refine ⟨_, deriveGradingOutcome_eq_ok_iff.mpr ⟨?_, name_nodup distinct, ?_, rfl⟩⟩
  · exact fun none => some_ (List.map_eq_nil_iff.mp none)
  · refine List.forall_mem_map.mpr fun grader _ => ?_
    rw [resultOfName, Grader.grade_graderName, Grader.named_name]
    rfl

/-- A record of a derived outcome is consistent. -/
theorem lifecycleIsConsistent_of_derived {results : List EvalGraderResult}
    {outcome : GradingOutcome} (derived : deriveGradingOutcome results expectations = .ok outcome)
    (record : EvalResultRecord) (statusSame : record.status = outcome.status)
    (resultsSame : record.graderResults = outcome.graderResults)
    (failuresSame : record.criticalFailures = outcome.criticalFailures)
    (observed : record.observedOutcome.isSome) (traced : record.traceRef.isSome) :
    record.lifecycleIsConsistent = true := by
  obtain ⟨some_, -, -, rfl⟩ := deriveGradingOutcome_eq_ok_iff.mp derived
  have failed : results.any (·.status == .fail) = !results.all (·.status != .fail) := by
    rw [List.all_eq_not_any_not, Bool.not_not]
    simp only [bne, Bool.not_not]
  have present : results.isEmpty = false := by simpa using some_
  simp only [EvalResultRecord.lifecycleIsConsistent, EvalResultRecord.anyGraderFailed, statusSame,
    resultsSame, failuresSame, observed, traced, failed, present]
  cases (deriveCriticalFailures results expectations).isEmpty <;>
    cases results.all (·.status != .fail) <;> rfl

private theorem validates_ordinaryTraceShape (counted events : List TraceEvent) :
    ∀ entry ∈ shapeAfter counted events, validates entry = true := by
  induction events generalizing counted with
  | nil => exact List.forall_mem_nil _
  | cons event rest ih =>
    refine List.forall_mem_cons.mpr ⟨?_, ih _⟩
    have counts : 1 ≤ (counted ++ [event]).countP (·.eventType == event.eventType) := by
      rw [List.countP_append, List.countP_singleton]
      simp
    exact decide_eq_true counts

theorem resultChecks (result : EvalResultRecord) : validates result = (result.schemaVersion != "" &&
    result.caseId != "" && result.lane != "" && decide (1 ≤ result.attempt) &&
    result.graderResults.all validates && validates result.versionManifest &&
    result.completedAt.requireUtc &&
    allDistinct (result.graderResults.map (·.graderName)) && allDistinct result.criticalFailures &&
    result.lifecycleIsConsistent) := rfl

private theorem observableChecks (observable : SafeCaseObservable) : validates observable =
    (decide (100 ≤ observable.httpStatus) && decide (observable.httpStatus ≤ 599) &&
      observable.ordinaryTraceShape.all validates) := rfl

/-- A case that was graded twice has a record, if the artifacts say what they have to. -/
private theorem stageResult_total
    (graded : GradedTwice expectations configuredNames evidence finalEvidence initial final)
    (wellFormed : run.WellFormed) (observable : validates safeObservable = true)
    (some_ : finalEvidence.traceEvents ≠ []) :
    ∃ stage, stageResult run expectations configuredNames
    (initial.graderResults ++ final.graderResults)
      finalEvidence safeObservable = .ok stage := by
  obtain ⟨graders, -, distinct, present, ordered⟩ := graded.inOrder
  obtain ⟨grading, derived⟩ : ∃ outcome, deriveGradingOutcome (graders.map
      (resultOfName evidence finalEvidence expectations)) expectations = .ok outcome :=
    derives_of_graders distinct present
  obtain ⟨manifest, versions⟩ := wellFormed.versions
  obtain ⟨last, latestOf⟩ : ∃ last, latest finalEvidence.traceEvents = .ok last := by
    obtain ⟨event, events, same⟩ := List.exists_cons_of_ne_nil some_
    rw [latest, same]
    exact ⟨_, rfl⟩
  simp only [stageResult, ordered, derived, versions, latestOf, Except.bind_ok,
    Except.bind_eq_ok_iff, constructed_eq_ok_iff, Except.pure_eq_ok_iff]
  have results :
      grading.graderResults = graders.map (resultOfName evidence finalEvidence expectations) := by
    obtain ⟨-, -, -, rfl⟩ := deriveGradingOutcome_eq_ok_iff.mp derived
    rfl
  have failures : grading.criticalFailures.Nodup := by
    obtain ⟨-, -, -, rfl⟩ := deriveGradingOutcome_eq_ok_iff.mp derived
    exact deriveCriticalFailures_nodup _ _
  refine ⟨_, _, ⟨?_, rfl⟩, _, ⟨?_, rfl⟩, rfl⟩
  · have reports : grading.graderResults.all validates = true := by
      rw [results, List.all_map, List.all_eq_true]
      exact fun grader _ => validates_resultOfName grader
    have names : (grading.graderResults.map (·.graderName)).Nodup := results ▸ name_nodup distinct
    have consistent := lifecycleIsConsistent_of_derived derived
    simp only [resultChecks, Bool.and_eq_true, bne_iff_ne, decide_eq_true_eq, allDistinct_iff]
    refine ⟨⟨⟨⟨⟨⟨⟨⟨⟨by decide, wellFormed.caseId⟩, wellFormed.lane⟩, wellFormed.attempt⟩, reports⟩,
      versionManifest_validates versions⟩, Datetime.requireUtc_utc last⟩, names⟩, failures⟩, ?_⟩
    exact consistent _ rfl rfl rfl rfl rfl
  · rw [observableChecks, Bool.and_eq_true] at observable ⊢
    exact ⟨observable.1, List.all_eq_true.mpr (validates_ordinaryTraceShape [] _)⟩

end StageResult

private theorem gradedEventOf_error {run : CaseRun} {evidence : EvalEvidence}
    {failure : EvalException} (wellFormed : run.WellFormed) (some_ : evidence.traceEvents ≠ [])
    (failed : gradedEventOf run evidence = .error failure) :
    failure = .overflowError ∧ ∃ last, latest evidence.traceEvents = .ok last ∧
    maxInstant ≤ last := by
  obtain ⟨event, events, same⟩ := List.exists_cons_of_ne_nil some_
  obtain ⟨last, found⟩ : ∃ last, latest evidence.traceEvents = .ok last := by
    rw [latest, same]
    exact ⟨_, rfl⟩
  have head : evidence.traceEvents.head? = some event := by rw [same, List.head?_cons]
  rw [gradedEventOf, found, Except.bind_ok, head] at failed
  by_cases overflows : maxInstant ≤ last
  · rw [if_pos overflows] at failed
    exact ⟨(Except.error.inj failed).symm, last, found, overflows⟩
  · rw [if_neg overflows] at failed
    have named : (run.evalCase.caseId != "") = true := bne_iff_ne.mpr wellFormed.caseId
    have checks (event : TraceEvent) : validates event =
      (event.optionalTexts.all (·.all (· != "")) &&
      event.modelVisibleToolsetHash.all isToolsetHash &&
        event.proposedBaseTaskStateVersion.all (1 ≤ ·) &&
      event.validatedTaskStateVersion.all (1 ≤ ·) && event.occurredAt.requireUtc &&
      event.stoppedEventHasOutcomeAndReason) := rfl
    refine absurd failed ?_
    simp [constructed, construct, checks, TraceEvent.optionalTexts,
      TraceEvent.stoppedEventHasOutcomeAndReason, toolTraceStatus, named]

variable {invariant : HarnessState → Prop} {raised : List HarnessEvent → EvalException → Prop}

theorem meets_canonicalBoundEvidence (lenient : Lenient raised) (evidence : EvalEvidence) :
    (canonicalBoundEvidence evidence).Meets invariant
      (fun _ found => ∀ same, found = some same → same = evidence ∧
        validates evidence = true) raised := by
  unfold canonicalBoundEvidence
  refine (meets_isClosed _).skip (admits_constant _) lenient.admits fun closed => ?_
  split
  · refine meets_pure fun same found => ?_
    exact (construct_eq_some.mp found).symm
  · exact meets_pure fun same => nofun

/-- The grader runner has no say in what a verified grading returns. -/
private theorem meets_runVerifiedGrading (configuredNames : List Json) (evidence : EvalEvidence)
    (expectations : EvalCaseExpectations) :
    (runVerifiedGrading configuredNames evidence expectations).Meets invariant
      (fun _ outcome => gradeEvidence configuredNames evidence expectations = .ok outcome) fun _
      _ => True := by
  have admits := admits_constant fun outcome =>
    gradeEvidence configuredNames evidence expectations = .ok outcome
  have lenient := lenient_anything
  unfold runVerifiedGrading
  refine Meets.andThen
    (P := fun outcome => gradeEvidence configuredNames evidence expectations = .ok outcome)
    (meets_ofExcept ?_) admits lenient.admits fun canonical graded => ?_
  · cases found : gradeEvidence configuredNames evidence expectations with
    | ok outcome => rfl
    | error failure => trivial
  extract_lets incompleteInput incompleteOutput
  refine (meets_canonicalBoundEvidence lenient evidence).anyValue.skip admits lenient.admits
    fun runnerEvidence => ?_
  rcases runnerEvidence with _ | runnerEvidence
  · exact meets_throw trivial
  refine (meets_detached lenient.admits _ expectations).anyValue.skip admits lenient.admits
    fun runnerExpectations => ?_
  rcases runnerExpectations with _ | runnerExpectations
  · exact meets_throw trivial
  refine (meets_ask _).anyValue.skip admits lenient.admits fun reply => ?_
  refine Meets.skip (meets_ofExcept ?_) admits lenient.admits fun reportedRaw => ?_
  · cases reply <;> trivial
  rcases reportedRaw with _ | reportedRaw
  · exact meets_throw trivial
  refine (meets_detached lenient.admits _ reportedRaw).anyValue.skip admits lenient.admits
    fun reported => ?_
  rcases reported with _ | reported
  · exact meets_throw trivial
  refine meets_singletonStateIsClosed.skip admits lenient.admits fun singletonsClosed => ?_
  extract_lets steps
  split
  · exact meets_throw trivial
  refine (meets_isClosed _).skip admits lenient.admits fun evidenceClosed => ?_
  split
  · exact meets_throw trivial
  refine (meets_isClosed _).skip admits lenient.admits fun expectationsClosed => ?_
  split
  · exact meets_throw trivial
  refine Meets.skip (meets_ofExcept ?_) admits lenient.admits fun unit_ => ?_
  · cases validateGradingOutput reported configuredNames expectations <;> trivial
  split
  · exact meets_throw trivial
  · exact meets_pure graded

theorem meets_finalEvidenceOf (lenient : Lenient raised) (run : CaseRun) (evidence : EvalEvidence)
    (gradedEvent : TraceEvent) (reloaded : Option (List TraceEvent))
    (sutResult : EvalCaseSutResult) :
    (finalEvidenceOf run evidence gradedEvent reloaded sutResult).Meets invariant
      (fun _ found => ∀ finalEvidence, found = some finalEvidence → ∃ traceEvents,
        reloaded = some traceEvents ∧
        finalEvidence = evidence.withTrace traceEvents ∧ validates finalEvidence = true ∧
        gradedOnce traceEvents gradedEvent run.evalCase.caseId = true) raised := by
  unfold finalEvidenceOf
  rcases reloaded with _ | traceEvents
  · exact meets_pure fun _ => nofun
  refine (meets_isClosed _).skip (admits_constant _) lenient.admits fun traceRefClosed => ?_
  split
  · exact meets_pure fun _ => nofun
  refine (meets_isClosed _).skip (admits_constant _) lenient.admits fun resultClosed => ?_
  split
  · exact meets_pure fun _ => nofun
  refine (meets_canonicalBoundEvidence lenient _).andThen
    (admits_constant _) lenient.admits fun found canonical => ?_
  rcases found with _ | finalEvidence
  · exact meets_pure fun _ => nofun
  obtain ⟨rfl, valid⟩ := canonical finalEvidence rfl
  refine meets_pure fun other same => ?_
  split at same
  · next once =>
    obtain rfl := Option.some.inj same
    exact ⟨traceEvents, rfl, rfl, valid, once⟩
  · cases same

/-- What the system under test answered, under the identity it was asked with. -/
def sutAnswer : HarnessEvent → Option (Uuid × EvalCaseSutResult)
  | ⟨.executeCase executionInput _ _, (.ok (some result), _)⟩ =>
    some (executionInput.executionRef, result)
  | ⟨.executeQwenCase executionInput, .ok (some result)⟩ =>
    some (executionInput.executionRef, result)
  | _ => none

/-- The system under test answered the result under the identity. -/
def Executed (events : List HarnessEvent) (executionRef : Uuid)
    (result : EvalCaseSutResult) : Prop :=
  ∃ event ∈ events, sutAnswer event = some (executionRef, result)

theorem Executed.mono {before after : List HarnessEvent} {executionRef : Uuid}
    {result : EvalCaseSutResult} (executed : Executed before executionRef result)
    (part : before ⊆ after) : Executed after executionRef result := by
  obtain ⟨event, member, answered⟩ := executed
  exact ⟨event, part member, answered⟩

/-- A case whose answer was accepted, before it is graded. -/
structure AcceptedCase where
  sutResult : EvalCaseSutResult
  evidence : EvalEvidence
  safeObservable : SafeCaseObservable
  expectations : EvalCaseExpectations
  configuredNames : List Json

/-- The case was set up and executed, and its answer accepted. -/
structure AcceptedCase.IsOf (accepted : AcceptedCase) (run : CaseRun)
    (selectedScriptRef : Option String) (events : List HarnessEvent) : Prop where
  setup : ∃ script, setupCase run.harness.artifacts run.evalCase selectedScriptRef =
    .ok (script, accepted.expectations)
  configured : elementsAt run.evalCase.grading "graders" = .ok accepted.configuredNames
  completenessOnce : accepted.configuredNames.count completenessName = 1
  executed : Executed events accepted.sutResult.executionRef accepted.sutResult
  canonical : unboundResultIsCanonical accepted.sutResult = true
  bound : bindAuthenticatedCase accepted.sutResult run.evalCase.caseId = some accepted.evidence
  observable : accepted.evidence.safeObservable = some accepted.safeObservable

theorem AcceptedCase.IsOf.mono {accepted : AcceptedCase} {run : CaseRun}
    {selectedScriptRef : Option String} {before after : List HarnessEvent}
    (isOf : accepted.IsOf run selectedScriptRef before) (part : before ⊆ after) :
    accepted.IsOf run selectedScriptRef after := { isOf with executed := isOf.executed.mono part }

/-- What a case was graded on. -/
structure GradedCase extends AcceptedCase where
  gradedEvent : TraceEvent
  traceEvents : List TraceEvent
  initial : GradingOutcome
  final : GradingOutcome

namespace GradedCase

/-- The final evidence: the records with the reloaded Trace. -/
def finalEvidence (graded : GradedCase) : EvalEvidence :=
  graded.evidence.withTrace graded.traceEvents

/-- The accepted case was graded twice and staged. -/
structure Stages (graded : GradedCase) (run : CaseRun) (selectedScriptRef : Option String)
    (events : List HarnessEvent) (stage : StagedCase) :
    Prop extends graded.toAcceptedCase.IsOf run selectedScriptRef events where
  gradings : GradedTwice graded.expectations graded.configuredNames graded.evidence
    graded.finalEvidence graded.initial
    graded.final
  gradedAt : gradedEventOf run graded.evidence = .ok graded.gradedEvent
  reloaded : ⟨.reloadTrace graded.evidence.traceRef, .ok (some graded.traceEvents)⟩ ∈ events
  valid : validates graded.finalEvidence = true
  once : gradedOnce graded.traceEvents graded.gradedEvent run.evalCase.caseId = true
  staged : stageResult run graded.expectations graded.configuredNames
    (graded.initial.graderResults ++ graded.final.graderResults) graded.finalEvidence
      graded.safeObservable = .ok stage

variable {graded : GradedCase} {run : CaseRun} {selectedScriptRef : Option String}
  {before after : List HarnessEvent}

theorem Stages.mono {stage : StagedCase} (stages : graded.Stages run selectedScriptRef before stage)
    (part : before ⊆ after) : graded.Stages run selectedScriptRef after stage :=
  { stages with
    toIsOf := stages.toIsOf.mono part
    reloaded := part stages.reloaded }

end GradedCase

namespace CaseRun

variable {run : CaseRun} {selectedScriptRef : Option String} {before after : List HarnessEvent}

/-- What staging a case comes to. -/
def Comes (run : CaseRun) (selectedScriptRef : Option String) (events : List HarnessEvent) :
    Staged → Prop
  | .ok stage => ∃ graded : GradedCase, graded.Stages run selectedScriptRef events stage
  | .error failure => FailureOf (some run.evalCase.caseId) failure

theorem Comes.mono {staged : Staged} (comes : run.Comes selectedScriptRef before staged)
    (part : before ⊆ after) :
    run.Comes selectedScriptRef after staged := by
  cases staged with
  | ok stage =>
    obtain ⟨graded, stages⟩ := comes
    exact ⟨graded, stages.mono part⟩
  | error failure => exact comes

/-- The system under test answered a canonical result whose Trace reaches the last instant of
all. -/
def Overflows (events : List HarnessEvent) : Prop :=
  ∃ result last, Executed events result.executionRef result ∧
  unboundResultIsCanonical result = true ∧ latest result.evidence.traceEvents = .ok last ∧
  maxInstant ≤ last

/-- Which failures staging a case may raise. -/
def Raises (run : CaseRun) (events : List HarnessEvent) (failure : EvalException) : Prop :=
  run.WellFormed → Bounded failure ∨ failure = .overflowError ∧ Overflows events

theorem Raises.mono {failure : EvalException} (raises : run.Raises before failure)
    (part : before ⊆ after) :
    run.Raises after failure := by
  intro wellFormed
  rcases raises wellFormed with bounded | ⟨overflow, result, last, executed, rest⟩
  · exact .inl bounded
  · exact .inr ⟨overflow, result, last, executed.mono part, rest⟩

theorem lenient_raises (run : CaseRun) (earlier : List HarnessEvent) :
    Lenient fun events failure => run.Raises (earlier ++ events) failure where
  admits before after failure raises := by
    refine raises.mono (List.append_subset.mpr ⟨List.subset_append_left _ _, ?_⟩)
    exact List.subset_append_of_subset_right _ (List.subset_append_right _ _)
  bounded _ _ bounded := fun _ => .inl bounded

private theorem admits_comes (run : CaseRun) (selectedScriptRef : Option String)
    (earlier : List HarnessEvent) :
    Admits fun events staged => run.Comes selectedScriptRef (earlier ++ events) staged := by
  intro before after staged comes
  refine comes.mono (List.append_subset.mpr ⟨List.subset_append_left _ _, ?_⟩)
  exact List.subset_append_of_subset_right _ (List.subset_append_right _ _)

/-- Every way out but one appends a failure of the case. -/
private theorem meets_fail {invariant : HarnessState → Prop} (run : CaseRun)
    (selectedScriptRef : Option String) (earlier : List HarnessEvent)
    {phase : EvalExecutionFailurePhase} (traceRef : Option Uuid)
    {safeErrorCode : Option EvalExecutionSafeErrorCode} (coded : phaseHasCode phase safeErrorCode) :
    (run.fail phase traceRef safeErrorCode).Meets invariant
      (fun events staged => run.Comes selectedScriptRef (earlier ++ events) staged)
      fun events failure => run.Raises (earlier ++ events) failure := by
  unfold CaseRun.fail
  refine (meets_appendFailure (run.lenient_raises earlier) run.harness _ phase traceRef
    safeErrorCode coded ?_).andThen
    (run.admits_comes selectedScriptRef earlier)
      (run.lenient_raises earlier).admits fun failure named => meets_pure ?_
  · intro malformed events failure wellFormed
    refine absurd ⟨wellFormed.lane, ?_, wellFormed.versions⟩ malformed
    rintro evalCase same
    obtain rfl := Option.some.inj same
    exact ⟨wellFormed.caseId, wellFormed.attempt⟩
  · exact named

theorem bindAuthenticatedCase_eq_some {result : EvalCaseSutResult} {caseId : String}
    {evidence : EvalEvidence} (bound : bindAuthenticatedCase result caseId = some evidence) :
    evidence.toUnboundEvalEvidence = result.evidence ∧ evidence.caseId = caseId ∧
    validates evidence = true := by
  simp only [bindAuthenticatedCase, Option.bind_eq_bind, Option.bind_eq_some_iff, construct_eq_some]
    at bound
  obtain ⟨observable, -, valid, rfl⟩ := bound
  exact ⟨rfl, rfl, valid⟩

private theorem traceEvents_ne_nil {result : EvalCaseSutResult}
    (canonical : unboundResultIsCanonical result = true) :
    result.evidence.traceEvents ≠ [] := by
  simp only [unboundResultIsCanonical, Bool.and_eq_true, Bool.not_eq_true',
    List.isEmpty_eq_false_iff] at canonical
  exact canonical.1.1.1.1.1.1.2

variable {invariant : HarnessState → Prop}

/-- The reloaded Trace is graded, and the case is staged. -/
private theorem meets_regrade {earlier : List HarnessEvent} {accepted : AcceptedCase}
    {gradedEvent : TraceEvent} {initial : GradingOutcome} {reloaded : Option (List TraceEvent)}
    (isAccepted : accepted.IsOf run selectedScriptRef earlier)
    (gradedAt : gradedEventOf run accepted.evidence = .ok gradedEvent)
    (initialGraded : gradeEvidence (accepted.configuredNames.filter (· != completenessName))
      accepted.evidence
      accepted.expectations = .ok initial)
    (reloads : ∀ traceEvents, reloaded = some traceEvents →
      ⟨.reloadTrace accepted.evidence.traceRef, .ok (some traceEvents)⟩ ∈ earlier) :
    Meets invariant (do
      let some finalEvidence ←
          finalEvidenceOf run accepted.evidence gradedEvent reloaded accepted.sutResult
        | run.fail .resultCompleteness accepted.evidence.traceRef
      let some finalGrading ←
          caught (runVerifiedGrading [completenessName] finalEvidence accepted.expectations)
        | run.fail .grading accepted.evidence.traceRef
      return .ok (← Coroutine.ofExcept
        (stageResult run accepted.expectations accepted.configuredNames
        (initial.graderResults ++ finalGrading.graderResults) finalEvidence
        accepted.safeObservable)) : Harness Staged)
      (fun events staged => run.Comes selectedScriptRef (earlier ++ events) staged)
      fun events failure => run.Raises (earlier ++ events) failure := by
  have lenient := run.lenient_raises earlier
  have admits := run.admits_comes selectedScriptRef earlier
  refine (meets_finalEvidenceOf lenient run accepted.evidence gradedEvent reloaded
    accepted.sutResult).andThen admits
    lenient.admits fun found isFinal => ?_
  rcases found with _ | finalEvidence
  · exact run.meets_fail selectedScriptRef earlier _ ⟨.resultCompletenessFailed, rfl, rfl⟩
  obtain ⟨traceEvents, rfl, rfl, valid, once⟩ := isFinal finalEvidence rfl
  refine (meets_caught lenient (meets_runVerifiedGrading _ _ _)).andThen admits lenient.admits
    fun graded finalGraded => ?_
  rcases graded with _ | final
  · exact run.meets_fail selectedScriptRef earlier _ ⟨.gradingFailed, rfl, rfl⟩
  have gradings : GradedTwice accepted.expectations accepted.configuredNames accepted.evidence
      (accepted.evidence.withTrace traceEvents) initial final :=
    ⟨isAccepted.completenessOnce, initialGraded, finalGraded final rfl⟩
  refine Meets.andThen
    (P := fun stage => stageResult run accepted.expectations accepted.configuredNames
    (initial.graderResults ++ final.graderResults)
      (accepted.evidence.withTrace traceEvents) accepted.safeObservable =
      .ok stage) (meets_ofExcept ?_) admits lenient.admits fun stage staged => ?_
  · cases found : stageResult run accepted.expectations accepted.configuredNames
      (initial.graderResults ++ final.graderResults) (accepted.evidence.withTrace traceEvents)
      accepted.safeObservable with
    | ok stage => rfl
    | error failure =>
      intro wellFormed
      obtain ⟨-, -, bound⟩ := bindAuthenticatedCase_eq_some isAccepted.bound
      have observable : validates accepted.safeObservable = true := by
        have checks (evidence : EvalEvidence) : validates evidence = (evidence.recordsAreValid &&
          evidence.safeObservable.all validates && evidence.identitiesAreUnique &&
            evidence.understandingCloses) := rfl
        rw [checks, isAccepted.observable, Bool.and_eq_true, Bool.and_eq_true, Bool.and_eq_true]
          at bound
        exact bound.1.1.2
      have some_ : (accepted.evidence.withTrace traceEvents).traceEvents ≠ [] := by
        intro none
        have empty : traceEvents = [] := none
        rw [empty] at once
        exact absurd once Bool.false_ne_true
      obtain ⟨stage, total⟩ := stageResult_total gradings wellFormed observable some_
      cases found.symm.trans total
  · refine meets_pure ⟨{ accepted with gradedEvent, traceEvents, initial, final }, ?_⟩
    exact {
      toIsOf := isAccepted.mono (List.subset_append_left _ _)
      gradings
      gradedAt
      reloaded := List.mem_append_left _ (reloads traceEvents rfl)
      valid
      once
      staged }

/-- A case whose answer was accepted is graded twice and staged, or a failure is appended. -/
private theorem meets_gradeCase {earlier : List HarnessEvent} {accepted : AcceptedCase}
    (isAccepted : accepted.IsOf run selectedScriptRef earlier) :
    (gradeCase run accepted.expectations accepted.configuredNames accepted.sutResult
      accepted.evidence
      accepted.safeObservable).Meets invariant
        (fun events staged => run.Comes selectedScriptRef (earlier ++ events) staged)
        fun events failure => run.Raises (earlier ++ events) failure := by
  obtain ⟨sameRecords, sameCase, -⟩ := bindAuthenticatedCase_eq_some isAccepted.bound
  have some_ : accepted.evidence.traceEvents ≠ [] := by
    rw [sameRecords]
    exact traceEvents_ne_nil isAccepted.canonical
  have lenient := run.lenient_raises earlier
  have admits := run.admits_comes selectedScriptRef earlier
  have fails {phase : EvalExecutionFailurePhase} {safeErrorCode : Option EvalExecutionSafeErrorCode}
      (coded : phaseHasCode phase safeErrorCode) :
      (run.fail phase accepted.evidence.traceRef safeErrorCode).Meets
        invariant (fun events staged => run.Comes selectedScriptRef (earlier ++ events) staged)
        fun events failure => run.Raises (earlier ++ events) failure :=
          run.meets_fail selectedScriptRef earlier _ coded
  unfold gradeCase
  extract_lets nonTraceNames
  refine (meets_isClosed _).skip admits lenient.admits fun closed => ?_
  split
  · exact fails ⟨.resultCompletenessFailed, rfl, rfl⟩
  refine (meets_caught lenient (meets_runVerifiedGrading _ _ _)).andThen admits lenient.admits
    fun graded initialGraded => ?_
  rcases graded with _ | initial
  · exact fails ⟨.gradingFailed, rfl, rfl⟩
  refine Meets.andThen (P := fun event => gradedEventOf run accepted.evidence = .ok event)
    (meets_ofExcept ?_) admits
    lenient.admits fun gradedEvent gradedAt => ?_
  · cases found : gradedEventOf run accepted.evidence with
    | ok event => rfl
    | error failure =>
      intro wellFormed
      obtain ⟨rfl, last, latestOf, overflows⟩ := gradedEventOf_error wellFormed some_ found
      refine .inr ⟨rfl, _, last, isAccepted.executed.mono (List.subset_append_left _ _),
        isAccepted.canonical, ?_, overflows⟩
      rw [← sameRecords]
      exact latestOf
  extract_lets expectedStep appendedStep
  have expects (expected : Option EvalEvidence) : (expectedStep expected).Meets invariant
      (fun events staged => run.Comes selectedScriptRef (earlier ++ events) staged)
      fun events failure => run.Raises (earlier ++ events) failure := by
    dsimp only [expectedStep]
    split
    · exact fails ⟨.resultCompletenessFailed, rfl, rfl⟩
    refine (meets_caught lenient
      (show Meets invariant _ (fun events reply => ∀ traceEvents, reply = some traceEvents →
        ⟨.reloadTrace accepted.evidence.traceRef, .ok (some traceEvents)⟩ ∈ events) (fun _ _ =>
          True) from ?_)).bind
      fun reloaded before reloads => ?_
    · refine (meets_detached (fun _ _ _ => id) _ accepted.evidence.traceRef).andThen
        ?_ (fun _ _ _ => id)
        fun copy equal => ?_
      · exact fun before after reply member traceEvents same => List.mem_append_right _
          (member traceEvents same)
      rcases copy with _ | traceRef
      · exact meets_throw trivial
      obtain rfl := equal traceRef rfl
      refine (meets_reply (.reloadTrace accepted.evidence.traceRef) id).weaken ?_
      rintro events reply ⟨answer, rfl, rfl⟩ traceEvents rfl
      exact List.mem_singleton_self _
    rcases reloaded with _ | reloaded
    · exact (fails ⟨.traceStoreUnavailable, rfl, rfl⟩).mono (admits before) (lenient.admits before)
    simp only [← List.append_assoc]
    refine meets_regrade (isAccepted.mono (List.subset_append_left _ _)) gradedAt
      (initialGraded initial rfl) ?_
    exact fun traceEvents same => List.mem_append_right _ (reloads reloaded rfl traceEvents same)
  have appends (appended : Option Unit) : (appendedStep appended).Meets invariant
      (fun events staged => run.Comes selectedScriptRef (earlier ++ events) staged)
      fun events failure => run.Raises (earlier ++ events) failure := by
    dsimp only [appendedStep]
    split
    · exact fails ⟨.tracePersistenceFailed, rfl, rfl⟩
    refine (meets_isClosed _).skip admits lenient.admits fun eventClosed => ?_
    refine (meets_isClosed _).skip admits lenient.admits fun resultClosed => ?_
    split
    · exact (meets_canonicalBoundEvidence lenient _).anyValue.skip admits lenient.admits expects
    · exact expects none
  refine (meets_isClosed _).skip admits lenient.admits fun eventClosed => ?_
  split
  · refine (meets_caught lenient (meets_reply (.appendEvalCaseGraded gradedEvent) id)).anyValue.skip
      admits
      lenient.admits appends
  · exact appends none

end CaseRun

/-- An invariant that speaks of the replay cache only. -/
def OfCache (invariant : HarnessState → Prop) : Prop :=
  ∀ state other, state.persistedStageByReplayKey = other.persistedStageByReplayKey →
    invariant state → invariant other

private theorem meets_issueNoncePair (lenient : Lenient raised) (ofCache : OfCache invariant) :
    issueNoncePair.Meets invariant (fun _ _ => True) raised := by
  have admits := admits_constant fun _ : Option (Uuid × Uuid) => True
  have values : Meets invariant (do
      let first ← Coroutine.ofExcept (← Coroutine.ask HarnessCall.nonceFactory)
      let second ← Coroutine.ofExcept (← Coroutine.ask HarnessCall.nonceFactory)
      return (first, second) : Harness (Option Uuid × Option Uuid)) (fun _ _ => True) fun _ _ =>
        True := by
    have allows := admits_constant fun _ : EvalException => True
    refine (meets_ask _).anyValue.skip (fun _ _ _ => id) allows fun first => ?_
    refine (meets_ofExcept_anything first).skip (fun _ _ _ => id) allows fun first => ?_
    refine (meets_ask _).anyValue.skip (fun _ _ _ => id) allows fun second => ?_
    exact (meets_ofExcept_anything second).skip (fun _ _ _ => id) allows fun second =>
      meets_pure trivial
  unfold issueNoncePair
  refine (meets_caught lenient values).anyValue.skip admits lenient.admits fun values => ?_
  split
  · refine meets_read.anyValue.skip admits lenient.admits fun state => ?_
    extract_lets issued
    refine Meets.skip (meets_modify ?_ trivial) admits lenient.admits fun unit_ =>
      meets_pure trivial
    exact fun state holds => ofCache state _ rfl holds
  · exact meets_pure trivial

/-- What the system under test is asked, and what it answers. -/
def askSut (executionInput : EvalCaseExecutionInput) :
    Option ScriptedModelProviderV2 → Harness (Except EvalException (Option EvalCaseSutResult) × ℕ)
  | some provider =>
    Coroutine.ask (HarnessCall.executeCase executionInput provider provider.runtimeFault)
  | none => (·, 0) <$> Coroutine.ask (HarnessCall.executeQwenCase executionInput)

private theorem meets_askSut (executionInput : EvalCaseExecutionInput)
    (provider : Option ScriptedModelProviderV2) :
    (askSut executionInput provider).Meets invariant
    (fun events answer => ∀ result, answer.1 = .ok (some result) →
      Executed events executionInput.executionRef result) raised := by
  cases provider with
  | some provider =>
    refine (meets_ask _).weaken ?_
    rintro events ⟨reply, cursor⟩ rfl result rfl
    exact ⟨_, List.mem_singleton_self _, rfl⟩
  | none =>
    have asked : askSut executionInput none = Coroutine.ask
        (HarnessCall.executeQwenCase executionInput) >>=
        fun reply => pure (reply, 0) := map_eq_pure_bind _ _
    rw [asked]
    refine (meets_ask (HarnessCall.executeQwenCase executionInput)).bind fun reply before called =>
      meets_pure ?_
    rintro result rfl
    refine ⟨⟨.executeQwenCase executionInput, .ok (some result)⟩, ?_, rfl⟩
    rw [called]
    exact List.mem_singleton_self _

theorem executeOnce_eq (run : CaseRun) (executionRef : Uuid)
    (executionInput : EvalCaseExecutionInput) (provider : Option ScriptedModelProviderV2) :
    executeOnce run executionRef executionInput provider = (do
      Coroutine.modify fun state => { state with
        pendingCaseByExecutionRef :=
        (executionRef, run.evalCase.caseId) :: state.pendingCaseByExecutionRef }
      let answer ← askSut executionInput provider
      let state ← Coroutine.read
      Coroutine.modify fun state => { state with
        pendingCaseByExecutionRef := state.pendingCaseByExecutionRef.filter (·.1 != executionRef)
        retiredExecutionRefs := executionRef :: state.retiredExecutionRefs }
      let sutResult ← caught (Coroutine.ofExcept answer.1)
      return { sutResult, pendingCase :=
        state.pendingCaseByExecutionRef.lookup executionRef, cursor := answer.2 }) := by
  cases provider <;> rfl

/-- One execution: the answer is that of the system under test to the input. -/
private theorem meets_executeOnce (lenient : Lenient raised) (ofCache : OfCache invariant)
    (run : CaseRun) (executionRef : Uuid)
    (executionInput : EvalCaseExecutionInput) (provider : Option ScriptedModelProviderV2) :
    (executeOnce run executionRef executionInput provider).Meets invariant
    (fun events execution => ∀ result,
      execution.sutResult = some (some result) →
      Executed events executionInput.executionRef result) raised := by
  have earlierAdmitted : Admits fun (events : List HarnessEvent) (execution : Execution) =>
    ∀ result,
      execution.sutResult = some (some result) →
          Executed events executionInput.executionRef result :=
    fun before after execution executed result same =>
      (executed result same).mono (List.subset_append_right _ _)
  rw [executeOnce_eq]
  refine Meets.skip (meets_modify (fun state holds => ofCache state _ rfl holds) trivial)
    earlierAdmitted lenient.admits
    fun unit_ => ?_
  refine (meets_askSut executionInput provider).andUse lenient.admits fun answer before
    answered => ?_
  suffices replies : Meets invariant _ (fun _ (execution : Execution) => ∀ result,
      execution.sutResult = some (some result) → answer.1 = .ok (some result)) raised by
    refine replies.weaken fun after execution replied result same => ?_
    exact (answered result (replied result same)).mono (List.subset_append_left _ _)
  have admits := admits_constant fun execution : Execution => ∀ result,
    execution.sutResult = some (some result) → answer.1 = .ok (some result)
  refine meets_read.anyValue.skip admits lenient.admits fun state => ?_
  refine Meets.skip (meets_modify (fun state holds => ofCache state _ rfl holds) trivial) admits
    lenient.admits fun unit_ => ?_
  have replied : (Coroutine.ofExcept answer.1 : Harness (Option EvalCaseSutResult)).Meets invariant
      (fun _ reply => answer.1 = .ok reply) fun _ _ => True := by
    refine meets_ofExcept ?_
    cases answer.1 <;> trivial
  refine (meets_caught lenient replied).andThen admits lenient.admits fun sutResult same =>
    meets_pure ?_
  exact fun result equal => same (some result) equal

theorem executionInputOf_ref {evalCase : EvalCaseArtifact} {executionRef : Uuid}
    {executionInput : EvalCaseExecutionInput}
    (built : executionInputOf evalCase executionRef = .ok executionInput) :
    executionInput.executionRef = executionRef := by
  simp only [executionInputOf] at built
  split at built
  · simp only [Except.bind_eq_ok_iff, Except.pure_eq_ok_iff] at built
    obtain ⟨content, -, rfl⟩ := built
    rfl
  · cases built

/-- What is handed to the system under test is made for the case and carries the issued
identities. -/
def IsPrepared (run : CaseRun) (executionRef scriptExecutionRef : Uuid)
    (prepared : EvalCaseExecutionInput × Option ScriptedModelProviderV2) : Prop :=
  executionInputOf run.evalCase executionRef = .ok prepared.1 ∧
    ∀ provider, prepared.2 = some provider → provider.scriptExecutionRef = scriptExecutionRef

private theorem scriptedModelProvider_ref {script : ModelScriptArtifact} {scriptExecutionRef : Uuid}
    {provider : ScriptedModelProviderV2}
    (built : scriptedModelProvider script scriptExecutionRef = .ok provider) :
    provider.scriptExecutionRef = scriptExecutionRef := by
  simp only [scriptedModelProvider, Except.bind_eq_ok_iff] at built
  obtain ⟨-, -, steps, -, built⟩ := built
  split at built
  · exact Except.pure_eq_ok_iff.mp built ▸ rfl
  · split at built
    · exact Except.pure_eq_ok_iff.mp built ▸ rfl
    · cases built

theorem meets_prepared (run : CaseRun) (script : ModelScriptArtifact)
    (executionRef scriptExecutionRef : Uuid) :
    Meets invariant (do
      let some sutExecutionRef ← detachedClosedUuid executionRef | throw .valueError
      let some providerExecutionRef ← detachedClosedUuid scriptExecutionRef | throw .valueError
      let executionInput ← Coroutine.ofExcept (executionInputOf run.evalCase sutExecutionRef)
      let provider ← if run.qwenExecution then pure none
        else some <$> Coroutine.ofExcept (scriptedModelProvider script providerExecutionRef)
      return (executionInput, provider) :
      Harness (EvalCaseExecutionInput × Option ScriptedModelProviderV2))
      (fun _ prepared => IsPrepared run executionRef scriptExecutionRef prepared) fun _ _ =>
      True := by
  have admits := admits_constant (IsPrepared run executionRef scriptExecutionRef)
  have allows := admits_constant fun _ : EvalException => True
  refine (meets_detached allows _ executionRef).andThen admits allows fun copy same => ?_
  rcases copy with _ | sutExecutionRef
  · exact meets_throw trivial
  obtain rfl := same sutExecutionRef rfl
  refine (meets_detached allows _ scriptExecutionRef).andThen admits allows fun providerRef
    same => ?_
  rcases providerRef with _ | providerExecutionRef
  · exact meets_throw trivial
  obtain rfl := same providerExecutionRef rfl
  refine Meets.andThen (P := fun executionInput =>
    executionInputOf run.evalCase sutExecutionRef = .ok executionInput)
    (meets_ofExcept ?_) admits allows fun executionInput carried => ?_
  · cases built : executionInputOf run.evalCase sutExecutionRef with
    | ok executionInput => rfl
    | error failure => trivial
  · split
    · exact meets_pure ⟨carried, fun _ => nofun⟩
    · rw [map_eq_pure_bind, bind_assoc]
      refine Meets.andThen
        (P := fun provider => scriptedModelProvider script providerExecutionRef = .ok provider)
        (meets_ofExcept ?_) admits allows fun provider built => ?_
      · cases built : scriptedModelProvider script providerExecutionRef with
        | ok provider => rfl
        | error failure => trivial
      · refine meets_pure ⟨carried, ?_⟩
        rintro other same
        obtain rfl := Option.some.inj same
        exact scriptedModelProvider_ref built

private theorem meets_canonicalUnboundResult (lenient : Lenient raised)
    (result : EvalCaseSutResult) :
    (canonicalUnboundResult result).Meets invariant
      (fun _ canonical => canonical = true → unboundResultIsCanonical result = true) raised := by
  unfold canonicalUnboundResult
  refine (meets_isClosed _).skip (admits_constant _) lenient.admits fun closed =>
    meets_pure fun canonical => ?_
  exact (Bool.and_eq_true_iff.mp canonical).2

/-- A case is staged or leaves a failure; it raises within bounds unless the Trace reaches the last
instant. -/
theorem meets_stageCase (run : CaseRun) (selectedScriptRef : Option String)
    (ofCache : OfCache invariant) :
    (stageCase run selectedScriptRef).Meets invariant (run.Comes selectedScriptRef) run.Raises := by
  have lenient : Lenient run.Raises := run.lenient_raises []
  have admits : Admits (run.Comes selectedScriptRef) := run.admits_comes selectedScriptRef []
  have fails {phase : EvalExecutionFailurePhase} (traceRef : Option Uuid)
      {safeErrorCode : Option EvalExecutionSafeErrorCode}
      (coded : phaseHasCode phase safeErrorCode) :
      (run.fail phase traceRef safeErrorCode).Meets invariant
          (run.Comes selectedScriptRef) run.Raises :=
    run.meets_fail selectedScriptRef [] traceRef coded
  have incomplete : (run.fail .resultCompleteness none).Meets invariant
      (run.Comes selectedScriptRef) run.Raises :=
    fails none ⟨.resultCompletenessFailed, rfl, rfl⟩
  unfold stageCase
  split
  · next script expectations setup =>
    refine (meets_issueNoncePair lenient ofCache).skip admits lenient.admits fun pair => ?_
    rcases pair with _ | ⟨executionRef, scriptExecutionRef⟩
    · exact incomplete
    refine (meets_caught lenient
      (meets_prepared run script executionRef scriptExecutionRef)).andThen admits
      lenient.admits fun prepared carried => ?_
    rcases prepared with _ | ⟨executionInput, provider⟩
    · exact fails none ⟨.caseSetupFailed, rfl, rfl⟩
    have sameRef : executionInput.executionRef = executionRef :=
      executionInputOf_ref (carried _ rfl).1
    refine (meets_executeOnce lenient ofCache run executionRef executionInput provider).bind
      fun execution before executed => ?_
    have later {action : Harness Staged}
        (meets : action.Meets invariant (run.Comes selectedScriptRef) run.Raises) :=
      meets.mono (admits before) (lenient.admits before)
    split
    · next sutResult answered =>
      rcases sutResult with _ | sutResult
      · exact later incomplete
      have laterLenient := run.lenient_raises before
      have laterAdmits := run.admits_comes selectedScriptRef before
      have isExecuted := executed sutResult answered
      refine (meets_canonicalUnboundResult laterLenient sutResult).andThen laterAdmits
        laterLenient.admits
        fun canonical isCanonical => ?_
      split
      · exact later incomplete
      next accepted =>
      simp only [Bool.not_eq_true', Bool.not_eq_false, Bool.and_eq_true, beq_iff_eq] at accepted
      obtain ⟨⟨rfl, sameIdentity⟩, -⟩ := accepted
      split
      · next bound isBound =>
        refine (meets_canonicalBoundEvidence laterLenient bound).andThen laterAdmits
          laterLenient.admits
          fun found isEvidence => ?_
        rcases found with _ | evidence
        · exact later incomplete
        obtain ⟨rfl, -⟩ := isEvidence evidence rfl
        dsimp only
        split
        · next safeObservable observed =>
          split
          · exact later (fails _ ⟨.systemUnderTestFailed, rfl, rfl⟩)
          refine Meets.andThen
            (P := fun names => elementsAt run.evalCase.grading "graders" = .ok names)
            (meets_ofExcept ?_) laterAdmits laterLenient.admits fun configuredNames configured => ?_
          · cases found : elementsAt run.evalCase.grading "graders" with
            | ok names => rfl
            | error failure =>
              intro wellFormed
              obtain ⟨names, listed⟩ := wellFormed.graders
              cases found.symm.trans listed
          split
          · exact later (fails _ ⟨.gradingFailed, rfl, rfl⟩)
          next once =>
          have completenessOnce : configuredNames.count completenessName = 1 :=
            not_not.mp fun differs =>
            once (bne_iff_ne.mpr differs)
          have isAccepted : AcceptedCase.IsOf
              ⟨sutResult, evidence, safeObservable, expectations, configuredNames⟩ run
              selectedScriptRef before :=
            { setup := ⟨script, setup⟩
              configured
              completenessOnce
              executed := by rwa [sameRef, ← sameIdentity] at isExecuted
              canonical := isCanonical rfl
              bound := isBound
              observable := observed }
          exact CaseRun.meets_gradeCase isAccepted
        · exact later incomplete
      · exact later incomplete
    · exact later (fails none ⟨.systemUnderTestFailed, rfl, rfl⟩)
  · exact fails none ⟨.caseSetupFailed, rfl, rfl⟩

end MiniAgent.Evaluation
