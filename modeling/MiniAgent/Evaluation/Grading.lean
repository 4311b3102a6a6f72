import MiniAgent.Evaluation.Artifacts
import MiniAgent.Evaluation.TraceGrader

/-! # Grading

The registry of graders, the outcome that is derived from their results, and the checks on an
outcome that somebody else reports. A failed grader triggers critical failures, of which only those
count that are applicable to the case.
-/

namespace MiniAgent.Evaluation

open MiniAgent.Core MiniAgent.Application

inductive Grader
  | schema
  | identityBoundary
  | requestUnderstanding
  | inputBinding
  | taskState
  | toolCall
  | observation
  | disclosure
  | rendererFact
  | errorMapping
  | traceCompleteness
  | persistence
  | toolsetReplay
deriving DecidableEq, Repr

namespace Grader

def name : Grader → String
  | schema => "SchemaGrader"
  | identityBoundary => "IdentityBoundaryGrader"
  | requestUnderstanding => "RequestUnderstandingGrader"
  | inputBinding => "InputBindingGrader"
  | taskState => "TaskStateGrader"
  | toolCall => "ToolCallGrader"
  | observation => "ObservationGrader"
  | disclosure => "DisclosureGrader"
  | rendererFact => "RendererFactGrader"
  | errorMapping => "ErrorMappingGrader"
  | traceCompleteness => "TraceCompletenessGrader"
  | persistence => "PersistenceGrader"
  | toolsetReplay => "ToolsetReplayGrader"

/-- `_GRADER_REGISTRY`, in its order. -/
def registry : List Grader :=
  [schema, identityBoundary, requestUnderstanding, inputBinding, taskState, toolCall, observation,
    disclosure, rendererFact, errorMapping, traceCompleteness, persistence, toolsetReplay]

/-- `_GRADER_REGISTRY[name]` -/
def named (name : String) : Option Grader := registry.find? (·.name == name)

private theorem name_of_named {wanted : String} {grader : Grader}
    (found : named wanted = some grader) :
    grader.name = wanted := by simpa using List.find?_some found

@[simp] theorem named_name (grader : Grader) : named grader.name = some grader := by
  cases grader <;> decide

/-- What a grader judges once the evidence is valid. -/
def judges : Grader → EvalEvidence → EvalCaseExpectations → Verdict
  | schema => schemaGrader
  | identityBoundary => identityBoundaryGrader
  | requestUnderstanding => requestUnderstandingGrader
  | inputBinding => inputBindingGrader
  | taskState => taskStateGrader
  | toolCall => toolCallGrader
  | observation => observationGrader
  | disclosure => disclosureGrader
  | rendererFact => rendererFactGrader
  | errorMapping => errorMappingGrader
  | traceCompleteness => traceCompletenessGrader
  | persistence => persistenceGrader
  | toolsetReplay => toolsetReplayGrader

/-- `_passed` or `_failed` under the grader's name. -/
def report (grader : Grader) : Verdict → EvalGraderResult
  | .ok _ => { graderName := grader.name, status := .pass }
  | .error reason => { graderName := grader.name, status := .fail, reasonCode := some reason }

def grade (grader : Grader) (evidence : EvalEvidence) (expectations : EvalCaseExpectations) :
    EvalGraderResult :=
  grader.report do
    validateGraderInputs evidence
    grader.judges evidence expectations

@[simp] theorem report_graderName (grader : Grader) (verdict : Verdict) :
    (grader.report verdict).graderName = grader.name := by cases verdict <;> rfl

@[simp] theorem grade_graderName (grader : Grader) (evidence : EvalEvidence)
    (expectations : EvalCaseExpectations) :
    (grader.grade evidence expectations).graderName = grader.name := report_graderName ..

/-- The critical failures that a failed grader triggers; `CF-01` is number 0. -/
def criticalFailures : Grader → List CriticalFailureCode
  | schema => [11]
  | identityBoundary => [0, 1]
  | requestUnderstanding => [1, 3, 13]
  | inputBinding => [3, 13]
  | taskState => [11, 13]
  | toolCall => [9, 13]
  | observation => [2, 3, 9]
  | disclosure => [0, 2, 12]
  | rendererFact => [12]
  | errorMapping => [9]
  | traceCompleteness => [11]
  | persistence => [2, 11]
  | toolsetReplay => [11, 13]

end Grader

structure GradingOutcome where
  status : EvalResultStatus
  graderResults : List EvalGraderResult
  criticalFailures : List CriticalFailureCode
deriving DecidableEq, Repr

def deriveCriticalFailures (results : List EvalGraderResult) (expectations : EvalCaseExpectations) :
    List CriticalFailureCode :=
  let triggered := (results.filter (·.status == .fail)).flatMap fun result =>
    (Grader.named result.graderName).elim [] Grader.criticalFailures
  (List.finRange 14).filter fun code =>
    decide (code ∈ expectations.applicableCriticalFailures) && decide (code ∈ triggered)

def determineResultStatus (graderResults : List EvalGraderResult)
    (criticalFailures : List CriticalFailureCode) :
    Except EvalException EvalResultStatus := do
  Except.require (!graderResults.isEmpty)
    (.gradingConfiguration "Case grading requires grader results")
  Except.require (allDistinct (graderResults.map (·.graderName)) && allDistinct criticalFailures)
    (.gradingConfiguration "grading outcome identities are duplicated")
  return if !criticalFailures.isEmpty || graderResults.any (·.status == .fail) then .fail else .pass

def deriveGradingOutcome (graderResults : List EvalGraderResult)
    (expectations : EvalCaseExpectations) :
    Except EvalException GradingOutcome := do
  let names := graderResults.map (·.graderName)
  Except.require (!names.isEmpty && allDistinct names && names.all (Grader.named · |>.isSome))
    (.gradingConfiguration "grader result set is not closed")
  let criticalFailures := deriveCriticalFailures graderResults expectations
  let status ← determineResultStatus graderResults criticalFailures
  return { status, graderResults, criticalFailures }

/-- The registered graders of the configured names, which are JSON values of the case. -/
def configuredGraders (configuredGraderNames : List Json) : Except EvalException (List Grader) := do
  let failure := EvalException.gradingConfiguration "grader configuration is not closed"
  let graders ← configuredGraderNames.mapM fun name =>
    match (nonemptyText name).bind Grader.named with
    | some grader => .ok grader
    | none => .error failure
  Except.require (!graders.isEmpty && allDistinct graders) failure
  return graders

def gradeEvidence (configuredGraderNames : List Json) (evidence : EvalEvidence)
    (expectations : EvalCaseExpectations) :
    Except EvalException GradingOutcome := do
  let graders ← configuredGraders configuredGraderNames
  deriveGradingOutcome (graders.map fun grader => grader.grade evidence expectations) expectations

/-- `_validate_grading_output`: the outcome is well formed, names the configured graders and is what
their results imply. -/
def validateGradingOutput (outcome : GradingOutcome) (configuredNames : List Json)
    (expectations : EvalCaseExpectations) : Except EvalException Unit := do
  let incomplete := EvalException.gradingConfiguration "grader output is incomplete"
  Except.require (outcome.graderResults.all fun result =>
    result.graderName != "" && (result.status == .fail) == result.reasonCode.isSome) incomplete
  Except.require (outcome.graderResults.map (ofText ·.graderName) == configuredNames) incomplete
  let expected ← deriveGradingOutcome outcome.graderResults expectations
  Except.require (outcome == expected)
    (.gradingConfiguration "grader output does not match authenticated derivation")

variable {results : List EvalGraderResult} {expectations : EvalCaseExpectations}
  {outcome : GradingOutcome}

theorem deriveCriticalFailures_nodup (results : List EvalGraderResult)
    (expectations : EvalCaseExpectations) :
    (deriveCriticalFailures results expectations).Nodup := by
  unfold deriveCriticalFailures
  exact (List.nodup_finRange 14).filter _

theorem deriveGradingOutcome_eq_ok_iff : deriveGradingOutcome results expectations = .ok outcome ↔
    results ≠ [] ∧ (results.map (·.graderName)).Nodup ∧
    (∀ result ∈ results, (Grader.named result.graderName).isSome) ∧ outcome = {
        status := if (deriveCriticalFailures results expectations).isEmpty &&
        results.all (·.status != .fail)
          then .pass else .fail
        graderResults := results
        criticalFailures := deriveCriticalFailures results expectations } := by
  have distinct := deriveCriticalFailures_nodup results expectations
  have verdict : (if !(deriveCriticalFailures results expectations).isEmpty ||
    results.any (·.status == .fail)
      then EvalResultStatus.fail else .pass) =
      if (deriveCriticalFailures results expectations).isEmpty &&
        results.all (·.status != .fail) then .pass
      else .fail := by
    have failed : results.all (·.status != .fail) = !results.any (·.status == .fail) := by
      rw [List.not_any_eq_all_not]
      rfl
    rw [failed]
    cases (deriveCriticalFailures results expectations).isEmpty <;>
      cases results.any (·.status == .fail) <;> rfl
  simp only [deriveGradingOutcome, determineResultStatus, Except.bind_eq_ok_iff,
    Except.require_eq_ok_iff, Except.pure_eq_ok_iff, Bool.and_eq_true, Bool.not_eq_true',
    List.isEmpty_eq_false_iff, allDistinct_iff,
    List.all_eq_true, List.map_eq_nil_iff, ne_eq, List.forall_mem_map, verdict]
  constructor
  · rintro ⟨-, ⟨⟨some_, unique⟩, known⟩, status, ⟨-, -, -, -, rfl⟩, rfl⟩
    exact ⟨some_, unique, known, rfl⟩
  · rintro ⟨some_, unique, known, rfl⟩
    exact ⟨(), ⟨⟨some_, unique⟩, known⟩, _, ⟨(), some_, (), ⟨unique, distinct⟩, rfl⟩, rfl⟩

/-- A result that failed makes the outcome fail. -/
theorem status_of_failed (derived : deriveGradingOutcome results expectations = .ok outcome)
    {result : EvalGraderResult} (member : result ∈ results) (failed : result.status = .fail) :
    outcome.status = .fail := by
  obtain ⟨-, -, -, rfl⟩ := deriveGradingOutcome_eq_ok_iff.mp derived
  have some_ : results.all (·.status != .fail) = false := by
    rw [List.all_eq_false]
    exact ⟨result, member, by simp [failed]⟩
  simp [some_]

theorem ofText_injective : Function.Injective ofText := by
  intro left right same
  exact String.toList_inj.mp (Json.string.inj same)

theorem name_injective : Function.Injective Grader.name := by
  intro left right same
  rw [← Option.some.injEq, ← Grader.named_name, ← Grader.named_name, same]

/-- The registered grader of a configured name is the one that bears it. -/
private theorem ofText_name_of_configured {name : Json} {grader : Grader}
    (found : (nonemptyText name).bind Grader.named = some grader) : name = ofText grader.name := by
  obtain ⟨wanted, spelled, named⟩ := Option.bind_eq_some_iff.mp found
  obtain rfl := Grader.name_of_named named
  cases name with
  | string characters =>
    obtain ⟨same, -⟩ := Option.filter_eq_some_iff.mp spelled
    rw [ofText, ← Option.some.inj same, String.toList_ofList]
  | _ => cases spelled

private theorem configuredGraders_eq_ok_iff {names : List Json} {graders : List Grader} :
    configuredGraders names = .ok graders ↔
      names = graders.map (ofText ·.name) ∧ graders ≠ [] ∧ graders.Nodup := by
  have step (name : Json) (grader : Grader) : (match (nonemptyText name).bind Grader.named with
      | some grader => Except.ok grader
      | none => .error (EvalException.gradingConfiguration "grader configuration is not closed")) =
          .ok grader ↔
        name = ofText grader.name := by
    constructor
    · intro found
      split at found
      · next other same =>
        obtain rfl := Except.ok.inj found
        exact ofText_name_of_configured same
      · cases found
    · rintro rfl
      have spelled : nonemptyText (ofText grader.name) = some grader.name := by
        cases grader <;> decide
      rw [spelled, Option.bind_some, Grader.named_name]
  have aligned (graders : List Grader) :
      List.Forall₂ (fun name grader => name = ofText (Grader.name grader)) names graders ↔
        names = graders.map (ofText ·.name) := by
    rw [← List.forall₂_eq_eq_eq, List.forall₂_map_right_iff]
  simp only [configuredGraders, Except.bind_eq_ok_iff, Except.mapM_eq_ok_iff, step, aligned,
    Except.require_eq_ok_iff, Except.pure_eq_ok_iff, Bool.and_eq_true, Bool.not_eq_true',
    List.isEmpty_eq_false_iff, allDistinct_iff]
  constructor
  · rintro ⟨_, same, _, closed, rfl⟩
    exact ⟨same, closed⟩
  · rintro ⟨same, closed⟩
    exact ⟨graders, same, (), closed, rfl⟩

theorem gradeEvidence_eq_ok_iff {names : List Json} {evidence : EvalEvidence} :
    gradeEvidence names evidence expectations = .ok outcome ↔ ∃ graders : List Grader,
      names = graders.map (ofText ·.name) ∧ graders ≠ [] ∧ graders.Nodup ∧
        deriveGradingOutcome (graders.map (·.grade evidence expectations)) expectations =
        .ok outcome := by
  simp only [gradeEvidence, Except.bind_eq_ok_iff, configuredGraders_eq_ok_iff, and_assoc]

end MiniAgent.Evaluation
