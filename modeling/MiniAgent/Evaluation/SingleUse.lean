import MiniAgent.Evaluation.HarnessRuns
import MiniAgent.Library.Steps

/-! # Identities are used once

An execution is asked for under a fresh identity, which is pending for its time and retired after
it. The grader runner sees evidence only between two executions: the answer to the one before, under
the identity of that execution and for the case that it executed.
-/

namespace MiniAgent.Evaluation

open MiniAgent.Core MiniAgent.Application ContractModel Coroutine

/-- The input of an execution. -/
def executedAs : HarnessEvent → Option EvalCaseExecutionInput
  | ⟨.executeCase executionInput _ _, _⟩ => some executionInput
  | ⟨.executeQwenCase executionInput, _⟩ => some executionInput
  | _ => none

/-- The identities that are handed out: to the system under test and to the script. -/
def identitiesOf : HarnessEvent → List Uuid
  | ⟨.executeCase executionInput scriptedProvider _, _⟩ =>
    [executionInput.executionRef, scriptedProvider.scriptExecutionRef]
  | ⟨.executeQwenCase executionInput, _⟩ => [executionInput.executionRef]
  | _ => []

def handedOut (events : List HarnessEvent) : List Uuid := events.flatMap identitiesOf

/-- The evidence is the answer to the execution, under its identity and with the input of the case;
the Trace may have been loaded since. -/
def IsAnswerTo (evalCase : EvalCaseArtifact) (evidence : EvalEvidence)
    (execution : HarnessEvent) : Prop :=
  evidence.caseId = evalCase.caseId ∧ ∃ executionInput result,
    executedAs execution = some executionInput ∧
    executionInputOf evalCase executionInput.executionRef = .ok executionInput ∧
    sutAnswer execution = some (executionInput.executionRef, result) ∧
    result.executionRef = executionInput.executionRef ∧
    ∃ traceEvents, evidence.toUnboundEvalEvidence = { result.evidence with traceEvents }

/-- What the grader runner sees in these events is the answer to the one execution among them. -/
def GradedAlone (evalCase : EvalCaseArtifact) (events : List HarnessEvent) : Prop :=
  ∀ before names evidence expectations answer after,
    events = before ++ ⟨.graderRunner names evidence expectations, answer⟩ :: after →
      ∃ earlier execution later, before = earlier ++ execution :: later ∧
        (∀ event ∈ earlier ++ (later ++ after), executedAs event = none) ∧
        IsAnswerTo evalCase evidence execution

/-- These are the events of staging the case. -/
def StagingOf (harness : OfflineEvalHarness) (evalCase : EvalCaseArtifact)
    (events : List HarnessEvent) : Prop :=
  ∃ run selectedScriptRef state outcome final, run.harness = harness ∧ run.evalCase = evalCase ∧
    (stageCase run selectedScriptRef state).Runs events (outcome, final)

/-- The grader runner sees evidence of a case while that case is staged only, and what it sees then
is the answer to the execution of the case. -/
def GradedSoundly (harness : OfflineEvalHarness) (events : List HarnessEvent) : Prop :=
  ∀ before names evidence expectations answer after,
    events = before ++ ⟨.graderRunner names evidence expectations, answer⟩ :: after →
      ∃ evalCase front opened closed back, before = front ++ opened ∧ after = closed ++ back ∧
        harness.artifacts.caseById evidence.caseId = .ok evalCase ∧
        StagingOf harness evalCase
          (opened ++ ⟨.graderRunner names evidence expectations, answer⟩ :: closed) ∧
        ∃ earlier execution later, opened = earlier ++ execution :: later ∧
          (∀ event ∈ earlier ++ (later ++ closed), executedAs event = none) ∧
          IsAnswerTo evalCase evidence execution

/-- What a part of a run does to the registries of the identities. -/
structure Registers (state : HarnessState) (events : List HarnessEvent) (final : HarnessState) :
    Prop where
  grows : state.issuedNonces ⊆ final.issuedNonces
  once : (handedOut events).Nodup
  fresh : ∀ identity ∈ handedOut events, identity ∉ state.issuedNonces
  issued : handedOut events ⊆ final.issuedNonces
  keeps : state.retiredExecutionRefs ⊆ final.retiredExecutionRefs
  retired : ∀ event ∈ events, ∀ executionInput, executedAs event = some executionInput →
    executionInput.executionRef ∈ final.retiredExecutionRefs
  pending : state.pendingCaseByExecutionRef = [] → final.pendingCaseByExecutionRef = []

private theorem composes_registers : Composes Registers where
  refl state :=
    ⟨List.Subset.refl _, List.nodup_nil, List.forall_mem_nil _, List.nil_subset _,
      List.Subset.refl _, List.forall_mem_nil _, id⟩
  trans {state middle final before after} first second := by
    have both : handedOut (before ++ after) = handedOut before ++ handedOut after :=
      List.flatMap_append
    refine ⟨List.Subset.trans first.grows second.grows, ?_, ?_, ?_,
      List.Subset.trans first.keeps second.keeps, ?_, fun none =>
        second.pending (first.pending none)⟩
    · rw [both]
      refine List.nodup_append'.mpr ⟨first.once, second.once, fun identity early late => ?_⟩
      exact second.fresh identity late (first.issued early)
    · rw [both]
      refine List.forall_mem_append.mpr ⟨first.fresh, fun identity late known => ?_⟩
      exact second.fresh identity late (first.grows known)
    · rw [both]
      exact List.append_subset.mpr ⟨List.Subset.trans first.issued second.grows, second.issued⟩
    · refine List.forall_mem_append.mpr
        ⟨fun event member executionInput executed => ?_, second.retired⟩
      exact second.keeps (first.retired event member executionInput executed)

private theorem gradedSoundly_append {harness : OfflineEvalHarness}
    {first second : List HarnessEvent} (before : GradedSoundly harness first)
    (after : GradedSoundly harness second) :
    GradedSoundly harness (first ++ second) := by
  intro start names evidence expectations answer stop split
  rcases List.append_eq_append_iff.mp split with ⟨middle, rfl, same⟩ | ⟨middle, rfl, same⟩
  · obtain ⟨evalCase, front, opened, closed, back, rfl, rest⟩ :=
      after middle names evidence expectations answer stop same
    exact ⟨evalCase, first ++ front, opened, closed, back, (List.append_assoc ..).symm, rest⟩
  · cases middle with
    | nil =>
      obtain ⟨evalCase, front, opened, closed, back, none, found, known, staging, rest⟩ :=
        after [] names evidence expectations answer stop same.symm
      refine ⟨evalCase, start ++ front, opened, closed, back, ?_, found, known, staging, rest⟩
      rw [List.append_assoc, ← none, List.append_nil]
    | cons event rest =>
      obtain ⟨rfl, rfl⟩ := List.cons.inj same
      obtain ⟨evalCase, front, opened, closed, back, found, rfl, answers⟩ :=
        before start names evidence expectations answer rest rfl
      exact ⟨evalCase, front, opened, closed, back ++ second, found, List.append_assoc .., answers⟩

/-- What a part of a run does to the identities and what it grades. -/
def Uses (harness : OfflineEvalHarness) (state : HarnessState) (events : List HarnessEvent)
    (final : HarnessState) :
    Prop := Registers state events final ∧ GradedSoundly harness events

private theorem composes_uses (harness : OfflineEvalHarness) : Composes (Uses harness) where
  refl state := by
    refine ⟨composes_registers.refl state,
      fun before names evidence expectations answer after split => ?_⟩
    cases List.append_eq_nil_iff.mp split.symm |>.2
  trans first second :=
    ⟨composes_registers.trans first.1 second.1, gradedSoundly_append first.2 second.2⟩

private theorem identitiesOf_quiet {event : HarnessEvent} (quiet : event.call.IsQuiet) :
    identitiesOf event = [] ∧ executedAs event = none := by
  obtain ⟨call, answer⟩ := event
  cases call <;> first | exact ⟨rfl, rfl⟩ | exact quiet.elim

variable {harness : OfflineEvalHarness} {state : HarnessState} {events : List HarnessEvent}
  {α : Type}

/-- Events that are no executions hand nothing out. -/
private theorem handedOut_eq_nil (idle : ∀ event ∈ events, executedAs event = none) :
    handedOut events = [] := by
  refine List.flatMap_eq_nil_iff.mpr fun event member => ?_
  have none := idle event member
  obtain ⟨call, answer⟩ := event
  cases call <;> first | rfl | cases none

private theorem registers_of_idle (idle : ∀ event ∈ events, executedAs event = none) :
    Registers state events state := by
  have none := handedOut_eq_nil idle
  refine ⟨List.Subset.refl _, none ▸ List.nodup_nil, ?_, ?_, List.Subset.refl _, ?_, id⟩
  · rw [none]
    exact List.forall_mem_nil _
  · rw [none]
    exact List.nil_subset _
  · intro event member executionInput executed
    cases (idle event member).symm.trans executed

/-- A part without a call of the grader runner. -/
def Rests (state : HarnessState) (events : List HarnessEvent) (final : HarnessState) : Prop :=
  Registers state events final ∧
    ∀ event ∈ events, ∀ names evidence expectations,
      event.call ≠ .graderRunner names evidence expectations

private theorem composes_rests : Composes Rests where
  refl state := ⟨composes_registers.refl state, List.forall_mem_nil _⟩
  trans first second :=
    ⟨composes_registers.trans first.1 second.1, List.forall_mem_append.mpr ⟨first.2, second.2⟩⟩

theorem Rests.alone {final : HarnessState} (rests : Rests state events final)
    (evalCase : EvalCaseArtifact) :
    GradedAlone evalCase events := by
  rintro before names evidence expectations answer after rfl
  exact absurd rfl (rests.2 _ (List.mem_append_right _ List.mem_cons_self) names evidence
    expectations)

private theorem Rests.uses {final : HarnessState} (rests : Rests state events final) :
    Uses harness state events final := by
  refine ⟨rests.1, ?_⟩
  rintro before names evidence expectations answer after rfl
  exact absurd rfl (rests.2 _ (List.mem_append_right _ List.mem_cons_self) names evidence
    expectations)

private theorem rests_of_calls (calls : ∀ event ∈ events, event.call.IsQuiet) :
    Rests state events state := by
  refine ⟨registers_of_idle fun event member => (identitiesOf_quiet (calls event member)).2, ?_⟩
  intro event member names evidence expectations same
  have quietCall := calls event member
  rw [same] at quietCall
  exact quietCall

private theorem rests_of_quiet {action : Harness α} (quiet : Quiet action) : action.Steps Rests :=
  quiet.steps fun _ _ => rests_of_calls

private theorem uses_of_quiet {action : Harness α} (quiet : Quiet action) :
    action.Steps (Uses harness) :=
  quiet.steps fun _ _ calls => (rests_of_calls calls).uses

/-- Issuing identities changes the registry of issued ones only, and adds to it. -/
structure Issues (state : HarnessState) (events : List HarnessEvent) (final : HarnessState) :
    Prop where
  calls : ∀ event ∈ events, event.call = .nonceFactory
  grows : state.issuedNonces ⊆ final.issuedNonces
  same : final = { state with issuedNonces := final.issuedNonces }

/-- Two identities that were never issued before and will not be issued again. -/
structure FreshPair (state final : HarnessState) (first second : Uuid) : Prop where
  apart : first ≠ second
  firstFresh : first ∉ state.issuedNonces
  secondFresh : second ∉ state.issuedNonces
  firstIssued : first ∈ final.issuedNonces
  secondIssued : second ∈ final.issuedNonces

/-- The nonce factory may answer what it likes: an issued pair is fresh. -/
private theorem issueNoncePair_ensures (state : HarnessState) :
    issueNoncePair.Ensures state fun outcome final events =>
    Issues state events final ∧
      ∀ first second, outcome = .ok (some (first, second)) →
      FreshPair state final first second := by
  have asks : (Coroutine.ask HarnessCall.nonceFactory : Harness _).Within (· = .nonceFactory) :=
    within_ask rfl
  have drawn : (caught do
      let first ← Coroutine.ofExcept (← Coroutine.ask HarnessCall.nonceFactory)
      let second ← Coroutine.ofExcept (← Coroutine.ask HarnessCall.nonceFactory)
      return (first, second) : Harness (Option (Option Uuid × Option Uuid))).Within (· =
          .nonceFactory) := by
    refine Within.tryCatch (Within.map _ ?_) fun failure => ?_
    · exact asks.bind fun _ => (within_ofExcept _).bind fun _ => asks.bind fun _ =>
        (within_ofExcept _).bind fun _ =>
        within_pure _
    · split
      · exact within_pure none
      · exact within_throw failure
  have issues (events : List HarnessEvent) (calls : ∀ event ∈ events, event.call = .nonceFactory) :
      Issues state events state := ⟨calls, List.Subset.refl _, rfl⟩
  unfold issueNoncePair
  refine ensures_bind_iff.mpr ((drawn state).mono fun outcome middle events kept => ?_)
  obtain ⟨rfl, calls⟩ := kept
  cases outcome with
  | error failure => exact ⟨issues events calls, fun _ _ => nofun⟩
  | ok values =>
    dsimp only
    split
    · next first second =>
      refine ensures_bind_iff.mpr (ensures_read_iff.mpr ?_)
      refine ensures_bind_iff.mpr (ensures_modify_iff.mpr (ensures_pure_iff.mpr ?_))
      simp only [List.append_nil]
      refine ⟨⟨calls, fun known member => List.mem_cons_of_mem _ (List.mem_cons_of_mem _ member),
        rfl⟩, ?_⟩
      intro one other issued
      split at issued
      · next accepted =>
        simp only [Bool.and_eq_true, bne_iff_ne, decide_eq_true_eq] at accepted
        obtain ⟨⟨⟨-, apart⟩, firstFresh⟩, secondFresh⟩ := accepted
        cases issued
        exact ⟨apart, firstFresh, secondFresh, List.mem_cons_self,
          List.mem_cons_of_mem _ List.mem_cons_self⟩
      · cases issued
    · refine ensures_pure_iff.mpr ⟨?_, fun _ _ => nofun⟩
      rw [List.append_nil]
      exact issues events calls

private theorem Issues.rests {final : HarnessState} (issues : Issues state events final) :
    Rests state events final := by
  have idle : ∀ event ∈ events, executedAs event = none := by
    rintro ⟨call, answer⟩ member
    obtain rfl : call = .nonceFactory := issues.calls _ member
    rfl
  have kept := @registers_of_idle final _ idle
  have registers : Registers state events final := by
    have same := issues.same
    refine ⟨issues.grows, kept.once, ?_, kept.issued, ?_, kept.retired, ?_⟩
    · rw [handedOut_eq_nil idle]
      exact List.forall_mem_nil _
    · rw [same]
      exact List.Subset.refl _
    · rw [same]
      exact id
  refine ⟨registers, fun event member names evidence expectations same => ?_⟩
  cases (issues.calls event member).symm.trans same

/-- One execution: the answer is to its input, and its identity is retired, whatever the outcome. -/
private theorem executeOnce_ensures (run : CaseRun) (executionRef : Uuid)
    (executionInput : EvalCaseExecutionInput) (provider : Option ScriptedModelProviderV2)
    (state : HarnessState) :
    (executeOnce run executionRef executionInput provider).Ensures state fun outcome final events =>
    ∃ execution,
      events = [execution] ∧ executedAs execution = some executionInput ∧
      identitiesOf execution =
      executionInput.executionRef :: (provider.map (·.scriptExecutionRef)).toList ∧
      final = { state with
        pendingCaseByExecutionRef :=
          ((executionRef, run.evalCase.caseId) :: state.pendingCaseByExecutionRef).filter
          (·.1 != executionRef)
        retiredExecutionRefs := executionRef :: state.retiredExecutionRefs } ∧
      ∀ executed result, outcome = .ok executed → executed.sutResult = some (some result) →
        sutAnswer execution = some (executionInput.executionRef, result) := by
  have answered (reply : Except EvalException (Option EvalCaseSutResult))
      (pendingCase : Option String) (cursor : ℕ)
      (last : HarnessState) : (caught (Coroutine.ofExcept reply) >>= fun sutResult =>
        (pure { sutResult, pendingCase, cursor } : Harness Execution)).Ensures last fun outcome
            final events =>
          final = last ∧ events = [] ∧ ∀ executed result, outcome = .ok executed →
            executed.sutResult = some (some result) → reply = .ok (some result) := by
    cases reply with
    | ok value =>
      refine (ensures_iff_of_done rfl).mpr ⟨rfl, rfl, fun executed result same found => ?_⟩
      rw [← Except.ok.inj same] at found
      rw [Option.some.inj found]
    | error failure =>
      have raised : (caught (Coroutine.ofExcept (.error failure)) :
        Harness (Option (Option EvalCaseSutResult))) last =
          .done (if failure.isException then .ok none else .error failure, last) := by
        show ((if failure.isException then pure none else
          throw failure : Harness (Option (Option EvalCaseSutResult)))
          last) = _
        split <;> rfl
      refine ensures_bind_iff.mpr ((ensures_iff_of_done raised).mpr ?_)
      split
      · next value caught_ =>
        split at caught_ <;> cases caught_
        exact ensures_pure_iff.mpr
          ⟨rfl, rfl, fun executed result same found => by cases same; cases found⟩
      · exact ⟨rfl, rfl, fun _ _ => nofun⟩
  rw [executeOnce_eq]
  refine ensures_bind_iff.mpr (ensures_modify_iff.mpr ?_)
  cases provider with
  | some provider =>
    refine ensures_bind_iff.mpr (ensures_ask_iff.mpr fun answer => ?_)
    refine ensures_bind_iff.mpr
      (ensures_read_iff.mpr (ensures_bind_iff.mpr (ensures_modify_iff.mpr ?_)))
    refine (answered answer.1 _ answer.2 _).mono ?_
    rintro outcome final events ⟨rfl, rfl, replied⟩
    refine ⟨⟨.executeCase executionInput provider provider.runtimeFault, answer⟩, rfl, rfl, rfl,
      rfl, ?_⟩
    intro executed result same found
    have reply := replied executed result same found
    obtain ⟨_, cursor⟩ := answer
    obtain rfl := reply
    rfl
  | none =>
    have asked : askSut executionInput none = Coroutine.ask
        (HarnessCall.executeQwenCase executionInput) >>=
        fun reply => pure (reply, 0) := map_eq_pure_bind _ _
    rw [asked, bind_assoc]
    refine ensures_bind_iff.mpr (ensures_ask_iff.mpr fun answer => ?_)
    dsimp only
    rw [pure_bind]
    refine ensures_bind_iff.mpr
      (ensures_read_iff.mpr (ensures_bind_iff.mpr (ensures_modify_iff.mpr ?_)))
    refine (answered answer _ 0 _).mono ?_
    rintro outcome final events ⟨rfl, rfl, replied⟩
    refine ⟨⟨.executeQwenCase executionInput, answer⟩, rfl, rfl, rfl, rfl, ?_⟩
    intro executed result same found
    obtain rfl := replied executed result same found
    rfl

/-- A call after an execution and before the next: the grader runner is asked about the answer
only. -/
def GradesFor (evalCase : EvalCaseArtifact) (execution : HarnessEvent) : HarnessCall → Prop
  | .graderRunner _ evidence _ => IsAnswerTo evalCase evidence execution
  | .nonceFactory | .executeCase .. | .executeQwenCase _ => False
  | _ => True

variable {evalCase : EvalCaseArtifact} {execution : HarnessEvent}

private theorem gradesFor_of_quiet {action : Harness α} (quiet : Quiet action) :
    action.Within (GradesFor evalCase execution) := by
  refine quiet.mono fun call kind => ?_
  cases call <;> trivial

private theorem within_runVerifiedGrading {evidence : EvalEvidence}
    (answers : IsAnswerTo evalCase evidence execution) (configuredNames : List Json)
    (expectations : EvalCaseExpectations) :
    (runVerifiedGrading configuredNames evidence expectations).Within
    (GradesFor evalCase execution) := by
  have closed (object : CheckedObject) : (isClosed object).Within (GradesFor evalCase execution) :=
    gradesFor_of_quiet (quiet_isClosed object)
  have returned : (canonicalBoundEvidence evidence).Returns fun found => ∀ same, found = some same →
      same = evidence :=
    ((meets_canonicalBoundEvidence lenient_anything evidence).weaken fun _ found same other equal =>
      (same other equal).1).returns
  unfold runVerifiedGrading
  refine (within_ofExcept _).bind fun canonical => ?_
  extract_lets incompleteInput incompleteOutput
  refine (gradesFor_of_quiet (quiet_canonicalBoundEvidence evidence)).bindReturned returned
    fun found same => ?_
  rcases found with _ | runnerEvidence
  · exact within_throw _
  obtain rfl := same runnerEvidence rfl
  refine (gradesFor_of_quiet (quiet_detached _ expectations)).bind fun runnerExpectations => ?_
  rcases runnerExpectations with _ | runnerExpectations
  · exact within_throw _
  have asks : (Coroutine.ask
    (HarnessCall.graderRunner configuredNames runnerEvidence runnerExpectations) :
      Harness _).Within (GradesFor evalCase execution) := within_ask answers
  refine asks.bind fun reply => (within_ofExcept _).bind fun reportedRaw => ?_
  rcases reportedRaw with _ | reportedRaw
  · exact within_throw _
  refine (gradesFor_of_quiet (quiet_detached _ reportedRaw)).bind fun reported => ?_
  rcases reported with _ | reported
  · exact within_throw _
  refine (gradesFor_of_quiet quiet_singletonStateIsClosed).bind fun singletonsClosed => ?_
  extract_lets steps
  split
  · exact within_throw _
  refine (closed _).bind fun evidenceClosed => ?_
  split
  · exact within_throw _
  refine (closed _).bind fun expectationsClosed => ?_
  split
  · exact within_throw _
  refine (within_ofExcept _).bind fun unit_ => ?_
  split
  · exact within_throw _
  · exact within_pure _

/-- The accepted answer is graded twice. -/
private theorem within_gradeCase {run : CaseRun} {evidence : EvalEvidence}
    (answers : ∀ traceEvents, IsAnswerTo run.evalCase (evidence.withTrace traceEvents) execution)
    (same : evidence.withTrace evidence.traceEvents = evidence)
    (expectations : EvalCaseExpectations) (configuredNames : List Json)
    (sutResult : EvalCaseSutResult) (safeObservable : SafeCaseObservable) :
    (gradeCase run expectations configuredNames sutResult evidence safeObservable).Within
      (GradesFor run.evalCase execution) := by
  have quiet {β : Type} {action : Harness β} (isQuiet : Quiet action) :
      action.Within (GradesFor run.evalCase execution) :=
    gradesFor_of_quiet isQuiet
  have fails (phase : EvalExecutionFailurePhase)
      (safeErrorCode : Option EvalExecutionSafeErrorCode) :
      (run.fail phase evidence.traceRef safeErrorCode).Within (GradesFor run.evalCase execution) :=
    quiet (quiet_fail run phase _ safeErrorCode)
  unfold gradeCase
  extract_lets nonTraceNames
  refine (quiet (quiet_isClosed _)).bind fun closed => ?_
  split
  · exact fails _ _
  refine (within_caught (within_runVerifiedGrading (same ▸ answers _) _ _)).bind fun graded => ?_
  rcases graded with _ | initial
  · exact fails _ _
  refine (within_ofExcept _).bind fun gradedEvent => ?_
  extract_lets expectedStep appendedStep
  have expects (expected : Option EvalEvidence) :
      (expectedStep expected).Within (GradesFor run.evalCase execution) := by
    dsimp only [expectedStep]
    split
    · exact fails _ _
    refine (within_caught (quiet ?_)).bind fun reloaded => ?_
    · refine (quiet_detached _ evidence.traceRef).bind fun copy => ?_
      cases copy with
      | none => exact within_throw _
      | some traceRef => exact quiet_reply (.reloadTrace traceRef) trivial id
    rcases reloaded with _ | reloaded
    · exact fails _ _
    have returned : (finalEvidenceOf run evidence gradedEvent reloaded sutResult).Returns
        fun found => ∀ finalEvidence,
        found = some finalEvidence → ∃ traceEvents,
            finalEvidence = evidence.withTrace traceEvents :=
      ((meets_finalEvidenceOf lenient_anything run evidence gradedEvent reloaded sutResult).weaken
        fun _ found isFinal finalEvidence equal => by
          obtain ⟨traceEvents, -, final, -⟩ := isFinal finalEvidence equal
          exact ⟨traceEvents, final⟩).returns
    refine (quiet (quiet_finalEvidenceOf run evidence gradedEvent reloaded sutResult)).bindReturned
      returned
      fun found isFinal => ?_
    rcases found with _ | finalEvidence
    · exact fails _ _
    obtain ⟨traceEvents, rfl⟩ := isFinal finalEvidence rfl
    refine (within_caught (within_runVerifiedGrading (answers traceEvents) _ _)).bind
      fun graded => ?_
    rcases graded with _ | final
    · exact fails _ _
    · exact (within_ofExcept _).bind fun _ => within_pure _
  have appends (appended : Option Unit) :
      (appendedStep appended).Within (GradesFor run.evalCase execution) := by
    dsimp only [appendedStep]
    split
    · exact fails _ _
    refine (quiet (quiet_isClosed _)).bind fun eventClosed => ?_
    refine (quiet (quiet_isClosed _)).bind fun resultClosed => ?_
    split
    · exact (quiet (quiet_canonicalBoundEvidence _)).bind expects
    · exact expects none
  refine (quiet (quiet_isClosed _)).bind fun eventClosed => ?_
  split
  · exact (within_caught (quiet (quiet_reply (.appendEvalCaseGraded gradedEvent) trivial id))).bind
      appends
  · exact appends none

/-- The state after an execution: its identity is no longer pending, but retired. -/
def retire (state : HarnessState) (executionRef : Uuid) (caseId : String) : HarnessState :=
  { state with
    pendingCaseByExecutionRef :=
      ((executionRef, caseId) :: state.pendingCaseByExecutionRef).filter (·.1 != executionRef)
    retiredExecutionRefs := executionRef :: state.retiredExecutionRefs }

/-- An execution under a fresh pair of identities, with what comes before it and after it. -/
private theorem gradedAlone_of_execution {middle : HarnessState}
    {drawn prepared rest : List HarnessEvent} {executionInput : EvalCaseExecutionInput}
    {scriptExecutionRef : Uuid} {handed : List Uuid} {caseId : String}
    (issues : Issues state drawn middle)
    (fresh : FreshPair state middle executionInput.executionRef scriptExecutionRef)
    (quiet : ∀ event ∈ prepared, event.call.IsQuiet)
    (executed : executedAs execution = some executionInput)
    (identities : identitiesOf execution = executionInput.executionRef :: handed)
    (script : handed.Sublist [scriptExecutionRef])
    (graded : ∀ event ∈ rest, GradesFor evalCase execution event.call) :
    Registers state (drawn ++ (prepared ++ ([execution] ++ rest)))
    (retire middle executionInput.executionRef caseId) ∧
      GradedAlone evalCase (drawn ++ (prepared ++ ([execution] ++ rest))) := by
  have sameMiddle := issues.same
  have idleFront : ∀ event ∈ drawn ++ prepared, executedAs event = none := by
    refine List.forall_mem_append.mpr
      ⟨?_, fun event member => (identitiesOf_quiet (quiet event member)).2⟩
    rintro ⟨call, answer⟩ member
    obtain rfl : call = .nonceFactory := issues.calls _ member
    rfl
  have idleRest : ∀ event ∈ rest, executedAs event = none := by
    rintro ⟨call, answer⟩ member
    have kind := graded _ member
    cases call <;> first | rfl | cases kind
  have handedIs : handedOut (drawn ++ (prepared ++ ([execution] ++ rest))) =
      executionInput.executionRef :: handed := by
    rw [← List.append_assoc]
    simp only [handedOut, List.flatMap_append]
    rw [← List.flatMap_append]
    have front := handedOut_eq_nil idleFront
    have back := handedOut_eq_nil idleRest
    unfold handedOut at front back
    rw [front, back, List.flatMap_singleton, identities, List.nil_append, List.append_nil]
  have part : (executionInput.executionRef :: handed).Sublist
      [executionInput.executionRef, scriptExecutionRef] :=
    script.cons_cons _
  have pairFresh : ∀ identity ∈ [executionInput.executionRef, scriptExecutionRef],
      identity ∉ state.issuedNonces ∧ identity ∈ middle.issuedNonces := by
    refine List.forall_mem_cons.mpr ⟨⟨fresh.firstFresh, fresh.firstIssued⟩,
      List.forall_mem_singleton.mpr ?_⟩
    exact ⟨fresh.secondFresh, fresh.secondIssued⟩
  constructor
  · refine ⟨issues.grows, ?_, ?_, ?_, ?_, ?_, ?_⟩
    · rw [handedIs]
      refine List.Nodup.sublist part (List.nodup_cons.mpr ⟨?_, List.nodup_singleton _⟩)
      exact fun same => fresh.apart (List.mem_singleton.mp same)
    · rw [handedIs]
      exact fun identity member => (pairFresh identity (part.subset member)).1
    · rw [handedIs]
      exact fun identity member => (pairFresh identity (part.subset member)).2
    · rw [sameMiddle]
      exact fun identity member => List.mem_cons_of_mem _ member
    · intro event member other executedToo
      rw [← List.append_assoc] at member
      rcases List.mem_append.mp member with early | late
      · cases (idleFront event early).symm.trans executedToo
      · rcases List.mem_cons.mp late with rfl | later
        · obtain rfl := Option.some.inj (executed.symm.trans executedToo)
          exact List.mem_cons_self
        · cases (idleRest event later).symm.trans executedToo
    · intro none
      rw [sameMiddle]
      simp [retire, none]
  · intro before names evidence expectations answer after split
    rw [← List.append_assoc] at split
    have ungraded (event : HarnessEvent) (member : event ∈ drawn ++ prepared) :
        event ≠ ⟨.graderRunner names evidence expectations, answer⟩ := by
      rintro rfl
      rcases List.mem_append.mp member with early | late
      · cases issues.calls _ early
      · exact quiet _ late
    rcases List.append_eq_append_iff.mp split with ⟨between, rfl, same⟩ | ⟨between, same, rest_⟩
    · cases between with
      | nil =>
        obtain ⟨rfl, -⟩ := List.cons.inj same
        cases executed
      | cons head between =>
        obtain ⟨rfl, rfl⟩ : execution = head ∧
            rest = between ++ ⟨.graderRunner names evidence expectations, answer⟩ :: after :=
              List.cons.inj same
        refine ⟨drawn ++ prepared, execution, between, rfl, ?_, ?_⟩
        · refine List.forall_mem_append.mpr ⟨idleFront, fun event member => idleRest event ?_⟩
          rcases List.mem_append.mp member with early | late
          · exact List.mem_append_left _ early
          · exact List.mem_append_right _ (List.mem_cons_of_mem _ late)
        · exact graded ⟨.graderRunner names evidence expectations, answer⟩
            (List.mem_append_right _ List.mem_cons_self)
    · cases between with
      | nil =>
        obtain ⟨same, -⟩ := List.cons.inj rest_
        subst same
        cases executed
      | cons head between =>
        obtain ⟨rfl, -⟩ := List.cons.inj rest_
        have early : ⟨.graderRunner names evidence expectations, answer⟩ ∈ drawn ++ prepared := by
          rw [same]
          exact List.mem_append_right _ List.mem_cons_self
        exact absurd rfl (ungraded _ early)

private theorem quiet_prepared (run : CaseRun) (script : ModelScriptArtifact)
    (executionRef scriptExecutionRef : Uuid) : Quiet (do
    let some sutExecutionRef ← detachedClosedUuid executionRef | throw .valueError
    let some providerExecutionRef ← detachedClosedUuid scriptExecutionRef | throw .valueError
    let executionInput ← Coroutine.ofExcept (executionInputOf run.evalCase sutExecutionRef)
    let provider ← if run.qwenExecution then pure none
      else some <$> Coroutine.ofExcept (scriptedModelProvider script providerExecutionRef)
    return (executionInput, provider) :
    Harness (EvalCaseExecutionInput × Option ScriptedModelProviderV2)) := by
  refine (quiet_detached _ executionRef).bind fun copy => ?_
  rcases copy with _ | sutExecutionRef
  · exact within_throw _
  refine (quiet_detached _ scriptExecutionRef).bind fun providerRef => ?_
  rcases providerRef with _ | providerExecutionRef
  · exact within_throw _
  refine (within_ofExcept _).bind fun executionInput => ?_
  split
  · exact within_pure _
  · exact ((within_ofExcept _).map some).bind fun provider => within_pure _

/-- What the bound evidence of an accepted answer says, and its Trace replaced. -/
private theorem isAnswerTo_of_bound {run : CaseRun} {executionInput : EvalCaseExecutionInput}
    (built : executionInputOf run.evalCase executionInput.executionRef = .ok executionInput)
    (executed : executedAs execution = some executionInput) {sutResult : EvalCaseSutResult}
    (answered : sutAnswer execution = some (executionInput.executionRef, sutResult))
    (identity : sutResult.executionRef = executionInput.executionRef) {evidence : EvalEvidence}
    (bound : bindAuthenticatedCase sutResult run.evalCase.caseId = some evidence)
    (traceEvents : List TraceEvent) :
    IsAnswerTo run.evalCase (evidence.withTrace traceEvents) execution := by
  obtain ⟨records, named, -⟩ := CaseRun.bindAuthenticatedCase_eq_some bound
  refine ⟨named, executionInput, sutResult, executed, built, answered, identity, traceEvents, ?_⟩
  rw [← records]
  rfl

/-- Staging a case executes it at most once, under identities of its own, and grades that answer
only. -/
private theorem stageCase_alone (run : CaseRun) (selectedScriptRef : Option String) :
    (stageCase run selectedScriptRef).Steps
    fun state events final => Registers state events final ∧ GradedAlone run.evalCase events := by
  have composes := composes_rests
  unfold stageCase
  split
  · next script expectations setup =>
    intro state
    refine ensures_bind_iff.mpr
      ((issueNoncePair_ensures state).mono fun outcome middle drawn issued => ?_)
    obtain ⟨issues, fresh⟩ := issued
    rcases outcome with failure | _ | ⟨executionRef, scriptExecutionRef⟩
    · exact ⟨issues.rests.1, issues.rests.alone _⟩
    · refine (rests_of_quiet (quiet_fail _ _ _ _) middle).mono fun _ _ _ ends => ?_
      have rests := composes.trans issues.rests ends
      exact ⟨rests.1, rests.alone _⟩
    have pair := fresh executionRef scriptExecutionRef rfl
    have quietly := quiet_caught (quiet_prepared run script executionRef scriptExecutionRef)
    have meets : Coroutine.Meets (fun _ => True) (caught _) _ _ :=
      meets_caught lenient_anything (meets_prepared run script executionRef scriptExecutionRef)
    refine ensures_bind_iff.mpr (((quietly middle).and (meets.returns.ensures middle)).mono
      fun outcome last preparing kept => ?_)
    obtain ⟨⟨rfl, calls⟩, carried⟩ := kept
    have prepares : Rests last preparing last := rests_of_calls calls
    rcases outcome with failure | _ | ⟨executionInput, provider⟩
    · have rests := composes.trans issues.rests prepares
      exact ⟨rests.1, rests.alone _⟩
    · refine (rests_of_quiet (quiet_fail _ _ _ _) last).mono fun _ _ _ ends => ?_
      have rests := composes.trans issues.rests (composes.trans prepares ends)
      exact ⟨rests.1, rests.alone _⟩
    obtain ⟨built, scripted⟩ := carried _ rfl _ rfl
    have sameRef : executionInput.executionRef = executionRef := executionInputOf_ref built
    dsimp only
    refine ensures_bind_iff.mpr
      ((executeOnce_ensures run executionRef executionInput provider last).mono
      fun outcome final events executedOnce => ?_)
    obtain ⟨event, rfl, executed, identities, rfl, answered⟩ := executedOnce
    have handed : ((provider.map (·.scriptExecutionRef)).toList).Sublist [scriptExecutionRef] := by
      cases provider with
      | none => exact List.nil_sublist _
      | some provider =>
        obtain rfl := scripted provider rfl
        exact .refl _
    have uses (rest : List HarnessEvent)
        (graded : ∀ other ∈ rest, GradesFor run.evalCase event other.call) :
        Registers state (drawn ++ (preparing ++ ([event] ++ rest)))
            (retire last executionInput.executionRef run.evalCase.caseId) ∧
          GradedAlone run.evalCase (drawn ++ (preparing ++ ([event] ++ rest))) :=
      gradedAlone_of_execution issues (sameRef ▸ pair) calls executed identities handed graded
    rw [← sameRef]
    have judged {action : Harness Staged} (within : action.Within (GradesFor run.evalCase event)) :
        action.Ensures (retire last executionInput.executionRef run.evalCase.caseId) fun _ final
            events =>
          Registers state (drawn ++ (preparing ++ ([event] ++ events))) final ∧
            GradedAlone run.evalCase (drawn ++ (preparing ++ ([event] ++ events))) := by
      refine (within _).mono fun _ final rest ends => ?_
      obtain ⟨rfl, graded⟩ := ends
      exact uses rest graded
    rcases outcome with failure | execution
    · exact uses [] (List.forall_mem_nil _)
    refine judged ?_
    have fails (phase : EvalExecutionFailurePhase) (traceRef : Option Uuid) :
        (run.fail phase traceRef).Within (GradesFor run.evalCase event) :=
          gradesFor_of_quiet (quiet_fail run phase _ _)
    split
    · next sutResult reported =>
      rcases sutResult with _ | sutResult
      · exact fails _ _
      have isAnswer := answered execution sutResult rfl reported
      refine (gradesFor_of_quiet (quiet_canonicalUnboundResult sutResult)).bind fun canonical => ?_
      split
      · exact fails _ _
      next accepted =>
      simp only [Bool.not_eq_true', Bool.not_eq_false, Bool.and_eq_true, beq_iff_eq] at accepted
      split
      · next bound isBound =>
        have meets : Coroutine.Meets (fun _ => True) (canonicalBoundEvidence bound) _ _ :=
          meets_canonicalBoundEvidence lenient_anything bound
        refine (gradesFor_of_quiet (quiet_canonicalBoundEvidence bound)).bindReturned meets.returns
          fun kept same => ?_
        rcases kept with _ | evidence
        · exact fails _ _
        obtain ⟨rfl, -⟩ := same evidence rfl
        dsimp only
        split
        · split
          · exact fails _ _
          refine (within_ofExcept _).bind fun configuredNames => ?_
          split
          · exact fails _ _
          have answers :=
            isAnswerTo_of_bound (sameRef ▸ built) executed isAnswer accepted.1.2 isBound
          exact within_gradeCase answers rfl expectations configuredNames sutResult _
        · exact fails _ _
      · exact fails _ _
    · exact fails _ _
  · exact fun state => (rests_of_quiet (quiet_fail _ _ _ _) state).mono fun _ _ _ rests =>
      ⟨rests.1, rests.alone _⟩

private theorem steps_stageCase (run : CaseRun) (selectedScriptRef : Option String)
    (found : run.harness.artifacts.caseById run.evalCase.caseId = .ok run.evalCase) :
    (stageCase run selectedScriptRef).Steps (Uses run.harness) := by
  intro state events outcome final ran
  obtain ⟨registers, alone⟩ := stageCase_alone run selectedScriptRef state events outcome final ran
  refine ⟨registers, ?_⟩
  rintro before names evidence expectations answer after rfl
  obtain ⟨earlier, execution, later, rfl, idle, answers⟩ :=
    alone before names evidence expectations answer after rfl
  refine ⟨run.evalCase, [], earlier ++ execution :: later, after, [], rfl, (List.append_nil _).symm,
    ?_, ?_, ?_⟩
  · rw [answers.1]
    exact found
  · exact ⟨run, selectedScriptRef, state, outcome, final, rfl, rfl, ran⟩
  · exact ⟨earlier, execution, later, rfl, idle, answers⟩

private theorem steps_stageOrReplay (run : LaneRun) {caseId : String} {evalCase : EvalCaseArtifact}
    (found : run.harness.artifacts.caseById caseId = .ok evalCase) :
    (stageOrReplay run caseId evalCase).Steps (Uses run.harness) := by
  have composes := composes_uses run.harness
  have named := LoadedE2E01Artifacts.caseById_caseId found
  unfold stageOrReplay
  refine composes.read.bind composes fun state => ?_
  extract_lets cache
  split
  · exact composes.pure _
  · exact steps_stageCase (run.caseRun evalCase) _ (named ▸ found)

private theorem steps_stageSelected (run : LaneRun) (ids : List String) (staging : Staging) :
    (stageSelected run ids staging).Steps (Uses run.harness) := by
  have composes := composes_uses run.harness
  induction ids generalizing staging with
  | nil => exact composes.pure staging
  | cons caseId rest ih =>
    unfold stageSelected
    cases found : run.harness.artifacts.caseById caseId with
    | error failure => exact composes.throw failure
    | ok evalCase => exact (steps_stageOrReplay run found).bind composes fun staged => ih _

/-- The replay cache is no registry of identities. -/
private theorem steps_cache (entry : ReplayCacheKey × StagedCase) :
    (Coroutine.modify fun state => { state with
    persistedStageByReplayKey := entry :: state.persistedStageByReplayKey } :
    Harness Unit).Steps (Uses harness) := by
  intro state
  have same := (composes_uses harness).refl state
  refine ensures_modify_iff.mpr ⟨?_, same.2⟩
  exact ⟨same.1.grows, same.1.once, same.1.fresh, same.1.issued, same.1.keeps, same.1.retired, id⟩

private theorem steps_persistCase (run : LaneRun) (replayKey : Option ReplayCacheKey)
    (stage : StagedCase) :
    (persistCase run replayKey stage).Steps (Uses harness) := by
  have composes := composes_uses harness
  unfold persistCase
  refine (uses_of_quiet (quiet_appendResult _ _ _ _)).bind composes fun appended => ?_
  rcases appended with failure | record
  · exact composes.pure _
  refine (uses_of_quiet (quiet_copiesAreClosed record stage)).bind composes fun closed => ?_
  split
  · cases replayKey with
    | none => exact composes.pure _
    | some key => exact (steps_cache _).bind composes fun _ => composes.pure _
  · exact (uses_of_quiet (quiet_laneFailure _ _ _ _)).bind composes fun _ => composes.pure _

private theorem steps_persistSelected (run : LaneRun) (staging : Staging) (ids : List String)
    (records : LaneRecords) :
    (persistSelected run staging ids records).Steps (Uses harness) := by
  have composes := composes_uses harness
  induction ids generalizing records with
  | nil => exact composes.pure records
  | cons caseId rest ih =>
    unfold persistSelected
    split
    · exact ih records
    · exact (steps_persistCase run _ _).bind composes fun persisted => ih _

private theorem steps_runSelected (run : LaneRun) (lane : String) (selectedIds : List String) :
    (runSelected run lane selectedIds).Steps (Uses run.harness) := by
  have composes := composes_uses run.harness
  refine (steps_stageSelected run selectedIds {}).bind composes fun staging => ?_
  refine (uses_of_quiet (quiet_applyPairRule run selectedIds staging)).bind composes
    fun settled => ?_
  exact (steps_persistSelected run settled selectedIds _).bind composes fun records =>
    composes.ofExcept _

private theorem steps_runLaneImpl (harness : OfflineEvalHarness) (request : LaneRequest)
    (qwenExecution : Bool) :
    (runLaneImpl harness request qwenExecution).Steps (Uses harness) := by
  have composes := composes_uses harness
  have fails (lane : String) (laneArtifact : Option EvalLaneArtifact) :
      (setupFailed harness request lane laneArtifact).Steps (Uses harness) :=
    uses_of_quiet (quiet_setupFailed harness request lane laneArtifact)
  unfold runLaneImpl
  refine (uses_of_quiet (quiet_detached _ request.evalRunId)).bind composes fun evalRunId => ?_
  rcases evalRunId with _ | evalRunId
  · exact composes.throw _
  dsimp only
  generalize (if qwenExecution = true then "qwen_baseline" else "offline_gate") = laneName
  split
  · exact fails _ _
  split
  · next laneArtifact found =>
    split
    · exact fails _ _
    refine (composes.ofExcept _).bind composes fun cases => ?_
    split
    · exact uses_of_quiet (quiet_casesFailed _ _ _ _)
    split
    · exact uses_of_quiet (quiet_casesFailed _ _ _ _)
    · exact steps_runSelected _ _ _
  · exact fails _ _

private theorem steps_runLane (harness : OfflineEvalHarness) (request : LaneRequest) :
    (runLane harness request).Steps (Uses harness) :=
  steps_runLane_of_impl (composes_uses harness) (fun plain => uses_of_quiet (quiet_of_plain plain))
    (steps_runLaneImpl harness request false)

private theorem steps_runQwenBaselineImpl (harness : OfflineEvalHarness) (request : QwenRequest) :
    (runQwenBaselineImpl harness request).Steps (Uses harness) := by
  have composes := composes_uses harness
  unfold runQwenBaselineImpl
  refine (uses_of_quiet (quiet_detached _ request.evalRunId)).bind composes fun evalRunId => ?_
  rcases evalRunId with _ | evalRunId
  · exact composes.throw _
  dsimp only
  split
  · refine (uses_of_quiet (within_mapM fun caseId _ =>
      quiet_qwenPreflight harness request caseId)).bind composes
      fun preflights => ?_
    split
    · split
      · exact composes.throw _
      · exact steps_runLaneImpl harness _ true
    · split
      · exact composes.throw _
      · refine (uses_of_quiet (within_mapM fun entry _ =>
          quiet_appendQwenNotRunRecord entry.1)).bind composes
          fun results => composes.ofExcept _
  · exact composes.throw _

private theorem steps_runQwenBaseline (harness : OfflineEvalHarness) (request : QwenRequest) :
    (runQwenBaseline harness request).Steps (Uses harness) := by
  have composes := composes_uses harness
  unfold runQwenBaseline
  refine (uses_of_quiet quiet_singletonStateIsClosed).bind composes fun closed => ?_
  extract_lets goOn
  have runs (unit_ : Unit) : (goOn unit_).Steps (Uses harness) := by
    refine Steps.bind ?_ composes fun outcome => ?_
    · exact ((steps_runQwenBaselineImpl harness request).map Except.ok composes).tryCatch composes
          fun failure =>
        composes.pure _
    refine (uses_of_quiet quiet_singletonStateIsClosed).bind composes fun closed => ?_
    refine (uses_of_quiet quiet_restoreSingletonState).bind composes fun restored => ?_
    split
    · exact composes.throw _
    · split
      · exact composes.pure _
      · exact composes.throw _
  split
  · exact (uses_of_quiet quiet_discardRestore).bind composes fun _ =>
      (composes.throw _).bind composes runs
  · exact runs ()

/-- Whatever the environment answers, every run of a harness uses its identities as it should. -/
private theorem OfflineEvalHarness.History.uses {final : HarnessState}
    (history : harness.History events final) :
    Uses harness {} events final := by
  have composes := composes_uses harness
  induction history with
  | start => exact composes.refl _
  | runLane _ ran before => exact composes.trans before (steps_runLane _ _ _ _ _ _ ran)
  | runQwenBaseline _ ran before =>
    exact composes.trans before (steps_runQwenBaseline _ _ _ _ _ _ ran)

/-- Identities are used once. An issued pair was never issued before, no identity is ever handed out
twice, an execution leaves its identity retired, and what is graded for a case is the answer to the
execution that the staging of this case made, under the identity of that execution. -/
theorem identities_single_use {final : HarnessState} (history : harness.History events final) :
    (∀ state, issueNoncePair.Ensures state fun outcome later _ =>
      state.issuedNonces ⊆ later.issuedNonces ∧
        ∀ first second, outcome = .ok (some (first, second)) → FreshPair state later first second) ∧
      (handedOut events).Nodup ∧ handedOut events ⊆ final.issuedNonces ∧
      (∀ event ∈ events, ∀ executionInput, executedAs event = some executionInput →
        executionInput.executionRef ∈ final.retiredExecutionRefs) ∧
      final.pendingCaseByExecutionRef = [] ∧ GradedSoundly harness events := by
  obtain ⟨registers, sound⟩ := history.uses
  refine ⟨fun state => ?_, registers.once, registers.issued, registers.retired,
    registers.pending rfl, sound⟩
  exact (issueNoncePair_ensures state).mono fun _ _ _ issued => ⟨issued.1.grows, issued.2⟩

/-- The lane of the success case. -/
theorem identities_single_use_success : (handedOut
    ((runLane SuccessBundle.harness { evalRunId := 9 } {}).simulate (SuccessBundle.environment 0)
      []).1).Nodup := by
  have ran :=
    Program.runs_simulate (SuccessBundle.environment 0)
      (runLane SuccessBundle.harness { evalRunId := 9 } {}) []
  generalize (runLane SuccessBundle.harness { evalRunId := 9 } {}).simulate
    (SuccessBundle.environment 0) [] = simulated
    at ran ⊢
  obtain ⟨events, outcome, final⟩ := simulated
  exact (identities_single_use (.runLane .start ran)).2.1

end MiniAgent.Evaluation
