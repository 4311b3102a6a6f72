import MiniAgent.Evaluation.LaneReplay

/-! # Calling a lane again

Once every selected case of a lane has a result, the lane may be called any number of times: it
executes nothing, stores nothing, and as long as no object is written to from outside it returns the
same outcome.
-/

namespace MiniAgent.Evaluation

open MiniAgent.Core MiniAgent.Application ContractModel Coroutine

variable {harness : OfflineEvalHarness} {request : LaneRequest} {qwenExecution : Bool}
  {laneArtifact : EvalLaneArtifact}

/-- Only a request that passes has results. -/
private theorem returns_passes : (runLaneImpl harness request qwenExecution).Returns fun told =>
    told.results ≠ [] → ∃ laneArtifact, request.Passes harness qwenExecution laneArtifact := by
  have refuses {lane : String}
      {found : Option EvalLaneArtifact} : (setupFailed harness request lane found).Returns
      fun told => told.results ≠ [] → ∃ laneArtifact,
          request.Passes harness qwenExecution laneArtifact := by
    refine returns_bind fun failure => (returns_ofExcept _).mono fun told made some_ => ?_
    obtain ⟨-, rfl⟩ := constructed_eq_ok_iff.mp made
    exact absurd rfl some_
  have fails {run : LaneRun} {lane : String} {phase : EvalExecutionFailurePhase}
      {cases : List EvalCaseArtifact} :
      (casesFailed run lane phase cases).Returns fun told => told.results ≠ [] →
        ∃ laneArtifact, request.Passes harness qwenExecution laneArtifact := by
    refine returns_bind fun failures => (returns_ofExcept _).mono fun told made some_ => ?_
    obtain ⟨-, rfl⟩ := constructed_eq_ok_iff.mp made
    exact absurd rfl some_
  unfold runLaneImpl
  refine returns_bind fun copy => ?_
  rcases copy with _ | evalRunId
  · exact returns_throw _
  dsimp only
  generalize wanted : (if qwenExecution = true then "qwen_baseline" else "offline_gate") = laneName
  split
  · exact refuses
  next asked =>
  simp only [Bool.or_eq_true, bne_iff_ne, ne_eq, decide_eq_true_eq, not_or, not_not, Nat.not_lt]
    at asked
  obtain ⟨lane, attempt⟩ := asked
  split
  · next laneArtifact found =>
    split
    · exact refuses
    next valid =>
    rw [Bool.not_eq_true', Bool.not_eq_false] at valid
    refine (returns_ofExcept _).bind fun cases selected => ?_
    split
    · exact fails
    next executable =>
    split
    · exact fails
    next pair =>
    rw [Bool.not_eq_true', Bool.not_eq_false] at executable
    rw [Bool.not_eq_true] at pair
    have accepted : request.Accepted harness qwenExecution laneArtifact :=
      ⟨lane.trans wanted.symm, attempt, found, valid⟩
    exact (returns_anything _).mono fun _ _ _ =>
      ⟨laneArtifact, accepted, ⟨cases, selected, executable⟩, pair⟩
  · exact refuses

/-- Results are told by the run of the selection. -/
private theorem runLaneImpl_told (state : HarnessState) :
    (runLaneImpl harness request qwenExecution).Ensures state
    fun outcome final events => ∀ told, outcome = .ok told → told.results ≠ [] → ∃ laneArtifact,
      request.Passes harness qwenExecution laneArtifact ∧ ∃ selecting,
        events = ⟨.isClosed (.uuid request.evalRunId), true⟩ :: selecting ∧
        (runSelected (request.run harness qwenExecution laneArtifact) request.lane
          (request.selectedIds laneArtifact)
          state).Runs selecting (.ok told, final) := by
  intro events outcome final ran told same some_
  obtain ⟨laneArtifact, passes⟩ :=
    returns_passes.ensures state events outcome final ran told same some_
  exact ⟨laneArtifact, passes, runLaneImpl_selects passes state events outcome final ran told same⟩

/-- Every selected case has a result, and there is one. -/
def LaneRequest.Complete (request : LaneRequest) (harness : OfflineEvalHarness)
    (told : EvalLaneRunOutcome) : Prop :=
  ∃ laneArtifact, harness.artifacts.laneByName request.lane = .ok laneArtifact ∧
    request.selectedIds laneArtifact ≠ [] ∧
    ∀ caseId ∈ request.selectedIds laneArtifact, ∃ result ∈ told.results, result.caseId = caseId

/-- What a complete lane leaves: the settled stages of its cases, which tell the outcome and are
stored. -/
structure ReplaysAs (harness : OfflineEvalHarness) (request : LaneRequest)
    (told : EvalLaneRunOutcome) (store : ResultStore) (laneArtifact : EvalLaneArtifact)
    (entries : List ReplayEntry) : Prop where
  passes : request.Passes harness false laneArtifact
  settled : (request.run harness false laneArtifact).IsSettled
    (request.selectedIds laneArtifact) entries
  tells : LaneRun.tellsAll request.lane entries = .ok told
  stored : ∀ entry ∈ entries, store (resultKeyOf entry.stage.result) = some entry.stage.result

private theorem LaneRequest.Passes.executableCases
    (passes : request.Passes harness qwenExecution laneArtifact) :
    LaneRequest.Executable harness (request.selectedIds laneArtifact) := by
  obtain ⟨cases, found, executable⟩ := passes.executable
  have pair := passes.pair
  refine ⟨fun caseId selected evalCase known => ?_, fun some_ caseId member => ?_⟩
  · obtain ⟨other, member, same⟩ := Keyed.exists_of_forall₂_left
      (R := fun caseId evalCase => harness.artifacts.caseById caseId = .ok evalCase)
        (Except.mapM_eq_ok_iff.mp found) selected
    obtain rfl : other = evalCase := Except.ok.inj (same.symm.trans known)
    rw [List.isEmpty_iff, List.filter_eq_nil_iff] at executable
    simpa using executable other member
  · obtain ⟨present, inPair, selected⟩ := some_
    have any : pairIds.any (· ∈ request.selectedIds laneArtifact) = true :=
      List.any_eq_true.mpr ⟨present, inPair, decide_eq_true selected⟩
    rw [any, Bool.true_and, Bool.not_eq_false'] at pair
    exact of_decide_eq_true (List.all_eq_true.mp pair caseId member)

/-- A complete lane can be replayed. -/
private theorem replaysAs_of_complete {state middle : HarnessState} (good : CacheGood harness state)
    {events : List HarnessEvent} {told : EvalLaneRunOutcome}
    (ran : (runLane harness request state).Runs events (.ok told, middle))
    (complete : request.Complete harness told) {store : ResultStore}
    (lawful : store.Lawful events) :
    ∃ laneArtifact entries,
    ReplaysAs harness request told (store.afterwards events) laneArtifact entries ∧
      Cached entries middle := by
  obtain ⟨selectedFrom, found, some_, each⟩ := complete
  obtain ⟨during, rfl, impl⟩ := runLane_told state _ _ _ ran told rfl
  have results : told.results ≠ [] := by
    obtain ⟨caseId, selected⟩ := List.exists_mem_of_ne_nil _ some_
    obtain ⟨result, member, -⟩ := each caseId selected
    exact List.ne_nil_of_mem member
  obtain ⟨laneArtifact, passes, selecting, rfl, selection⟩ :=
    runLaneImpl_told state _ _ _ impl told rfl results
  obtain rfl : laneArtifact = selectedFrom := Except.ok.inj (passes.found.symm.trans found)
  have distinct := (mem_of_selection passes.selection).2.1
  have none : told.executionFailures = [] := by
    have tells : request.Tells harness false _ told :=
      ((meets_runLane harness request).ensures state good _ _ _ ran).2
    have accounts := tells.accepted laneArtifact passes.toAccepted passes.executableCases
    exact LaneRun.failures_eq_nil distinct accounts.once each
  obtain ⟨entries, settled, tells, cached, acknowledged⟩ :=
    LaneRun.runSelected_first request.lane distinct state _ _ _ selection told rfl none
  refine ⟨laneArtifact, entries, ⟨passes, settled, tells, fun entry member => ?_⟩, cached⟩
  refine ResultStore.stored_of_acknowledged lawful ((acknowledged entry member).mono ?_)
  exact List.subset_cons_of_subset _
    (List.subset_append_of_subset_left _ (List.subset_cons_self _ _))

private theorem returns_detached {α : Type} (object : CheckedObject) (value : α) :
    (detached object value).Returns fun copy => ∀ same, copy = some same → same = value := by
  refine returns_bind fun closed => returns_pure fun same found => ?_
  split at found
  · exact (Option.some.inj found).symm
  · cases found

variable {told : EvalLaneRunOutcome} {store : ResultStore} {entries : List ReplayEntry}

private theorem keeps_runLane
    (replays : ReplaysAs harness request told store laneArtifact entries) :
    (runLane harness request).Steps (LaneRun.Keeps entries) := by
  have composes := LaneRun.composes_keeps entries
  refine steps_runLane_of_impl composes LaneRun.keeps_of_plain ?_
  rw [runLaneImpl_of_passes replays.passes]
  refine (LaneRun.keeps_of_plain (plain_detached _ _)).bindReturned composes
    (returns_detached _ _) fun copy same => ?_
  rcases copy with _ | evalRunId
  · exact composes.throw _
  · obtain rfl := same evalRunId rfl
    exact LaneRun.keeps_runSelected replays.settled

private theorem yields_runLane
    (replays : ReplaysAs harness request told store laneArtifact entries) :
    (runLane harness request).Yields (Cached entries) (Trusted store) told := by
  have impl : (runLaneImpl harness request false).Yields (Cached entries) (Trusted store) told := by
    rw [runLaneImpl_of_passes replays.passes]
    exact (LaneRun.yields_detached _ _).bind
      (LaneRun.yields_runSelected replays.settled replays.tells replays.stored)
  unfold runLane
  refine LaneRun.yields_singletonStateIsClosed.bind ?_
  refine (impl.map some).tryCatch.bind ?_
  refine LaneRun.yields_singletonStateIsClosed.bind ?_
  exact LaneRun.yields_restoreSingletonState.bind (yields_pure told)

/-- A call that has a case executed, traced or graded. -/
def HarnessCall.Executes : HarnessCall → Prop
  | .nonceFactory | .executeCase .. | .executeQwenCase _ | .appendEvalCaseGraded _ | .reloadTrace _
  | .graderRunner .. => True
  | _ => False

/-- The state and the store after calling the lane again some times. -/
inductive Repeated (harness : OfflineEvalHarness) (request : LaneRequest) (first : HarnessState)
    (stored : ResultStore) :
    HarnessState → ResultStore → Prop
  | once : Repeated harness request first stored first stored
  | again {state final : HarnessState} {store : ResultStore} {events : List HarnessEvent}
      {outcome : Except EvalException EvalLaneRunOutcome}
      (repeated : Repeated harness request first stored state store)
      (ran : (runLane harness request state).Runs events (outcome, final))
      (lawful : store.Lawful events) :
      Repeated harness request first stored final (store.afterwards events)

/-- What is persisted by a replay is stored already. -/
private theorem repeats_of_isReplay
    (replays : ReplaysAs harness request told store laneArtifact entries) (call : HarnessCall)
    (isReplay : LaneRun.IsReplay entries call) :
    store.Repeats call ∧ ¬call.Executes := by
  cases call with
  | appendEvalResult record =>
    obtain ⟨entry, member, rfl⟩ := isReplay
    exact ⟨replays.stored entry member, id⟩
  | _ => first | exact ⟨trivial, id⟩ | exact isReplay.elim

theorem Repeated.kept {first later : HarnessState} {kept : ResultStore}
    (repeated : Repeated harness request first store later kept)
    (replays : ReplaysAs harness request told store laneArtifact entries)
    (cached : Cached entries first) :
    kept = store ∧ Cached entries later := by
  induction repeated with
  | once => exact ⟨rfl, cached⟩
  | again repeated ran lawful ih =>
    obtain ⟨rfl, earlier⟩ := ih
    obtain ⟨still, calls⟩ := keeps_runLane replays _ _ _ _ ran earlier
    exact ⟨(ResultStore.unchanged fun event member =>
      (repeats_of_isReplay replays _ (calls event member)).1).1, still⟩

/-- However often a complete lane is called again, nothing is executed, traced or graded and the
store stays as it is; and as long as no object is written to from outside the outcome is the
same. -/
theorem runLane_replays {state middle : HarnessState} (reachable : harness.Reachable state)
    {events : List HarnessEvent}
    (ran : (runLane harness request state).Runs events (.ok told, middle))
    (complete : request.Complete harness told) (lawful : store.Lawful events) {later : HarnessState}
    {kept : ResultStore}
    (repeated : Repeated harness request middle (store.afterwards events) later kept) :
    kept = store.afterwards events ∧ (runLane harness request).Ensures later fun outcome _ more =>
      (∀ event ∈ more, ¬event.call.Executes) ∧ kept.afterwards more = kept ∧
        (kept.Lawful more → (∀ event ∈ more, Untouched event) → outcome = .ok told) := by
  obtain ⟨laneArtifact, entries, replays, cached⟩ :=
    replaysAs_of_complete reachable.cacheGood ran complete lawful
  obtain ⟨rfl, still⟩ := repeated.kept replays cached
  refine ⟨rfl, fun more outcome final again => ?_⟩
  obtain ⟨-, calls⟩ := keeps_runLane replays _ _ _ _ again still
  obtain ⟨same, answered⟩ := ResultStore.unchanged fun event member =>
    (repeats_of_isReplay replays _ (calls event member)).1
  refine ⟨fun event member => (repeats_of_isReplay replays _ (calls event member)).2, same,
    fun answers untouched => ?_⟩
  refine (yields_runLane replays later still more outcome final again fun event member => ?_).1
  exact ⟨answered answers event member, untouched event member⟩

namespace SuccessBundle

/-- The environment of the success case at a later time. -/
def laterEnvironment (history : List HarnessEvent) : (call : HarnessCall) → HarnessAnswer call
  | .clock => .ok (some (.utc 1))
  | call => environment 0 history call

/-- A request for no case at all, and two calls of the lane with it. -/
def noCase : LaneRequest := { evalRunId := 9, caseIds := some [] }

def firstCall := (runLane SuccessBundle.harness noCase {}).simulate (environment 0) []

def secondCall := (runLane SuccessBundle.harness noCase firstCall.2.2).simulate laterEnvironment []

end SuccessBundle

/-- A lane that is asked for no case at all tells of its failure at another time when it is called
again. -/
theorem runLane_replays_empty :
    ¬∀ (request : LaneRequest) (told : EvalLaneRunOutcome) (events more : List HarnessEvent)
    (outcome : Except EvalException EvalLaneRunOutcome) (middle final : HarnessState),
      (runLane SuccessBundle.harness request {}).Runs events (.ok told, middle) →
      (∀ caseId ∈ request.selectedIds SuccessBundle.offlineGate, ∃ result ∈ told.results,
        result.caseId = caseId) →
      (runLane SuccessBundle.harness request middle).Runs more (outcome, final) →
      ResultStore.Lawful (fun _ => none) (events ++ more) → (∀ event ∈ more, Untouched event) →
      outcome = .ok told := by
  intro claimed
  have first := Program.runs_simulate (SuccessBundle.environment 0)
    (runLane SuccessBundle.harness SuccessBundle.noCase {}) []
  have second := Program.runs_simulate SuccessBundle.laterEnvironment
    (runLane SuccessBundle.harness SuccessBundle.noCase SuccessBundle.firstCall.2.2) []
  obtain ⟨told, tells⟩ : ∃ told, SuccessBundle.firstCall.2.1 = .ok told :=
    Except.exists_ok_of_isOk (by decide)
  have differ : SuccessBundle.secondCall.2.1 ≠ SuccessBundle.firstCall.2.1 := by decide
  have lawful : ResultStore.Lawful (fun _ => none)
      (SuccessBundle.firstCall.1 ++ SuccessBundle.secondCall.1) := by
    decide
  have untouched : ∀ event ∈ SuccessBundle.secondCall.1, Untouched event := by decide
  have told_ : SuccessBundle.firstCall.2 = (.ok told, SuccessBundle.firstCall.2.2) :=
    Prod.ext tells rfl
  refine differ ((claimed SuccessBundle.noCase told _ _ _ _ _ (told_ ▸ first)
    (List.forall_mem_nil _) second lawful
    untouched).trans tells.symm)

namespace PairBundle

/-- A case of the pair that asks for as little as its lane allows. -/
def pairCase (caseId : String) : EvalCaseArtifact :=
  { SuccessBundle.successCase with
    caseId
    expectations :=
      [("expected_http_status", .int 200), ("expected_user_outcome", ofText "COMPLETED"),
        ("expected_stop_reason", ofText "GOAL_COMPLETED"),
        ("response_policy", ofText "DETERMINISTIC_ORDER_SUMMARY_V1"),
        ("required_events", SuccessBundle.texts []),
        ("event_count_assertions", .array []), ("forbidden_events", SuccessBundle.texts []),
        ("critical_failure_refs", SuccessBundle.texts [])] }

def pairHarness : OfflineEvalHarness where
  artifacts :=
    { SuccessBundle.artifacts with
      cases := [pairCase "E2E01-04-A", pairCase "E2E01-04-B"]
      lanes :=
        [{ SuccessBundle.offlineGate with caseRefs := ["E2E01-04-A", "E2E01-04-B"] },
          SuccessBundle.qwenBaseline] }
  gradedEventId _ _ _ _ := 7

/-- The second case that is executed is blocked where the first one completes. -/
def environment (history : List HarnessEvent) : (call : HarnessCall) → HarnessAnswer call
  | .executeCase executionInput scriptedProvider runtimeFault =>
    if history.any fun event => event.call matches .executeCase .. then
      let result := SuccessBundle.sutResultAt 0 executionInput.executionRef
      (.ok (some { result with
        evidence := { result.evidence with observedOutcome := .blocked }
        safeObservable := { result.safeObservable with userOutcome := .blocked } }),
        scriptedProvider.steps.length)
    else SuccessBundle.environment 0 history
      (.executeCase executionInput scriptedProvider runtimeFault)
  | .reloadTrace _ =>
    .ok (some ((SuccessBundle.evidenceAt 0).traceEvents ++ (history.reverse.findSome? fun event =>
      match event with
      | ⟨.appendEvalCaseGraded graded, _⟩ => some graded
      | _ => none).toList))
  | call => SuccessBundle.environment 0 history call

def firstCall := (runLane pairHarness { evalRunId := 9 } {}).simulate environment []

end PairBundle

/-- A lane of two cases that can be told apart, so that both are forced to fail, called again. -/
theorem runLane_replays_success : ∃ events told middle,
    (runLane PairBundle.pairHarness { evalRunId := 9 } {}).Runs events (.ok told, middle) ∧
      told.results.map (fun result => (result.caseId, result.status)) =
        [("E2E01-04-A", .fail), ("E2E01-04-B", .fail)] ∧
      (runLane PairBundle.pairHarness { evalRunId := 9 }).Ensures middle fun outcome _ more =>
        (∀ event ∈ more, ¬event.call.Executes) ∧
          (ResultStore.Lawful (ResultStore.afterwards (fun _ => none) events) more →
            (∀ event ∈ more, Untouched event) → outcome = .ok told) := by
  have ran := Program.runs_simulate PairBundle.environment
    (runLane PairBundle.pairHarness { evalRunId := 9 } {}) []
  have checked : PairBundle.firstCall.2.1.map
      (·.results.map fun result => (result.caseId, result.status)) =
      .ok [("E2E01-04-A", .fail), ("E2E01-04-B", .fail)] ∧
        ResultStore.Lawful (fun _ => none) PairBundle.firstCall.1 := by
    simp only [PairBundle.firstCall, runLane, runLaneImpl, runSelected, stageSelected_eq_foldlM,
      stageOrReplay, stageCase, setupCase, buildAuthenticatedCaseExpectations,
      expectedModelVisibleToolsetHash_eq]
    decide +kernel
  change Program.Runs _ PairBundle.firstCall.1 PairBundle.firstCall.2 at ran
  generalize PairBundle.firstCall = simulated at ran checked
  obtain ⟨events, outcome | told, middle⟩ := simulated
  · cases checked.1
  obtain ⟨tells, lawful⟩ := checked
  have statuses := Except.ok.inj tells
  have ids : told.results.map (·.caseId) = ["E2E01-04-A", "E2E01-04-B"] := by
    simpa [Function.comp_def] using congrArg (List.map Prod.fst) statuses
  have complete : LaneRequest.Complete { evalRunId := 9 } PairBundle.pairHarness told := by
    refine ⟨_, rfl, List.cons_ne_nil _ _, fun caseId selected => List.mem_map.mp ?_⟩
    rw [ids]
    exact selected
  refine ⟨events, told, middle, ran, statuses, ?_⟩
  refine (runLane_replays .initial ran complete lawful .once).2.mono fun outcome final more
    kept => ?_
  exact ⟨kept.1, kept.2.2⟩

end MiniAgent.Evaluation
