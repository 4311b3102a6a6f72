import MiniAgent.Evaluation.PairRule

/-! # Persisting the stages of a lane

Every staged case becomes a result, which the port acknowledged, or a failure; a result also enters
the replay cache under the key of its case.
-/

namespace MiniAgent.Evaluation

open MiniAgent.Core MiniAgent.Application ContractModel Coroutine

private theorem meets_copiesAreClosed {invariant : HarnessState → Prop}
    {raised : List HarnessEvent → EvalException → Prop} (lenient : Lenient raised)
    (record : EvalResultRecord) (stage : StagedCase) :
    (copiesAreClosed record stage).Meets invariant (fun _ _ => True) raised := by
  have admits := admits_constant fun _ : Bool => True
  unfold copiesAreClosed
  refine (meets_isClosed _).skip admits lenient.admits fun publicRecord => ?_
  refine (meets_isClosed _).skip admits lenient.admits fun cacheRecord => ?_
  refine (meets_isClosed _).skip admits lenient.admits fun cacheExpectations => ?_
  exact (meets_isClosed _).skip admits lenient.admits fun cacheObservable => meets_pure trivial

namespace LaneRun

variable {run : LaneRun} {selectedIds : List String} {caseId : String} {stage : StagedCase}

/-- The key names the case in this run of the lane. -/
def KeyOf (run : LaneRun) (caseId : String) (key : ReplayCacheKey) : Prop :=
  key.evalRunId = run.evalRunId ∧ key.caseId = caseId ∧ key.lane = run.laneArtifact.lane ∧
    key.attempt = run.attempt

private theorem cacheGood_cons {state : HarnessState} {key : ReplayCacheKey}
    (cached : CacheGood run.harness state) (keyed : run.KeyOf caseId key)
    (good : run.Good caseId stage) : CacheGood run.harness
      { state with persistedStageByReplayKey :=
        (key, stage) :: state.persistedStageByReplayKey } := by
  obtain ⟨sameRun, sameCase, sameLane, sameAttempt⟩ := keyed
  intro entry member
  rcases List.mem_cons.mp member with rfl | earlier
  · show StageGood run.harness key.evalRunId key.lane key.attempt key.caseId stage
    rw [sameRun, sameCase, sameLane, sameAttempt]
    exact good
  · exact cached entry earlier

private theorem meets_persistCase (selected : caseId ∈ selectedIds) (good : run.Good caseId stage)
    {replayKey : Option ReplayCacheKey}
    (keyed : ∀ key, replayKey = some key → run.KeyOf caseId key) :
    (persistCase run replayKey stage).Meets (CacheGood run.harness) (Persisted stage.result caseId)
      (run.Raises selectedIds) := by
  have lenient := run.lenient_raises selectedIds
  have named : stage.evalCase.caseId = caseId := good.caseId
  have wellFormed (formed : run.WellFormed selectedIds) :
      (recordScope stage.result stage.evalCase run.laneArtifact).WellFormed run.harness := by
    have caseFormed := formed.caseRun caseId selected stage.evalCase good.evalCase
    refine ⟨?_, ?_, caseFormed.versions⟩
    · show stage.result.lane ≠ ""
      rw [good.resultLane]
      exact caseFormed.lane
    · intro evalCase same
      obtain rfl := Option.some.inj same
      show stage.evalCase.caseId ≠ "" ∧ 1 ≤ stage.result.attempt
      rw [good.resultAttempt]
      exact ⟨caseFormed.caseId, caseFormed.attempt⟩
  unfold persistCase
  refine (meets_appendResult lenient run.harness stage.result stage.evalCase run.laneArtifact
    fun malformed events failure formed =>
      absurd (wellFormed formed) malformed).andUse lenient.admits
    fun appended before persisted => ?_
  rw [named] at persisted
  cases appended with
  | error failure =>
    apply meets_pure
    rwa [List.append_nil]
  | ok record =>
    have kept (after : List HarnessEvent) :
        Persisted stage.result caseId (before ++ after) (.ok record) :=
      persisted.mono (List.subset_append_left _ _)
    obtain rfl : record = stage.result := persisted.1
    have admits := admits_persisted stage.result caseId before
    dsimp only
    refine (meets_copiesAreClosed lenient stage.result stage).skip admits lenient.admits
      fun closed => ?_
    split
    · cases replayKey with
      | some key =>
        refine Meets.skip (meets_modify ?_ trivial) admits lenient.admits fun unit_ =>
          meets_pure (kept [])
        exact fun state cached => cacheGood_cons cached (keyed key rfl) good
      | none => exact meets_pure (kept [])
    · refine (meets_appendFailure_case selected good.evalCase ⟨.resultPersistenceFailed, rfl,
        rfl⟩ _).andThen admits
        lenient.admits fun failure failed => meets_pure failed

variable {staging : Staging} {events : List HarnessEvent}

/-- What the records stand for once the cases were persisted: each of them that was staged has
one. -/
structure RecordsGood (staging : Staging) (ids : List String) (events : List HarnessEvent)
    (records : LaneRecords) :
    Prop where
  results : ∀ result ∈ records.results, Acknowledged events result ∧
    ∃ stage, (result.caseId, stage) ∈ staging.staged ∧ result = stage.result
  inOrder : (records.results.map (·.caseId)).Sublist ids
  failures : ∀ failure ∈ records.failures, validates failure = true
  accounts : (records.results.map (some ·.caseId) ++ records.failures.map (·.caseId)).Perm
    (staging.failures.map (·.caseId) ++ (ids.filter (· ∈ staging.staged.map (·.1))).map some)

theorem recordsGood_nil (good : run.StagingGood staging) :
    RecordsGood staging [] events { failures := staging.failures } where
  results := List.forall_mem_nil _
  inOrder := .refl _
  failures := good.failures
  accounts := by
    rw [List.filter_nil, List.map_nil, List.map_nil, List.append_nil]
    exact .refl _

variable {ids : List String} {records : LaneRecords}

/-- A case that was not staged needs no record. -/
theorem RecordsGood.skip (recorded : RecordsGood staging ids events records)
    (unstaged : caseId ∉ staging.staged.map (·.1)) :
    RecordsGood staging (ids ++ [caseId]) events records where
  results := recorded.results
  inOrder := recorded.inOrder.trans (List.sublist_append_left _ _)
  failures := recorded.failures
  accounts := by
    rw [List.filter_append, List.filter_singleton, decide_eq_false unstaged, cond_false,
      List.append_nil]
    exact recorded.accounts

/-- A staged case has its result or its failure. -/
theorem RecordsGood.add {after : List HarnessEvent}
    {persisted : Except EvalExecutionFailureRecord EvalResultRecord}
    (recorded : RecordsGood staging ids events records) (good : run.Good caseId stage)
    (staged : (caseId, stage) ∈ staging.staged)
    (became : Persisted stage.result caseId after persisted) :
    RecordsGood staging (ids ++ [caseId]) (events ++ after) (records.add persisted) := by
  have listed : caseId ∈ staging.staged.map (·.1) := List.mem_map_of_mem staged
  have kept (result : EvalResultRecord) (member : result ∈ records.results) : Acknowledged
      (events ++ after) result ∧
      ∃ stage, (result.caseId, stage) ∈ staging.staged ∧ result = stage.result :=
    ⟨(recorded.results result member).1.mono (List.subset_append_left _ _),
      (recorded.results result member).2⟩
  have more : (ids ++ [caseId]).filter (· ∈ staging.staged.map (·.1)) =
      ids.filter (· ∈ staging.staged.map (·.1)) ++ [caseId] := by
    rw [List.filter_append, List.filter_singleton, decide_eq_true listed, cond_true]
  have counted : (records.results.map (some ·.caseId) ++ records.failures.map (·.caseId) ++
    [some caseId]).Perm
      (staging.failures.map (·.caseId) ++
          ((ids ++ [caseId]).filter (· ∈ staging.staged.map (·.1))).map some) := by
    rw [more, List.map_append, ← List.append_assoc]
    exact recorded.accounts.append_right _
  cases persisted with
  | ok result =>
    obtain ⟨rfl, acknowledged⟩ := became
    refine ⟨?_, ?_, recorded.failures, ?_⟩
    · intro result member
      rcases List.mem_append.mp member with earlier | added
      · exact kept result earlier
      · obtain rfl := List.mem_singleton.mp added
        rw [good.resultCase]
        exact ⟨acknowledged.mono (List.subset_append_right _ _), stage, staged, rfl⟩
    · simp only [LaneRecords.add, List.map_append, List.map_cons, List.map_nil, good.resultCase]
      exact recorded.inOrder.append (.refl _)
    · refine .trans ?_ counted
      simp only [LaneRecords.add, List.map_append, List.map_cons, List.map_nil, good.resultCase,
        List.append_assoc]
      exact List.perm_append_comm.append_left _
  | error failure =>
    obtain ⟨named, valid⟩ := became
    refine ⟨kept, recorded.inOrder.trans (List.sublist_append_left _ _), ?_, ?_⟩
    · intro other member
      rcases List.mem_append.mp member with earlier | added
      · exact recorded.failures other earlier
      · obtain rfl := List.mem_singleton.mp added
        exact valid
    · refine .trans ?_ counted
      simp only [LaneRecords.add, List.map_append, List.map_cons, List.map_nil, named,
        List.append_assoc]
      exact .refl _

/-- Persisting passes on every staged case once, in the order of the selection. -/
theorem meets_persistSelected (good : run.StagingGood staging) (rest : List String)
    (part : ∀ caseId ∈ rest, caseId ∈ selectedIds)
    (recorded : RecordsGood staging ids events records) :
    (persistSelected run staging rest records).Meets (CacheGood run.harness)
      (fun after final => RecordsGood staging (ids ++ rest) (events ++ after) final)
      (run.Raises selectedIds) := by
  have lenient := run.lenient_raises selectedIds
  induction rest generalizing ids events records with
  | nil =>
    apply meets_pure
    rwa [List.append_nil, List.append_nil]
  | cons caseId rest ih =>
    have others : ∀ other ∈ rest, other ∈ selectedIds :=
      fun other member => part other (List.mem_cons_of_mem _ member)
    have joined : ids ++ caseId :: rest = (ids ++ [caseId]) ++ rest := List.append_cons _ _ _
    unfold persistSelected
    rw [joined]
    split
    · next absent =>
      apply ih others
      apply recorded.skip
      intro listed
      obtain ⟨entry, member, rfl⟩ := List.mem_map.mp listed
      exact List.lookup_eq_none_iff.mp absent entry member |> fun differs =>
        absurd rfl (bne_iff_ne.mp differs)
    · next stage found =>
      have staged := mem_of_lookup found
      have stageGood : run.Good caseId stage := good.staged _ staged
      have keyed (key : ReplayCacheKey) (listed : staging.replayKeys.lookup caseId = some key) :
          run.KeyOf caseId key :=
        good.replayKeys _ (mem_of_lookup listed)
      refine (meets_persistCase (part caseId List.mem_cons_self) stageGood keyed).andUse
        lenient.admits
        fun persisted before became => ?_
      refine (ih others (recorded.add stageGood staged became)).weaken fun after final
        goodRecords => ?_
      rwa [List.append_assoc events] at goodRecords

end LaneRun

end MiniAgent.Evaluation
