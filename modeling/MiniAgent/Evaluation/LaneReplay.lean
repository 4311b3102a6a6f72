import MiniAgent.Evaluation.HarnessRuns
import MiniAgent.Evaluation.ResultStore
import MiniAgent.Library.Keyed
import MiniAgent.Library.Yields

/-! # Replaying a lane

A lane in which every selected case has a result leaves its stages, as the pair rule settled them,
in the replay cache, and their results in the result port. The pair rule changes nothing in settled
stages, so that the same lane returns the same outcome again, and nothing is executed for it.
-/

namespace MiniAgent.Evaluation

open MiniAgent.Core MiniAgent.Application ContractModel Coroutine

/-- A staged case with its replay key. -/
structure ReplayEntry where
  caseId : String
  evalCase : EvalCaseArtifact
  key : ReplayCacheKey
  stage : StagedCase

/-- The staging of some entries and no failure. -/
def stagingOf (entries : List ReplayEntry) : Staging where
  staged := entries.map fun entry => (entry.caseId, entry.stage)
  replayKeys := entries.map fun entry => (entry.caseId, entry.key)

/-- The replay cache has the stages of the entries. -/
def Cached (entries : List ReplayEntry) (state : HarnessState) : Prop :=
  ∀ entry ∈ entries, state.persistedStageByReplayKey.lookup entry.key = some entry.stage

/-- No object was written to from outside. -/
def Untouched : HarnessEvent → Prop
  | ⟨.singletonStateIsClosed, answer⟩ => answer = true
  | ⟨.restoreSingletonState, answer⟩ => answer = true
  | ⟨.isClosed _, answer⟩ => answer = true
  | _ => True

instance : DecidablePred Untouched
  | ⟨.singletonStateIsClosed, _⟩ | ⟨.restoreSingletonState, _⟩ | ⟨.isClosed _, _⟩ =>
    inferInstanceAs (Decidable (_ = _))
  | ⟨.nonceFactory, _⟩ | ⟨.clock, _⟩ | ⟨.executeCase .., _⟩ | ⟨.executeQwenCase _, _⟩
      | ⟨.appendEvalCaseGraded _, _⟩
  | ⟨.reloadTrace _, _⟩ | ⟨.graderRunner .., _⟩ | ⟨.appendEvalResult _, _⟩ | ⟨.loadEvalResult .., _⟩
  | ⟨.appendEvalExecutionFailure _, _⟩ => isTrue trivial

/-- The answer is that of the store, and no object was written to. -/
def Trusted (store : ResultStore) (event : HarnessEvent) : Prop :=
  store.Answers event ∧ Untouched event

namespace LaneRun

variable {run : LaneRun} {caseId : String} {evalCase : EvalCaseArtifact}
  {entries : List ReplayEntry}

/-- The entry has the case and the key that the lane finds. -/
structure Keyed (run : LaneRun) (entry : ReplayEntry) : Prop where
  found : run.harness.artifacts.caseById entry.caseId = .ok entry.evalCase
  keyed : run.replayKey entry.evalCase entry.caseId = some entry.key

private theorem stageOrReplay_cached {entry : ReplayEntry} {state : HarnessState}
    (keyed : run.Keyed entry)
    (cached : state.persistedStageByReplayKey.lookup entry.key = some entry.stage) :
    stageOrReplay run entry.caseId entry.evalCase state = .done (.ok (.ok entry.stage), state) := by
  have hit : ((run.replayKey entry.evalCase entry.caseId).bind fun key =>
    state.persistedStageByReplayKey.lookup key) =
      some entry.stage := by
    rw [keyed.keyed, Option.bind_some, cached]
  unfold stageOrReplay
  rw [bind_of_done (rfl : read state = .done (.ok state, state)), hit]
  rfl

/-- With every stage in the cache nothing is executed. -/
private theorem stageSelected_cached {state : HarnessState}
    (keyed : ∀ entry ∈ entries, run.Keyed entry) (cached : Cached entries state)
    (earlier : List ReplayEntry) :
    stageSelected run (entries.map (·.caseId)) (stagingOf earlier) state =
      .done (.ok (stagingOf (earlier ++ entries)), state) := by
  induction entries generalizing earlier with
  | nil =>
    rw [List.append_nil]
    rfl
  | cons entry rest ih =>
    obtain ⟨first, others⟩ := List.forall_mem_cons.mp keyed
    obtain ⟨hit, hits⟩ := List.forall_mem_cons.mp cached
    have added : (stagingOf earlier).add entry.caseId (run.replayKey entry.evalCase entry.caseId)
        (.ok entry.stage) =
        stagingOf (earlier ++ [entry]) := by
      simp only [Staging.add, stagingOf, first.keyed, Option.map_some, Option.toList_some,
        List.map_append, List.map_cons, List.map_nil]
    rw [List.map_cons, stageSelected,
      bind_of_done (congrArg (fun found => Program.done (found, state)) first.found),
      bind_of_done (stageOrReplay_cached first hit), added, ih others hits, List.append_assoc]
    rfl

/-- A case that is staged has a replay key. -/
private theorem returns_stageOrReplay : (stageOrReplay run caseId evalCase).Returns fun staged =>
    ∀ stage, staged = .ok stage → ∃ key, run.replayKey evalCase caseId = some key := by
  unfold stageOrReplay
  refine returns_bind fun state => ?_
  extract_lets cache
  split
  · next stage cached =>
    refine returns_pure fun _ _ => ?_
    obtain ⟨key, keyed, -⟩ := Option.bind_eq_some_iff.mp cached
    exact ⟨key, keyed⟩
  · have stages : (stageCase (run.caseRun evalCase) (run.scriptRefByCase.lookup caseId)).Meets
        (fun _ => True)
        (fun _ staged => ∀ stage, staged = .ok stage → ∃ key,
          run.replayKey evalCase caseId = some key)
        (run.caseRun evalCase).Raises := by
      refine (meets_stageCase _ _ fun _ _ _ => id).weaken ?_
      rintro events staged comes stage rfl
      obtain ⟨graded, stages⟩ := comes
      obtain ⟨script, setup⟩ := stages.setup
      obtain ⟨scriptRef, selected, -⟩ := Except.bind_eq_ok_iff.mp setup
      have selectedSame : normalizedSelectedScriptRef evalCase (run.scriptRefByCase.lookup caseId) =
          .ok scriptRef :=
        selected
      refine ⟨⟨run.evalRunId, caseId, run.laneArtifact.lane, run.attempt, scriptRef⟩, ?_⟩
      rw [replayKey, selectedSame]
      rfl
    exact stages.returns

/-- What a staging without failures is made of. -/
private theorem returns_stageSelected (ids : List String) (staging : Staging) :
    (stageSelected run ids staging).Returns fun final => final.failures = [] →
    staging.failures = [] ∧
      ∃ entries : List ReplayEntry, entries.map (·.caseId) = ids ∧
      (∀ entry ∈ entries, run.Keyed entry) ∧
        final.staged = staging.staged ++ (stagingOf entries).staged ∧
        final.replayKeys = staging.replayKeys ++ (stagingOf entries).replayKeys := by
  induction ids generalizing staging with
  | nil =>
    refine returns_pure fun none => ⟨none, [], rfl, List.forall_mem_nil _, ?_, ?_⟩
    · exact (List.append_nil _).symm
    · exact (List.append_nil _).symm
  | cons caseId rest ih =>
    unfold stageSelected
    refine (returns_ofExcept _).bind fun evalCase found =>
      returns_stageOrReplay.bind fun staged keyed => ?_
    refine (ih _).mono fun final told none => ?_
    obtain ⟨before, entries, ids, others, stagedSame, keysSame⟩ := told none
    rcases staged with failure | stage
    · cases List.append_eq_nil_iff.mp before |>.2
    obtain ⟨key, isKey⟩ := keyed stage rfl
    refine ⟨before, ⟨caseId, evalCase, key, stage⟩ :: entries, ?_, ?_, ?_, ?_⟩
    · rw [List.map_cons, ids]
    · exact List.forall_mem_cons.mpr ⟨⟨found, isKey⟩, others⟩
    · rw [stagedSame]
      exact List.append_assoc ..
    · rw [keysSame, isKey]
      exact List.append_assoc ..

/-- A forced stage is forced already. -/
private theorem forced_forced {stage other : StagedCase} (made : stage.forced = .ok other) :
    other.forced = .ok other := by
  obtain ⟨result, forced, rfl⟩ := StagedCase.forced_eq_ok_iff.mp made
  exact StagedCase.forced_eq_ok_iff.mpr ⟨result, forceDisclosureFailure_forced forced, rfl⟩

private theorem settledStage_settled {entry settled : String × StagedCase}
    (made : settledStage entry = .ok settled) :
    settledStage settled = .ok settled := by
  obtain ⟨sameCase, stage⟩ := settledStage_eq_ok_iff.mp made
  refine settledStage_eq_ok_iff.mpr ⟨rfl, ?_⟩
  rw [sameCase]
  split at stage
  · next inPair =>
    rw [if_pos inPair]
    exact forced_forced stage
  · next apart => rw [if_neg apart]

/-- Settling a stage leaves its case and what may be observed of it. -/
private theorem settledStage_observable {entry settled : String × StagedCase}
    (made : settledStage entry = .ok settled) :
    settled.1 = entry.1 ∧ settled.2.safeObservable = entry.2.safeObservable := by
  obtain ⟨sameCase, stage⟩ := settledStage_eq_ok_iff.mp made
  refine ⟨sameCase, ?_⟩
  split at stage
  · obtain ⟨result, -, same⟩ := StagedCase.forced_eq_ok_iff.mp stage
    rw [same]
  · rw [stage]

private theorem lookup_observable {staged settled : List (String × StagedCase)}
    (aligned : List.Forall₂ (fun entry other => settledStage entry = .ok other) staged settled)
    (caseId : String) :
    (settled.lookup caseId).map (·.safeObservable) = (staged.lookup caseId).map
    (·.safeObservable) := by
  induction aligned with
  | nil => rfl
  | cons step rest ih =>
    obtain ⟨sameCase, observable⟩ := settledStage_observable step
    rw [List.lookup_cons, List.lookup_cons, sameCase]
    split
    · exact congrArg some observable
    · exact ih

private theorem pairObservables_settled {staging : Staging} {settled : List (String × StagedCase)}
    (aligned : List.Forall₂ (fun entry other => settledStage entry = .ok other) staging.staged
      settled) :
    pairObservables { staging with staged := settled } = pairObservables staging := by
  refine congrArg (pairIds.filterMap ·) (funext fun caseId => ?_)
  have same := congrArg (Option.map (caseId, ·)) (lookup_observable aligned caseId)
  simpa only [Option.map_map, Function.comp_def] using same

/-- Failing a pair that can be told apart twice is failing it once. -/
private theorem failDistinguishable_settled {staging settled : Staging}
    (made : failDistinguishable staging = .ok settled) :
    failDistinguishable settled = .ok settled ∧
      (List.Forall₂ (fun entry other => settledStage entry = .ok other) staging.staged
        settled.staged ∨
        settled.staged = staging.staged) ∧ settled.replayKeys = staging.replayKeys := by
  rw [failDistinguishable_eq] at made
  split at made
  · next match_ =>
    obtain rfl := Except.ok.inj made
    refine ⟨?_, .inr rfl, rfl⟩
    rw [failDistinguishable_eq, if_pos match_]
  · next differ =>
    rw [map_eq_pure_bind, Except.bind_eq_ok_iff] at made
    obtain ⟨staged, made, same⟩ := made
    obtain rfl := Except.pure_eq_ok_iff.mp same
    have aligned := Except.mapM_eq_ok_iff.mp made
    refine ⟨?_, .inl aligned, rfl⟩
    have again : staged.mapM settledStage = .ok staged := by
      refine Except.mapM_eq_ok_iff.mpr (List.forall₂_same.mpr fun entry member => ?_)
      obtain ⟨before, -, step⟩ :=
        Keyed.exists_of_forall₂_right
          (R := fun before after => settledStage before = .ok after) aligned member
      exact settledStage_settled step
    rw [failDistinguishable_eq, pairObservables_settled aligned, if_neg differ]
    show (({ staging with staged := · }) <$> staged.mapM settledStage) = _
    rw [again]
    rfl

/-- The entries with other stages for their cases. -/
private theorem exists_entries_of_aligned {settled : List (String × StagedCase)}
    (keyed : ∀ entry ∈ entries, run.Keyed entry)
    (aligned : List.Forall₂ (fun entry other => settledStage entry = .ok other)
      (stagingOf entries).staged settled) :
    ∃ others : List ReplayEntry, others.map (·.caseId) = entries.map (·.caseId) ∧
    (∀ entry ∈ others, run.Keyed entry) ∧
      settled = (stagingOf others).staged ∧
      (stagingOf others).replayKeys = (stagingOf entries).replayKeys := by
  induction entries generalizing settled with
  | nil =>
    cases aligned
    exact ⟨[], rfl, List.forall_mem_nil _, rfl, rfl⟩
  | cons entry rest ih =>
    obtain ⟨first, others⟩ := List.forall_mem_cons.mp keyed
    obtain ⟨head, tail, step, later, rfl⟩ := List.forall₂_cons_left_iff.mp aligned
    obtain ⟨tailEntries, ids, tailKeyed, rfl, keys⟩ := ih others later
    refine ⟨{ entry with stage := head.2 } :: tailEntries, ?_, ?_, ?_, ?_⟩
    · rw [List.map_cons, ids]
      rfl
    · exact List.forall_mem_cons.mpr ⟨⟨first.found, first.keyed⟩, tailKeyed⟩
    · have sameCase : head.1 = entry.caseId := (settledStage_observable step).1
      exact congrArg (· :: (stagingOf tailEntries).staged) (Prod.ext sameCase rfl)
    · exact congrArg ((entry.caseId, entry.key) :: ·) keys

variable {selectedIds : List String}

/-- What the pair rule makes of staged cases without a failure it leaves as it is. -/
private theorem returns_applyPairRule (keyed : ∀ entry ∈ entries, run.Keyed entry) :
    (applyPairRule run selectedIds (stagingOf entries)).Returns fun settled =>
    settled.failures = [] →
      applyPairRule run selectedIds settled = pure settled ∧ ∃ others : List ReplayEntry,
        others.map (·.caseId) = entries.map (·.caseId) ∧ (∀ entry ∈ others, run.Keyed entry) ∧
          settled = stagingOf others := by
  have kept (same : applyPairRule run selectedIds (stagingOf entries) = pure (stagingOf entries)) :
      applyPairRule run selectedIds (stagingOf entries) = pure (stagingOf entries) ∧
        ∃ others : List ReplayEntry,
        others.map (·.caseId) = entries.map (·.caseId) ∧ (∀ entry ∈ others, run.Keyed entry) ∧
          stagingOf entries = stagingOf others := ⟨same, entries, rfl, keyed, rfl⟩
  by_cases selected : pairIds.all (· ∈ selectedIds) = true
  · by_cases both : pairIds.all (· ∈ (stagingOf entries).staged.map (·.1)) = true
    · have rule (staging : Staging) (staged : pairIds.all (· ∈ staging.staged.map (·.1)) = true) :
          applyPairRule run selectedIds staging = Coroutine.ofExcept
              (failDistinguishable staging) := by
        rw [applyPairRule, if_pos selected, if_pos staged]
      rw [rule _ both]
      refine (returns_ofExcept _).mono fun settled made none => ?_
      obtain ⟨again, stages, keys⟩ := failDistinguishable_settled made
      have settles {others : List ReplayEntry}
          (ids : others.map (·.caseId) = entries.map (·.caseId))
          (staged : settled.staged = (stagingOf others).staged) :
          applyPairRule run selectedIds settled = pure settled := by
        have sameIds : settled.staged.map (·.1) = (stagingOf entries).staged.map (·.1) := by
          rw [staged]
          simpa only [stagingOf, List.map_map, Function.comp_def] using ids
        rw [rule settled (sameIds ▸ both), again]
        rfl
      obtain ⟨staged, replayKeys, failures⟩ := settled
      obtain rfl : failures = [] := none
      obtain rfl : replayKeys = (stagingOf entries).replayKeys := keys
      rcases stages with aligned | same
      · obtain ⟨others, ids, othersKeyed, stagedSame, keysSame⟩ :=
          exists_entries_of_aligned keyed aligned
        obtain rfl : staged = (stagingOf others).staged := stagedSame
        refine ⟨settles ids rfl, others, ids, othersKeyed, ?_⟩
        rw [← keysSame]
        rfl
      · obtain rfl : staged = (stagingOf entries).staged := same
        exact ⟨settles rfl rfl, entries, rfl, keyed, rfl⟩
    · have rule : applyPairRule run selectedIds (stagingOf entries) =
          dropAlone run (stagingOf entries) := by
        rw [applyPairRule, if_pos selected, if_neg both]
      cases found : (stagingOf entries).staged.find? (·.1 ∈ pairIds) with
      | none =>
        have same : applyPairRule run selectedIds (stagingOf entries) =
            pure (stagingOf entries) := by
          rw [rule, dropAlone, found]
        rw [same]
        exact returns_pure fun _ => kept same
      | some entry =>
        rw [rule, dropAlone, found]
        refine returns_bind fun failure => returns_pure fun none => ?_
        cases List.append_eq_nil_iff.mp none |>.2
  · have rule : applyPairRule run selectedIds (stagingOf entries) = pure (stagingOf entries) := by
      rw [applyPairRule, if_neg selected]
    rw [rule]
    exact returns_pure fun _ => kept rule

private theorem key_nodup (keyed : ∀ entry ∈ entries, run.Keyed entry)
    (distinct : (entries.map (·.caseId)).Nodup) :
    (entries.map (·.key)).Nodup := by
  have named : (entries.map (·.key)).map (·.caseId) = entries.map (·.caseId) := by
    rw [List.map_map]
    exact List.map_congr_left fun entry member => (replayKey_eq_some (keyed entry member).keyed).2.1
  exact .of_map _ (named ▸ distinct)

/-- A case that is persisted enters the cache as it was staged. -/
private theorem persistCase_first (key : ReplayCacheKey) (stage : StagedCase)
    (state : HarnessState) :
    (persistCase run (some key) stage).Ensures state fun outcome final events =>
    ∀ record, outcome = .ok (.ok record) →
      record = stage.result ∧ Acknowledged events stage.result ∧ final = { state with
        persistedStageByReplayKey := (key, stage) :: state.persistedStageByReplayKey } := by
  have persists := persists_appendResult run.harness stage.result stage.evalCase run.laneArtifact
  have settles : (appendResult run.harness stage.result stage.evalCase run.laneArtifact).Meets
      (fun _ => True) _ _ :=
    meets_appendResult lenient_anything run.harness stage.result stage.evalCase run.laneArtifact
      fun _ _ _ => trivial
  unfold persistCase
  refine ensures_bind_iff.mpr (((persists state).and (settles.ensures state trivial)).mono
    fun outcome middle before kept => ?_)
  obtain ⟨⟨rfl, -⟩, -, persisted⟩ := kept
  rcases outcome with failure | failure | record
  · exact fun _ => nofun
  · exact ensures_pure_iff.mpr fun _ => nofun
  obtain ⟨rfl, acknowledged⟩ : record = stage.result ∧ Acknowledged before stage.result := persisted
  refine ensures_bind_iff.mpr
    ((plain_copiesAreClosed stage.result stage middle).mono fun outcome last looked kept => ?_)
  obtain ⟨rfl, -⟩ := kept
  rcases outcome with failure | closed
  · exact fun _ => nofun
  dsimp only
  split
  · refine ensures_bind_iff.mpr
      (ensures_modify_iff.mpr (ensures_pure_iff.mpr fun record same => ?_))
    cases same
    exact ⟨rfl, acknowledged.mono (List.subset_append_left _ _), rfl⟩
  · refine ensures_bind_iff.mpr ((plain_laneFailure run _ _ _ last).mono fun outcome _ _ _ => ?_)
    cases outcome with
    | error failure => exact fun _ => nofun
    | ok failure => exact ensures_pure_iff.mpr fun _ => nofun

/-- If no case fails to be persisted, every result is acknowledged and every stage is in the
cache. -/
private theorem persistSelected_first {staging : Staging} (listed : ∀ entry ∈ entries,
      staging.staged.lookup entry.caseId = some entry.stage ∧
      staging.replayKeys.lookup entry.caseId = some entry.key)
    (distinct : (entries.map (·.key)).Nodup) (records : LaneRecords) (state : HarnessState) :
    (persistSelected run staging (entries.map (·.caseId)) records).Ensures state fun outcome final
    events =>
      ∀ told, outcome = .ok told → told.failures = [] → records.failures = [] ∧
        told.results = records.results ++ entries.map (·.stage.result) ∧
        (∀ entry ∈ entries, Acknowledged events entry.stage.result) ∧ Cached entries final ∧
        ∀ key ∉ entries.map (·.key),
          final.persistedStageByReplayKey.lookup key =
          state.persistedStageByReplayKey.lookup key := by
  induction entries generalizing records state with
  | nil =>
    refine ensures_pure_iff.mpr ?_
    rintro told same none
    obtain rfl := Except.ok.inj same
    exact ⟨none, (List.append_nil _).symm, List.forall_mem_nil _, List.forall_mem_nil _,
      fun _ _ => rfl⟩
  | cons entry rest ih =>
    obtain ⟨⟨staged, keyListed⟩, others⟩ := List.forall_mem_cons.mp listed
    rw [List.map_cons, List.nodup_cons] at distinct
    rw [List.map_cons, persistSelected, staged, keyListed]
    refine ensures_bind_iff.mpr ((persistCase_first entry.key entry.stage state).mono
      fun outcome middle before persisted => ?_)
    rcases outcome with failure | persistedCase
    · exact fun _ => nofun
    refine (ih others distinct.2 _ middle).mono fun outcome final after settled => ?_
    rintro told rfl none
    obtain ⟨noFailure, results, acknowledged, cached, frame⟩ := settled told rfl none
    rcases persistedCase with failure | record
    · cases List.append_eq_nil_iff.mp noFailure |>.2
    obtain ⟨rfl, first, rfl⟩ := persisted record rfl
    refine ⟨noFailure, ?_, List.forall_mem_cons.mpr ⟨?_, fun other member => ?_⟩,
      List.forall_mem_cons.mpr ⟨?_, cached⟩, fun key absent => ?_⟩
    · rw [results]
      exact List.append_assoc ..
    · exact first.mono (List.subset_append_left _ _)
    · exact (acknowledged other member).mono (List.subset_append_right _ _)
    · rw [frame entry.key distinct.1]
      exact List.lookup_cons_self
    · rw [List.map_cons, List.mem_cons, not_or] at absent
      have apart : (key == entry.key) = false := beq_eq_false_iff_ne.mpr absent.1
      rw [frame key absent.2, List.lookup_cons, apart]

/-- A call that persists a result of an entry, or a plain one. -/
def IsReplay (entries : List ReplayEntry) : HarnessCall → Prop
  | .appendEvalResult record => ∃ entry ∈ entries, record = entry.stage.result
  | .loadEvalResult .. => True
  | call => call.IsPlain

private theorem isReplay_of_plain (call : HarnessCall) (plain : call.IsPlain) :
    IsReplay entries call := by
  cases call <;> trivial

private theorem isReplay_of_persists {entry : ReplayEntry} (member : entry ∈ entries)
    (call : HarnessCall) (persists : call.Persists entry.stage.result) : IsReplay entries call := by
  cases call <;> first | trivial | exact ⟨entry, member, persists⟩

/-- A part of a run that keeps the entries in the cache and persists nothing else. -/
def Keeps (entries : List ReplayEntry) (state : HarnessState) (events : List HarnessEvent)
    (final : HarnessState) : Prop :=
  Cached entries state → Cached entries final ∧ ∀ event ∈ events, IsReplay entries event.call

theorem composes_keeps (entries : List ReplayEntry) : Composes (Keeps entries) where
  refl _ cached := ⟨cached, List.forall_mem_nil _⟩
  trans first second cached := by
    obtain ⟨middle, before⟩ := first cached
    obtain ⟨final, after⟩ := second middle
    exact ⟨final, List.forall_mem_append.mpr ⟨before, after⟩⟩

/-- The stage of an entry may enter the cache again. -/
private theorem cached_cons {entry : ReplayEntry} (member : entry ∈ entries) {state : HarnessState}
    (cached : Cached entries state) :
    Cached entries { state with
      persistedStageByReplayKey :=
      (entry.key, entry.stage) :: state.persistedStageByReplayKey } := by
  intro other known
  show List.lookup other.key ((entry.key, entry.stage) :: state.persistedStageByReplayKey) =
    some other.stage
  rw [List.lookup_cons]
  split
  · next same =>
    rw [← cached other known, beq_iff_eq.mp same, cached entry member]
  · exact cached other known

private theorem keeps_of_within {α : Type} {action : Harness α}
    (within : action.Within (IsReplay entries)) :
    action.Steps (Keeps entries) := within.steps fun _ _ calls cached => ⟨cached, calls⟩

theorem keeps_of_plain {α : Type} {action : Harness α} (plain : Plain action) :
    action.Steps (Keeps entries) :=
  keeps_of_within (plain.mono isReplay_of_plain)

private theorem keeps_cache {entry : ReplayEntry} (member : entry ∈ entries) :
    (Coroutine.modify fun state => { state with
    persistedStageByReplayKey := (entry.key, entry.stage) :: state.persistedStageByReplayKey } :
    Harness Unit).Steps
      (Keeps entries) :=
  fun _ => ensures_modify_iff.mpr fun cached => ⟨cached_cons member cached, List.forall_mem_nil _⟩

private theorem keeps_persistCase {entry : ReplayEntry} (member : entry ∈ entries) :
    (persistCase run (some entry.key) entry.stage).Steps (Keeps entries) := by
  have composes := composes_keeps entries
  have persists :=
    persists_appendResult run.harness entry.stage.result entry.stage.evalCase run.laneArtifact
  have settles : (appendResult run.harness entry.stage.result entry.stage.evalCase
    run.laneArtifact).Meets
      (fun _ => True) (fun _ outcome => ∀ record, outcome = .ok record →
          record = entry.stage.result) fun _ _ => True := by
    refine (meets_appendResult lenient_anything run.harness entry.stage.result entry.stage.evalCase
      run.laneArtifact
      fun _ _ _ => trivial).weaken ?_
    rintro events outcome persisted record rfl
    exact persisted.1
  unfold persistCase
  refine (keeps_of_within (persists.mono (isReplay_of_persists member))).bindReturned composes
    settles.returns
    fun appended same => ?_
  rcases appended with failure | record
  · exact composes.pure _
  obtain rfl := same record rfl
  refine (keeps_of_plain (plain_copiesAreClosed _ _)).bind composes fun closed => ?_
  split
  · exact (keeps_cache member).bind composes fun _ => composes.pure _
  · exact (keeps_of_plain (plain_laneFailure run _ _ _)).bind composes fun _ => composes.pure _

private theorem keeps_persistSelected {staging : Staging} {rest : List ReplayEntry}
    (part : rest ⊆ entries)
    (listed : ∀ entry ∈ rest, staging.staged.lookup entry.caseId = some entry.stage ∧
      staging.replayKeys.lookup entry.caseId = some entry.key) (records : LaneRecords) :
    (persistSelected run staging (rest.map (·.caseId)) records).Steps (Keeps entries) := by
  have composes := composes_keeps entries
  induction rest generalizing records with
  | nil => exact composes.pure records
  | cons entry rest ih =>
    obtain ⟨⟨staged, keyListed⟩, others⟩ := List.forall_mem_cons.mp listed
    obtain ⟨member, part⟩ := List.cons_subset.mp part
    rw [List.map_cons, persistSelected, staged, keyListed]
    exact (keeps_persistCase member).bind composes fun persisted => ih part others _

variable {store : ResultStore} {record : EvalResultRecord}

private theorem yields_isClosed (object : CheckedObject) :
    (isClosed object).Yields (Cached entries) (Trusted store) true :=
  yields_ask fun _ trusted => trusted.2

theorem yields_singletonStateIsClosed :
    singletonStateIsClosed.Yields (Cached entries) (Trusted store) true :=
  yields_ask fun _ trusted => trusted.2

theorem yields_restoreSingletonState :
    restoreSingletonState.Yields (Cached entries) (Trusted store) true :=
  yields_ask fun _ trusted => trusted.2

theorem yields_detached {α : Type} (object : CheckedObject) (value : α) :
    (detached object value).Yields (Cached entries) (Trusted store) (some value) :=
  (yields_isClosed object).bind (yields_pure _)

private theorem yields_caught {α : Type} {action : Harness α} {value : α}
    (yields : action.Yields (Cached entries) (Trusted store) value) :
    (caught action).Yields (Cached entries) (Trusted store) (some value) :=
  (yields.map some).tryCatch

/-- The store has the record already. -/
private theorem yields_writeResult (stored : store (resultKeyOf record) = some record) :
    (writeResult record).Yields (Cached entries) (Trusted store) (some .alreadyExists) := by
  have appended : (do Coroutine.ofExcept (← Coroutine.ask (HarnessCall.appendEvalResult record)) :
      Harness (Option InsertOnlyWriteResult)).Yields (Cached entries) (Trusted store)
          (some .alreadyExists) := by
    have told : (Coroutine.ask (HarnessCall.appendEvalResult record) : Harness _).Yields
        (Cached entries) (Trusted store)
        (.ok (some .alreadyExists)) := by
      refine yields_ask fun answer trusted => ?_
      have answered : answer =
          .ok (some (if (store (resultKeyOf record)).isSome then .alreadyExists else .inserted)) :=
        trusted.1
      rw [answered, stored]
      rfl
    exact told.bind (yields_ofExcept rfl)
  unfold writeResult
  refine (yields_isClosed _).bind ?_
  refine (yields_caught appended).bind ?_
  refine (yields_isClosed _).bind ?_
  exact yields_singletonStateIsClosed.bind (yields_pure _)

private theorem yields_loadedEqual (stored : store (resultKeyOf record) = some record) :
    (loadedEqual record).Yields (Cached entries) (Trusted store) true := by
  have loads : (Coroutine.ask
    (HarnessCall.loadEvalResult record.evalRunId record.caseId record.lane record.attempt) :
      Harness _).Yields (Cached entries) (Trusted store) (.ok (some record)) := by
    refine yields_ask fun answer trusted => ?_
    have loaded : answer.toOption.join = some record := trusted.1.trans stored
    rcases answer with failure | _ | found
    · cases loaded
    · cases loaded
    · exact congrArg Except.ok loaded
  unfold loadedEqual
  refine (yields_caught
    ((yields_detached _ record.evalRunId).bind (loads.bind (yields_ofExcept rfl)))).bind ?_
  refine yields_singletonStateIsClosed.bind ?_
  simp only [Bool.not_true, Bool.false_eq_true, if_false, Option.join_some, beq_self_eq_true,
    Bool.and_self, if_true]
  exact yields_isClosed _

private theorem yields_appendResult (stored : store (resultKeyOf record) = some record) :
    (appendResult run.harness record evalCase run.laneArtifact).Yields (Cached entries)
    (Trusted store) (.ok record) := by
  unfold appendResult
  refine (yields_writeResult stored).bind ?_
  exact (yields_loadedEqual stored).bind (yields_pure _)

private theorem yields_copiesAreClosed (stage : StagedCase) :
    (copiesAreClosed record stage).Yields (Cached entries) (Trusted store) true :=
  (yields_isClosed _).bind
    ((yields_isClosed _).bind ((yields_isClosed _).bind ((yields_isClosed _).bind (yields_pure _))))

private theorem yields_persistCase {entry : ReplayEntry} (member : entry ∈ entries)
    (stored : store (resultKeyOf entry.stage.result) = some entry.stage.result) :
    (persistCase run (some entry.key) entry.stage).Yields (Cached entries) (Trusted store)
    (.ok entry.stage.result) := by
  unfold persistCase
  refine (yields_appendResult stored).bind ?_
  refine (yields_copiesAreClosed entry.stage).bind ?_
  exact (yields_modify fun state => cached_cons member).bind (yields_pure _)

private theorem yields_persistSelected {staging : Staging} {rest : List ReplayEntry}
    (part : rest ⊆ entries)
    (listed : ∀ entry ∈ rest, staging.staged.lookup entry.caseId = some entry.stage ∧
      staging.replayKeys.lookup entry.caseId = some entry.key)
    (stored : ∀ entry ∈ entries, store (resultKeyOf entry.stage.result) = some entry.stage.result)
    (records : LaneRecords) :
    (persistSelected run staging (rest.map (·.caseId)) records).Yields (Cached entries)
      (Trusted store) { records with results := records.results ++ rest.map (·.stage.result) } := by
  induction rest generalizing records with
  | nil =>
    rw [List.map_nil, List.map_nil, List.append_nil]
    exact yields_pure records
  | cons entry rest ih =>
    obtain ⟨⟨staged, keyListed⟩, others⟩ := List.forall_mem_cons.mp listed
    obtain ⟨member, part⟩ := List.cons_subset.mp part
    have more := ih part others (records.add (.ok entry.stage.result))
    rw [LaneRecords.add, List.append_assoc] at more
    rw [List.map_cons, persistSelected, staged, keyListed]
    exact (yields_persistCase member (stored entry member)).bind more

/-- Failures are only ever added. -/
private theorem returns_applyPairRule_failures (staging : Staging) :
    (applyPairRule run selectedIds staging).Returns
    fun settled => settled.failures = [] → staging.failures = [] := by
  unfold applyPairRule dropAlone
  split
  · split
    · refine (returns_ofExcept _).mono fun settled made none => ?_
      rw [failDistinguishable_eq] at made
      split at made
      · rwa [Except.ok.inj made]
      · rw [map_eq_pure_bind, Except.bind_eq_ok_iff] at made
        obtain ⟨staged, -, same⟩ := made
        obtain rfl := Except.pure_eq_ok_iff.mp same
        exact none
    · split
      · exact returns_pure id
      · exact returns_bind fun failure => returns_pure fun none =>
          (List.append_eq_nil_iff.mp none).1
  · exact returns_pure id

private theorem returns_persistSelected_failures (staging : Staging) (ids : List String)
    (records : LaneRecords) :
    (persistSelected run staging ids records).Returns fun told => told.failures = [] →
    records.failures = [] := by
  induction ids generalizing records with
  | nil => exact returns_pure id
  | cons caseId rest ih =>
    unfold persistSelected
    split
    · exact ih records
    · refine returns_bind fun persisted => (ih _).mono fun told before none => ?_
      cases persisted with
      | ok record => exact before none
      | error failure => exact (List.append_eq_nil_iff.mp (before none)).1

/-- What a lane tells whose selected cases all have a result. -/
def tellsAll (lane : String) (entries : List ReplayEntry) :
    Except EvalException EvalLaneRunOutcome :=
  constructed {
    lane
    results := entries.map (·.stage.result)
    executionFailures := []
    commandPassed := (entries.map (·.stage.result)).length == (entries.map (·.caseId)).length &&
      (entries.map (·.stage.result)).all (·.status == .pass) }

/-- The entries are the settled stages of the selected cases. -/
structure IsSettled (run : LaneRun) (selectedIds : List String) (entries : List ReplayEntry) :
    Prop where
  ids : entries.map (·.caseId) = selectedIds
  distinct : selectedIds.Nodup
  keyed : ∀ entry ∈ entries, run.Keyed entry
  settled : applyPairRule run selectedIds (stagingOf entries) = pure (stagingOf entries)

theorem IsSettled.listed (settles : run.IsSettled selectedIds entries) : ∀ entry ∈ entries,
    (stagingOf entries).staged.lookup entry.caseId = some entry.stage ∧
      (stagingOf entries).replayKeys.lookup entry.caseId = some entry.key := by
  intro entry member
  have distinct : (entries.map (·.caseId)).Nodup := settles.ids ▸ settles.distinct
  have apart {ν : Type} (value : ReplayEntry → ν) :
      ((entries.map fun entry => (entry.caseId, value entry)).map Prod.fst).Nodup := by
    simpa [Function.comp_def] using distinct
  exact ⟨Keyed.lookup_of_distinct (apart _) (List.mem_map_of_mem member),
    Keyed.lookup_of_distinct (apart _) (List.mem_map_of_mem member)⟩

/-- A lane that has no failure to tell leaves the settled stages of its cases in the cache and in
the store. -/
theorem runSelected_first (lane : String) (distinct : selectedIds.Nodup) (state : HarnessState) :
    (runSelected run lane selectedIds).Ensures state fun outcome final events =>
    ∀ told, outcome = .ok told →
      told.executionFailures = [] → ∃ entries, run.IsSettled selectedIds entries ∧
      tellsAll lane entries = .ok told ∧
        Cached entries final ∧ ∀ entry ∈ entries, Acknowledged events entry.stage.result := by
  have fails {settled : Staging} (some_ : settled.failures ≠ []) (last : HarnessState) : Ensures (do
      let records ← persistSelected run settled selectedIds { failures := settled.failures }
      Coroutine.ofExcept (constructed {
        lane
        results := records.results
        executionFailures := records.failures
        commandPassed := records.failures.isEmpty && records.results.length == selectedIds.length &&
          records.results.all (·.status == .pass) }) : Harness EvalLaneRunOutcome) last
      fun outcome _ _ => ∀ told, outcome = .ok told → told.executionFailures ≠ [] := by
    refine ensures_bind_iff.mpr
      (((returns_persistSelected_failures settled selectedIds _).ensures last).mono
      fun outcome final persisting before => ?_)
    rcases outcome with failure | records
    · exact fun _ => nofun
    refine ensures_ofExcept_iff.mpr fun told made none => ?_
    obtain ⟨-, rfl⟩ := constructed_eq_ok_iff.mp made
    exact some_ (before records rfl none)
  unfold runSelected
  refine ensures_bind_iff.mpr (((returns_stageSelected selectedIds {}).ensures state).mono
    fun outcome middle _ staged => ?_)
  rcases outcome with failure | ⟨stagedCases, replayKeys, failures⟩
  · exact fun _ => nofun
  by_cases none : failures = []
  · subst none
    obtain ⟨-, entries, ids, keyed, stagedSame, keysSame⟩ := staged _ rfl rfl
    obtain rfl : stagedCases = (stagingOf entries).staged := stagedSame
    obtain rfl : replayKeys = (stagingOf entries).replayKeys := keysSame
    refine ensures_bind_iff.mpr
      (((returns_applyPairRule keyed).ensures middle).mono fun outcome last _ paired => ?_)
    rcases outcome with failure | settled
    · exact fun _ => nofun
    by_cases noneSettled : settled.failures = []
    · obtain ⟨fixed, others, sameIds, othersKeyed, rfl⟩ := paired settled rfl noneSettled
      have settles : run.IsSettled selectedIds others :=
        ⟨sameIds.trans ids, distinct, othersKeyed, fixed⟩
      have keys : (others.map (·.key)).Nodup := key_nodup othersKeyed (settles.ids ▸ distinct)
      have persisted :=
        @persistSelected_first run others _ settles.listed keys { failures := [] } last
      rw [settles.ids] at persisted
      refine ensures_bind_iff.mpr (persisted.mono fun outcome final _ kept => ?_)
      rcases outcome with failure | ⟨results, failures⟩
      · exact fun _ => nofun
      refine ensures_ofExcept_iff.mpr fun told made noFailures => ?_
      obtain rfl : failures = [] := by
        obtain ⟨-, rfl⟩ := constructed_eq_ok_iff.mp made
        exact noFailures
      obtain ⟨-, sameResults, acknowledged, cached, -⟩ := kept _ rfl rfl
      obtain rfl : results = others.map (·.stage.result) := sameResults
      refine ⟨others, settles, ?_, cached, fun entry member => ?_⟩
      · rw [tellsAll, settles.ids]
        exact made
      · refine (acknowledged entry member).mono ?_
        exact List.subset_append_of_subset_right _
          (List.subset_append_of_subset_right _ (List.subset_append_left _ _))
    · refine (fails noneSettled last).mono fun outcome _ _ told value same none => ?_
      exact absurd none (told value same)
  · refine ensures_bind_iff.mpr
      (((returns_applyPairRule_failures _).ensures middle).mono fun outcome last _ before => ?_)
    rcases outcome with failure | settled
    · exact fun _ => nofun
    have some_ : settled.failures ≠ [] := fun noneSettled => none (before settled rfl noneSettled)
    refine (fails some_ last).mono fun outcome _ _ told value same noneTold => ?_
    exact absurd noneTold (told value same)

/-- With the settled stages in the cache the lane is their persistence. -/
private theorem runSelected_cached {lane : String} (settles : run.IsSettled selectedIds entries)
    {state : HarnessState} (cached : Cached entries state) :
    runSelected run lane selectedIds state = (do
      let records ← persistSelected run (stagingOf entries) selectedIds { failures := [] }
      Coroutine.ofExcept (constructed {
        lane
        results := records.results
        executionFailures := records.failures
        commandPassed := records.failures.isEmpty && records.results.length == selectedIds.length &&
          records.results.all (·.status == .pass) }) : Harness EvalLaneRunOutcome) state := by
  have staged :
      stageSelected run selectedIds {} state = .done (.ok (stagingOf entries), state) := by
    have hits := stageSelected_cached settles.keyed cached []
    rwa [settles.ids] at hits
  unfold runSelected
  rw [bind_of_done staged, settleSelected, settles.settled]
  rfl

/-- Replaying the settled stages keeps them in the cache and persists nothing else. -/
theorem keeps_runSelected {lane : String} (settles : run.IsSettled selectedIds entries) :
    (runSelected run lane selectedIds).Steps (Keeps entries) := by
  have composes := composes_keeps entries
  have persists :
      (persistSelected run (stagingOf entries) (entries.map (·.caseId)) { failures := [] }).Steps
      (Keeps entries) := keeps_persistSelected (List.Subset.refl entries) settles.listed _
  rw [settles.ids] at persists
  intro state events outcome final ran cached
  rw [runSelected_cached settles cached] at ran
  exact (persists.bind composes fun records => composes.ofExcept _) state events outcome final
    ran cached

/-- Replaying the settled stages under trusted answers tells of their results. -/
theorem yields_runSelected {lane : String} {told : EvalLaneRunOutcome}
    (settles : run.IsSettled selectedIds entries) (tells : tellsAll lane entries = .ok told)
    (stored : ∀ entry ∈ entries, store (resultKeyOf entry.stage.result) = some entry.stage.result) :
    (runSelected run lane selectedIds).Yields (Cached entries) (Trusted store) told := by
  have persists :
      (persistSelected run (stagingOf entries) (entries.map (·.caseId)) { failures := [] }).Yields
      (Cached entries) (Trusted store)
          { results := entries.map (·.stage.result), failures := [] } :=
    yields_persistSelected (List.Subset.refl entries) settles.listed stored _
  rw [settles.ids] at persists
  rw [tellsAll, settles.ids] at tells
  intro state cached events outcome final ran
  rw [runSelected_cached settles cached] at ran
  exact (persists.bind (yields_ofExcept tells)) state cached events outcome final ran

end LaneRun

end MiniAgent.Evaluation
